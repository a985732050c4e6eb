import SchemaGen.Proofs.Classification
import SchemaGen.Proofs.TypeExpressions
import SchemaGen.Resolution

/-!
# Resolution goes by depth

A field of a plain type has the validator of the type, a field of a collection or an array of a
plain type has an array of it, and what is nested deeper has none.  How the collection is written
makes no difference.

* `TypeExpression.ofType_named`, `TypeExpression.ofType_generic`, `TypeExpression.ofType_array`:
  the fields of these types.
* `Shape.ofField_named`, `Shape.ofField_of_element`, `Shape.ofField_of_signature`: their shapes.
* `TypeExpression.resolve_by_depth`: what fields resolve to.
-/

namespace SchemaGen

open Text

namespace TypeExpression

/-! ## Fields -/

theorem stripSuffix?_eq_none {s : List Char} (h : ¬ "[]".toList <:+ s) :
    stripSuffix? "[]".toList s = none := by
  unfold stripSuffix?
  rw [if_neg fun hsuffix => h (List.isSuffixOf_iff_suffix.mp hsuffix)]

/-- The field of a plain type. -/
theorem ofType_named (name : String) (path : TypePath) :
    Field.ofType name path.text =
      ⟨name, path.text, decide path.IsCollection, none, none⟩ := by
  have hsuffix : ¬ "[]".toList <:+ path.text.toList := by
    intro h
    exact absurd (path.isPathChar_of_mem_text _ (h.subset (List.mem_cons_self ..))) (by decide)
  have hopen : path.text.toList.contains '<' = false := by
    rw [List.contains_eq_mem, decide_eq_false_iff_not]
    intro h
    exact absurd (path.isPathChar_of_mem_text _ h) (by decide)
  unfold Field.ofType
  simp only [trimmed_of_forall path.isBlank_of_mem_text, stripSuffix?_eq_none hsuffix, hopen,
    Bool.false_eq_true, if_false, path.simple_text, path.isCollection_name]

/-- The field of a collection with a type argument. -/
theorem ofType_generic (name : String) (container : TypePath)
    (hcontainer : container.IsCollection) (argument : TypeExpression) :
    Field.ofType name (generic container hcontainer argument).text =
      ⟨name, container.name, true, none, some (generic container hcontainer argument).text⟩ := by
  have hsuffix : ¬ "[]".toList <:+ (generic container hcontainer argument).text.toList := by
    rintro ⟨front, h⟩
    have hlast := congrArg List.getLast? h
    rw [toList_text_generic, ← List.cons_append, ← List.append_assoc, List.getLast?_concat] at hlast
    simp at hlast
  have hopen : (generic container hcontainer argument).text.toList.contains '<' = true := by
    rw [List.contains_eq_mem, toList_text_generic]
    simp
  unfold Field.ofType
  simp only [trimmed_text, stripSuffix?_eq_none hsuffix, hopen, if_true, outer_text_generic,
    container.simple_text, container.isCollection_name, decide_eq_true hcontainer]

/-- The field of an array. -/
theorem ofType_array (name : String) (item : TypeExpression) :
    Field.ofType name (array item).text =
      ⟨name, (array item).text, true, some item.text, none⟩ := by
  have hstrip : stripSuffix? "[]".toList (array item).text.toList = some item.text.toList := by
    rw [stripSuffix?_eq_some, text, String.toList_append]
  unfold Field.ofType
  simp only [trimmed_text, hstrip, trim_of_forall item.isBlank_of_mem_text, String.ofList_toList]

end TypeExpression

/-! ## Shapes -/

namespace Shape

open TypeExpression

variable {options : Options}

theorem overrideFor_eq_none (hoptions : options.overrides = []) (type : String) :
    options.overrideFor type = none := by
  rw [Options.overrideFor, hoptions]
  rfl

/-- An identifier that is no collection has a shape. -/
theorem exists_ofScalar (hoptions : options.overrides = []) {name : String}
    (h : TypeName.isIdentifier name = true) : ∃ shape, ofScalar options name = .ok shape := by
  unfold ofScalar
  rw [overrideFor_eq_none hoptions]
  simp only [h, if_true]
  split
  · exact ⟨_, rfl⟩
  · split
    · exact ⟨_, rfl⟩
    · exact ⟨_, rfl⟩

/-- The shape of an element that is written by the grammar. -/
theorem ofElement_text (type : TypeExpression) (h : 1 ≤ type.depth ∨ type.base.IsCollection) :
    ofElement options type.text = .error (.recursiveCollection type.text) := by
  unfold ofElement
  rw [if_pos (type.isCollection_text.mpr h)]

/-- An element that is told by a dotted path, or by the name in it, has this name looked up, unless
it is a collection. -/
theorem ofElement_of_path {path : TypePath} {shown : String}
    (h : shown = path.text ∨ shown = path.name) : ofElement options shown =
      if path.IsCollection then .error (.recursiveCollection shown)
      else ofScalar options path.name := by
  have hshown : TypeName.isCollection shown = decide path.IsCollection ∧
      TypeName.simple shown = path.name := by
    rcases h with rfl | rfl
    · exact ⟨path.isCollection_text, path.simple_text⟩
    · exact ⟨path.isCollection_name, path.simple_name⟩
  unfold ofElement
  rw [hshown.1, hshown.2]
  by_cases hpath : path.IsCollection
  · rw [if_pos (decide_eq_true hpath), if_pos hpath]
  · rw [if_neg (by simpa using hpath), if_neg hpath]

theorem ofElement_path (path : TypePath) (h : ¬ path.IsCollection) :
    ofElement options path.text = ofScalar options path.name := by
  rw [ofElement_of_path (.inl rfl), if_neg h]

/-- The shape of a field of a collection, from the type of its elements. -/
theorem ofField_of_isCollection (hoptions : options.overrides = []) {field : Field}
    (hfield : field.isCollection = true) : ofField options field =
      (field.elementType.bind (ofElement options)).map .collection := by
  have hcollection : isCollectionField field = true := by
    rw [isCollectionField, hfield, Bool.true_or]
  exact ofField_of_isCollectionField (overrideFor_eq_none hoptions _) hcollection

theorem ofField_named (hoptions : options.overrides = []) (name : String) (path : TypePath) :
    ofField options (.ofType name path.text) =
      if path.IsCollection then .error (.missingElementType path.text)
      else ofScalar options path.name := by
  rw [ofType_named]
  by_cases hpath : path.IsCollection
  · rw [if_pos hpath, ofField_of_isCollection hoptions (decide_eq_true hpath)]
    rfl
  · unfold ofField isCollectionField Field.simpleType
    simp only [overrideFor_eq_none hoptions, path.simple_text, path.isCollection_name,
      decide_eq_false hpath, Bool.or_self, Bool.false_eq_true, if_false, if_neg hpath]

/-- The shape of a field whose elements are told apart. -/
theorem ofField_of_element (hoptions : options.overrides = []) {field : Field}
    (hfield : field.isCollection = true) {item : TypeExpression}
    (helement : field.element = some item.text) :
    ofField options field = (ofElement options item.text).map .collection := by
  rw [ofField_of_isCollection hoptions hfield]
  unfold Field.elementType
  rw [helement]
  simp only [item.trimmed_text, Except.bind]

/-- The shape of a field that has a signature only. -/
theorem ofField_of_signature (hoptions : options.overrides = []) {field : Field}
    (hfield : field.isCollection = true) (helement : field.element = none) {signature : String}
    (hsignature : field.signature = some signature) :
    ofField options field =
      ((TypeName.elementOf signature).bind (ofElement options)).map .collection := by
  rw [ofField_of_isCollection hoptions hfield]
  unfold Field.elementType
  rw [helement, hsignature]

end Shape

/-! ## Resolutions -/

namespace TypeExpression

open Shape

variable {options : Options}

/-- The shape of a plain type. -/
theorem ofField_of_depth_zero (hoptions : options.overrides = []) (name : String)
    {type : TypeExpression} (h : type.depth = 0) :
    ofField options (.ofType name type.text) =
      if type.base.IsCollection then .error (.missingElementType type.text)
      else ofScalar options type.base.name := by
  cases type with
  | named path => exact ofField_named hoptions name path
  | generic container hcontainer argument => simp [depth] at h
  | array item => simp [depth] at h

/-- The signature of a collection of a plain type has the shape of that type inside. -/
theorem ofElement_of_signature (container : TypePath) (hcontainer : container.IsCollection)
    {path : TypePath} (hpath : ¬ path.IsCollection) :
    (TypeName.elementOf (generic container hcontainer (named path)).text).bind
      (ofElement options) = ofScalar options path.name := by
  rw [elementOf_generic_named, if_neg hpath, Except.bind, ofElement_of_path (.inr rfl),
    if_neg hpath]

/-- The shape of a collection or an array of a plain type. -/
theorem ofField_of_depth_one (hoptions : options.overrides = []) (name : String)
    {type : TypeExpression} (h : type.depth = 1) (hbase : ¬ type.base.IsCollection) :
    ofField options (.ofType name type.text) =
      (ofScalar options type.base.name).map .collection := by
  cases type with
  | named path => simp [depth] at h
  | generic container hcontainer argument =>
    cases argument with
    | named path =>
      have hpath : ¬ path.IsCollection := hbase
      rw [ofType_generic, ofField_of_signature hoptions rfl rfl rfl,
        ofElement_of_signature container hcontainer hpath, base, base]
    | generic inner hinner rest => simp [depth] at h
    | array item => simp [depth] at h
  | array item =>
    cases item with
    | named path =>
      have hpath : ¬ path.IsCollection := hbase
      rw [ofType_array, ofField_of_element hoptions rfl rfl, text, ofElement_path path hpath, base,
        base]
    | generic inner hinner rest => simp [depth] at h
    | array inner => simp [depth] at h

/-- What is nested in a collection is none, at any depth. -/
theorem ofField_of_nested (hoptions : options.overrides = []) (name : String)
    {type : TypeExpression} (h : 2 ≤ type.depth ∨ 1 ≤ type.depth ∧ type.base.IsCollection) :
    ∃ nested, ofField options (.ofType name type.text) = .error (.recursiveCollection nested) := by
  cases type with
  | named path => simp [depth] at h
  | generic container hcontainer argument =>
    have helement : ∃ nested, TypeName.elementOf (generic container hcontainer argument).text =
        .error (.recursiveCollection nested) := by
      rcases h with h | ⟨-, hbase⟩
      · exact elementOf_generic_of_depth container hcontainer (Nat.le_of_succ_le_succ h)
      · cases argument with
        | named path => exact ⟨_, (elementOf_generic_named _ _ path).trans (if_pos hbase)⟩
        | generic inner hinner rest =>
          exact elementOf_generic_of_depth container hcontainer (Nat.succ_pos _)
        | array item => exact elementOf_generic_of_depth container hcontainer (Nat.succ_pos _)
    obtain ⟨nested, helement⟩ := helement
    rw [ofType_generic, ofField_of_signature hoptions rfl rfl rfl, helement]
    exact ⟨nested, rfl⟩
  | array item =>
    have hitem : 1 ≤ item.depth ∨ item.base.IsCollection := by
      rcases h with h | ⟨-, h⟩
      · exact .inl (Nat.le_of_succ_le_succ h)
      · exact .inr h
    rw [ofType_array, ofField_of_element hoptions rfl rfl, ofElement_text item hitem]
    exact ⟨item.text, rfl⟩

theorem resolve_eq_ok {field : Field} {shape : Shape} (h : ofField options field = .ok shape) :
    field.resolve options = .ok (shape.resolve options none) := by
  rw [Field.resolve, h]
  rfl

/-- The ways to write a field that holds a collection of a plain type. -/
def spellings (name : String) (container : TypePath) (hcontainer : container.IsCollection)
    (path : TypePath) : List Field :=
  [.ofType name (generic container hcontainer (named path)).text,
    .ofType name (array (named path)).text,
    .collection name container.text path.text,
    (Field.ofType name container.text).withSignature
      (generic container hcontainer (named path)).text]

/-- All of them have the shape of a collection of the plain type. -/
theorem ofField_spelling (hoptions : options.overrides = []) (name : String)
    (container : TypePath) (hcontainer : container.IsCollection) {path : TypePath}
    (hpath : ¬ path.IsCollection) {field : Field}
    (hfield : field ∈ spellings name container hcontainer path) :
    ofField options field = (ofScalar options path.name).map .collection := by
  have hsignature : (TypeName.elementOf (generic container hcontainer (named path)).text).bind
      (ofElement options) = ofScalar options path.name :=
    ofElement_of_signature container hcontainer hpath
  simp only [spellings, List.mem_cons, List.not_mem_nil, or_false] at hfield
  rcases hfield with hfield | hfield | hfield | hfield
  · rw [hfield, ofType_generic, ofField_of_signature hoptions rfl rfl rfl, hsignature]
  · rw [hfield, ofType_array, ofField_of_element hoptions rfl rfl, text,
      ofElement_path path hpath]
  · have hitem : field.element = some (named path).text := by
      rw [hfield]
      rfl
    have hcollection : field.isCollection = true := by
      rw [hfield]
      rfl
    rw [ofField_of_element hoptions hcollection hitem, text, ofElement_path path hpath]
  · rw [hfield, ofType_named, Field.withSignature,
      ofField_of_signature hoptions (decide_eq_true hcontainer) rfl rfl, hsignature]

/-- A field resolves by the depth of its type: a plain type to the validator of its name, a
collection or an array of a plain type to an array of that, and nothing else.  A collection of a
plain type resolves to the same however it is written. -/
theorem resolve_by_depth (hoptions : options.overrides = []) (name : String)
    (type : TypeExpression) :
    (¬ type.base.IsCollection → ∃ r,
      Field.resolve options (.ofType name type.base.name) = .ok r ∧
      (type.depth = 0 → Field.resolve options (.ofType name type.text) = .ok r) ∧
      (type.depth = 1 → Field.resolve options (.ofType name type.text) =
        .ok ⟨"z.array(" ++ r.expression ++ ")", r.imports⟩)) ∧
    (2 ≤ type.depth ∨ 1 ≤ type.depth ∧ type.base.IsCollection → ∃ nested,
      Field.resolve options (.ofType name type.text) = .error (.recursiveCollection nested)) ∧
    (type.depth = 0 → type.base.IsCollection →
      Field.resolve options (.ofType name type.text) = .error (.missingElementType type.text)) ∧
    ∀ (container : TypePath) (hcontainer : container.IsCollection) (path : TypePath),
      ¬ path.IsCollection → ∃ r, Field.resolve options (.ofType name path.text) = .ok r ∧
        ∀ field ∈ spellings name container hcontainer path,
          field.resolve options = .ok ⟨"z.array(" ++ r.expression ++ ")", r.imports⟩ := by
  refine ⟨fun hbase => ?_, fun hdepth => ?_, fun hdepth hbase => ?_, ?_⟩
  · obtain ⟨shape, hshape⟩ := exists_ofScalar hoptions type.base.name_isIdentifier
    have hcollection : ¬ type.base.bare.IsCollection := hbase
    have hbare := ofField_named hoptions name type.base.bare
    rw [if_neg hcollection, type.base.text_bare, type.base.name_bare, hshape] at hbare
    refine ⟨_, resolve_eq_ok hbare, fun hdepth => resolve_eq_ok ?_, fun hdepth => ?_⟩
    · rw [ofField_of_depth_zero hoptions name hdepth, if_neg hbase, hshape]
    · have hfield := ofField_of_depth_one hoptions name hdepth hbase
      rw [hshape] at hfield
      exact resolve_eq_ok hfield
  · obtain ⟨nested, hnested⟩ := ofField_of_nested hoptions name hdepth
    refine ⟨nested, ?_⟩
    rw [Field.resolve, hnested]
    rfl
  · rw [Field.resolve, ofField_of_depth_zero hoptions name hdepth, if_pos hbase]
    rfl
  · intro container hcontainer path hpath
    obtain ⟨shape, hshape⟩ := exists_ofScalar hoptions path.name_isIdentifier
    have hplain := ofField_named hoptions name path
    rw [if_neg hpath, hshape] at hplain
    refine ⟨_, resolve_eq_ok hplain, fun field hspelling => ?_⟩
    have hfield := ofField_spelling hoptions name container hcontainer hpath hspelling
    rw [hshape] at hfield
    exact resolve_eq_ok hfield

/-- A list of tags. -/
def sampleType : TypeExpression :=
  generic ⟨["java", "util"], "List", by decide, by decide⟩ (by decide)
    (named ⟨["com", "acme"], "Tag", by decide, by decide⟩)

theorem resolve_by_depth_sample :
    sampleType.text = "java.util.List<com.acme.Tag>" ∧ ∃ r,
      Field.resolve Options.standard (.ofType "tags" "Tag") = .ok r ∧
      Field.resolve Options.standard (.ofType "tags" sampleType.text) =
        .ok ⟨"z.array(" ++ r.expression ++ ")", r.imports⟩ := by
  have hoptions : Options.standard.overrides = [] := rfl
  obtain ⟨r, hbase, -, hone⟩ := (resolve_by_depth hoptions "tags" sampleType).1 (by decide)
  exact ⟨by decide, r, hbase, hone rfl⟩

end TypeExpression

end SchemaGen
