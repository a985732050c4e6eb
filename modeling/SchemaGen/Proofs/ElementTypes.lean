import SchemaGen.Proofs.Identifiers
import SchemaGen.Proofs.NeededImports
import SchemaGen.Proofs.TrimmedTexts

/-!
# Elements that are told apart

A field whose element type is told apart has the validator that a field of this type would have,
inside an array.  The two are not classified alike.  The type of a field is asked once more, by its
simple name, whether it is a collection, and the simple name is what follows the last dot with the
blanks that follow the dot.  Such a name can be that of a collection where the whole type is none;
then the field has no element type, and the name, which begins with a blank, none of the shapes
that go by names.

* `TypeName.isCollection_of_notMem`: which texts without brackets are collections.
* `TypeName.exists_blank_of_isCollection_simple`: a simple name that is a collection, of a type
  that is none.
* `Shape.ofField_collection_eq_ok`, `Shape.ofField_ofType_eq_ok`: the shapes of both fields.
* `Field.resolves_like_element`: what the fields resolve to.
-/

namespace SchemaGen

open Text

/-! ## Names -/

namespace TypeName

variable {text : String}

theorem simple_trimmed (text : String) : simple (trimmed text) = simple text := by
  unfold simple trimmed
  rw [String.toList_ofList, trim_trim]

theorem isCollection_trimmed (text : String) :
    isCollection (trimmed text) = isCollection text := by
  unfold isCollection
  rw [trimmed_trimmed]

theorem outer_of_notMem (h : '<' ∉ text.toList) : outer text = text := by
  unfold outer
  rw [uptoFirst_of_forall (decide_eq_false_of_notMem h), String.ofList_toList]

theorem toList_trimmed (text : String) : (trimmed text).toList = trim text.toList :=
  String.toList_ofList

theorem toList_simple (text : String) :
    (simple text).toList = afterLast (· = '.') (trim text.toList) :=
  String.toList_ofList

theorem dot_notMem_simple (text : String) : '.' ∉ (simple text).toList := by
  intro h
  rw [toList_simple] at h
  exact absurd (not_of_mem_afterLast _ h) (by decide)

theorem simple_suffix (text : String) : (simple text).toList <:+ trim text.toList := by
  rw [toList_simple]
  exact afterLast_suffix

/-- A text without an opening bracket is a collection by its ending or by its simple name. -/
theorem isCollection_of_notMem (h : '<' ∉ text.toList) : isCollection text = true ↔
    "[]".toList <:+ trim text.toList ∨ lowered (simple text) ∈ collectionNames := by
  have hopen : '<' ∉ (trimmed text).toList := by
    rw [toList_trimmed]
    exact fun hc => h (mem_of_mem_trim hc)
  unfold isCollection
  simp only [outer_of_notMem hopen, simple_trimmed, toList_trimmed]
  rw [Bool.or_eq_true, List.isSuffixOf_iff_suffix, List.contains_iff_mem]

/-- The simple name of a type that is no collection is one only if there are blanks before it. -/
theorem exists_blank_of_isCollection_simple (hopen : '<' ∉ text.toList)
    (h : isCollection text = false) (hsimple : isCollection (simple text) = true) :
    ∃ blank before name, (∀ c ∈ blank :: before, isBlank c = true) ∧
      (simple text).toList = blank :: before ++ name ∧
      String.ofList (lower name) ∈ collectionNames := by
  have hnone := mt (isCollection_of_notMem hopen).mpr (Bool.eq_false_iff.mp h)
  rw [not_or] at hnone
  obtain ⟨hending, hname⟩ := hnone
  have hsuffix := simple_suffix text
  obtain ⟨before, hsplit, hblank⟩ := exists_trim_of_suffix hsuffix
  have htrim : trim (simple text).toList <:+ (simple text).toList := ⟨before, hsplit.symm⟩
  have hopen' : '<' ∉ (simple text).toList := fun hc => hopen (mem_of_mem_trim (hsuffix.subset hc))
  rcases (isCollection_of_notMem hopen').mp hsimple with hbrackets | hlist
  · exact absurd ((hbrackets.trans htrim).trans hsuffix) hending
  · have hdot : '.' ∉ trim (simple text).toList :=
      fun hc => dot_notMem_simple text (htrim.subset hc)
    have hlower : String.ofList (lower (trim (simple text).toList)) ∈ collectionNames := by
      rw [lowered, toList_simple, afterLast_of_forall (decide_eq_false_of_notMem hdot)] at hlist
      exact hlist
    cases before with
    | nil =>
      rw [List.nil_append] at hsplit
      rw [← hsplit] at hlower
      exact absurd hlower hname
    | cons blank before => exact ⟨blank, before, _, hblank, hsplit, hlower⟩

end TypeName

/-! ## Shapes -/

namespace Field

/-- The field of a type without brackets that is no collection. -/
theorem ofType_of_notMem {element : String} (name : String) (hopen : '<' ∉ element.toList)
    (h : TypeName.isCollection element = false) : ofType name element =
      ⟨name, trimmed element, TypeName.isCollection (TypeName.simple element), none, none⟩ := by
  have hending : stripSuffix? "[]".toList (trim element.toList) = none := by
    cases hstrip : stripSuffix? "[]".toList (trim element.toList) with
    | none => rfl
    | some item =>
      have hsuffix : "[]".toList <:+ trim element.toList :=
        ⟨item, (stripSuffix?_eq_some.mp hstrip).symm⟩
      rw [(TypeName.isCollection_of_notMem hopen).mpr (.inl hsuffix)] at h
      exact Bool.noConfusion h
  have hnone : (trim element.toList).contains '<' = false := by
    rw [List.contains_eq_mem, decide_eq_false_iff_not]
    exact fun hc => hopen (mem_of_mem_trim hc)
  unfold ofType
  simp only [TypeName.toList_trimmed, hending, hnone, Bool.false_eq_true, if_false,
    TypeName.simple_trimmed]

end Field

namespace Shape

variable {options : Options} {shape : Shape}

/-- The name of a collection does not speak of time. -/
theorem isTemporalName_of_mem {name : String} (h : name ∈ TypeName.collectionNames) :
    isTemporalName name = false := by
  have hall : ∀ name ∈ TypeName.collectionNames, isTemporalName name = false := by decide
  exact hall name h

/-- The name of a built-in type has no blanks. -/
theorem isBlank_of_lookup_builtIn {name : String} (h : builtIn.lookup name = some shape) :
    ∀ c ∈ name.toList, isBlank c = false := by
  have hall : ∀ entry ∈ builtIn, ∀ c ∈ entry.1.toList, isBlank c = false := by decide
  exact hall _ (mem_of_lookup h)

/-- A name with blanks before that of a collection has no shape, unless it is configured. -/
theorem not_classifiedType_of_blank {name : String} {blank : Char} {before list : List Char}
    (hblank : ∀ c ∈ blank :: before, isBlank c = true)
    (hname : name.toList = blank :: before ++ list)
    (hlist : String.ofList (lower list) ∈ TypeName.collectionNames)
    (hoverride : options.overrideFor name = none) : ¬ ClassifiedType options name shape := by
  have hlower : (lowered name).toList = blank :: before ++ lower list := by
    rw [lowered, hname, lower_append_of_isBlank hblank, String.toList_ofList]
  have hfirst : ¬ isBlank blank = false := by
    rw [hblank blank (List.mem_cons_self ..)]
    exact Bool.noConfusion
  intro h
  cases h with
  | override h => exact absurd (h.symm.trans hoverride) (Option.some_ne_none _)
  | temporal _ h =>
    have hlist' : (String.ofList (lower list)).toList = lower list := String.toList_ofList
    have hsame : isTemporalName (lowered name) = isTemporalName (String.ofList (lower list)) := by
      unfold isTemporalName
      rw [hlower, hlist', hasInfix_append_of_isBlank (by decide) hblank,
        hasInfix_append_of_isBlank (by decide) hblank]
    rw [hsame, isTemporalName_of_mem hlist] at h
    exact Bool.noConfusion h
  | builtIn _ _ h => exact hfirst (isBlank_of_lookup_builtIn h blank (by simp [hlower]))
  | reference _ _ _ h =>
    exact hfirst (TypeName.isBlank_of_mem_of_isIdentifier h blank (by simp [hname]))

section Element

variable {declared element : String} (name : String)

/-- The shape of a field whose element type is told apart. -/
theorem ofField_collection_eq_ok (h : options.overrideFor (TypeName.simple declared) = none) :
    ofField options (.collection name declared element) = .ok shape ↔
      TypeName.isCollection element = false ∧
        ∃ item, ClassifiedType options (TypeName.simple element) item ∧ shape = .collection item := by
  rw [ofField_eq_ok]
  constructor
  · intro hfield
    cases hfield with
    | override hoverride => exact absurd (hoverride.symm.trans h) (Option.some_ne_none _)
    | collection _ _ helement hnot hitem =>
      obtain rfl := Except.ok.inj helement
      rw [TypeName.isCollection_trimmed] at hnot
      rw [TypeName.simple_trimmed] at hitem
      exact ⟨hnot, _, hitem, rfl⟩
    | scalar _ hcollection => exact Bool.noConfusion hcollection
  · rintro ⟨hnot, item, hitem, rfl⟩
    rw [← TypeName.isCollection_trimmed] at hnot
    rw [← TypeName.simple_trimmed] at hitem
    exact .collection h rfl rfl hnot hitem

/-- The shape of a field of a type without brackets that is no collection. -/
theorem ofField_ofType_eq_ok (hopen : '<' ∉ element.toList)
    (h : TypeName.isCollection element = false) :
    ofField options (.ofType name element) = .ok shape ↔
      ClassifiedType options (TypeName.simple element) shape := by
  rw [Field.ofType_of_notMem name hopen h, ofField_eq_ok]
  generalize hfield : (⟨name, trimmed element, TypeName.isCollection (TypeName.simple element), none,
    none⟩ : Field) = field
  have hsimple : field.simpleType = TypeName.simple element := by
    rw [← hfield]
    exact TypeName.simple_trimmed element
  have hcollection : isCollectionField field = TypeName.isCollection (TypeName.simple element) := by
    rw [isCollectionField, hsimple, ← hfield, Bool.or_self]
  have hmissing : field.elementType = .error (.missingElementType (trimmed element)) := by
    rw [← hfield]
    rfl
  constructor
  · intro hshape
    cases hshape with
    | override hoverride => exact .override (hsimple ▸ hoverride)
    | collection _ _ hname => exact absurd (hmissing.symm.trans hname) (by simp)
    | scalar _ _ htype => exact hsimple ▸ htype
  · intro htype
    rcases htype.override_or_eq_none with ⟨expression, hoverride, rfl⟩ | hoverride
    · exact .override (hsimple ▸ hoverride)
    · refine .scalar (hsimple ▸ hoverride) ?_ (hsimple ▸ htype)
      rw [hcollection]
      refine Bool.eq_false_iff.mpr fun hlist => ?_
      obtain ⟨blank, before, list, hblank, hname, hlist⟩ :=
        TypeName.exists_blank_of_isCollection_simple hopen h hlist
      exact not_classifiedType_of_blank hblank hname hlist hoverride htype

end Element

end Shape

/-! ## Resolutions -/

namespace Field

/-- A field whose elements are told apart resolves exactly if a field of their type does, to an
array of what that resolves to.  The declared type must have no configured expression, and the type
of the elements, which may be any text, must have no bracket and be no collection. -/
theorem resolves_like_element {options : Options} {declared element : String}
    (hdeclared : options.overrideFor (TypeName.simple declared) = none)
    (hopen : '<' ∉ element.toList) (helement : TypeName.isCollection element = false)
    (owner name : String) :
    ((∃ r, (Field.collection name declared element).resolveIn options owner = .ok r) ↔
      ∃ r, (Field.ofType name element).resolveIn options owner = .ok r) ∧
    ∀ r, (Field.ofType name element).resolveIn options owner = .ok r →
      (Field.collection name declared element).resolveIn options owner =
        .ok ⟨"z.array(" ++ r.expression ++ ")", r.imports⟩ := by
  have harray : ∀ r, (Field.ofType name element).resolveIn options owner = .ok r →
      (Field.collection name declared element).resolveIn options owner =
        .ok ⟨"z.array(" ++ r.expression ++ ")", r.imports⟩ := by
    intro r h
    obtain ⟨item, hitem, rfl⟩ := resolveIn_eq_ok.mp h
    have htype := (Shape.ofField_ofType_eq_ok name hopen helement).mp hitem
    have hfield := (Shape.ofField_collection_eq_ok name hdeclared).mpr ⟨helement, item, htype, rfl⟩
    exact resolveIn_eq_ok.mpr ⟨_, hfield, rfl⟩
  refine ⟨⟨?_, fun ⟨r, h⟩ => ⟨_, harray r h⟩⟩, harray⟩
  rintro ⟨r, h⟩
  obtain ⟨shape, hshape, -⟩ := resolveIn_eq_ok.mp h
  obtain ⟨-, item, htype, -⟩ := (Shape.ofField_collection_eq_ok name hdeclared).mp hshape
  have hitem := (Shape.ofField_ofType_eq_ok name hopen helement).mpr htype
  exact ⟨_, resolveIn_eq_ok.mpr ⟨item, hitem, rfl⟩⟩

theorem resolves_like_element_sample :
    Options.standard.overrideFor (TypeName.simple "java.util.List") = none ∧
      '<' ∉ "\tcom.acme.Tag ".toList ∧ TypeName.isCollection "\tcom.acme.Tag " = false ∧
      (Field.ofType "tags" "\tcom.acme.Tag ").resolveIn .standard "Post" =
        .ok ⟨"TagSchema", [⟨"TagSchema", "./TagSchema"⟩]⟩ ∧
      (Field.collection "tags" "java.util.List" "\tcom.acme.Tag ").resolveIn .standard "Post" =
        .ok ⟨"z.array(TagSchema)", [⟨"TagSchema", "./TagSchema"⟩]⟩ := by
  have hdeclared : Options.standard.overrideFor (TypeName.simple "java.util.List") = none := rfl
  have hopen : '<' ∉ "\tcom.acme.Tag ".toList := by decide
  have helement : TypeName.isCollection "\tcom.acme.Tag " = false := by decide
  have htag : (Field.ofType "tags" "\tcom.acme.Tag ").resolveIn .standard "Post" =
      .ok ⟨"TagSchema", [⟨"TagSchema", "./TagSchema"⟩]⟩ := by decide
  exact ⟨hdeclared, hopen, helement, htag,
    (resolves_like_element hdeclared hopen helement "Post" "tags").2 _ htag⟩

end Field

end SchemaGen
