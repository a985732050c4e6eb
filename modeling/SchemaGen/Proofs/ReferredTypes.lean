import SchemaGen.Proofs.Signatures

/-!
# Types that fields refer to

A leaf that refers to a type has an identifier for its name, which speaks of no time and has no
configured expression.  Mostly it is no collection either.  An element type that is told apart is
asked whether it is one by what precedes its first bracket, and is referred to by what follows its
last dot, so that a name after both is never asked.

* `Shape.ClassifiedType.of_reference`: what a reference tells about the name of a type.
* `TypeName.exists_lead_of_isCollection_simple`: a simple name that is an identifier and a
  collection, of a type that is no collection.
* `Field.HasInnerElement`: the fields whose element type ends in a name that is not asked.
* `Shape.of_leaf_eq_reference`, `Shape.ofField_of_hasInnerElement`: only those refer to collections,
  and they do.
* `Shape.referred_types`: what fields refer to, and when that is a collection.
-/

namespace SchemaGen

open Text

namespace TypeName

variable {text name : String}

/-- A name that is an identifier is a collection by its lowercase form. -/
theorem isCollection_of_isIdentifier (h : isIdentifier name = true) :
    isCollection name = true ↔ lowered name ∈ collectionNames := by
  have hpath := TypePath.isCollection_name ⟨[], name, by simp, h⟩
  rw [hpath, decide_eq_true_iff, lowered_of_isIdentifier h]
  rfl

/-- The simple name of a type that is no collection is a collection only if a bracket precedes the
last dot. -/
theorem exists_lead_of_isCollection_simple (h : isCollection text = false)
    (hname : isIdentifier (simple text) = true) (hsimple : isCollection (simple text) = true) :
    ∃ lead, trimmed text = lead ++ "." ++ simple text ∧ '<' ∈ lead.toList := by
  have hopen : '<' ∈ trim text.toList := by
    refine mem_trim ?_ (by decide)
    by_contra hnotMem
    obtain ⟨blank, before, list, hblank, hsplit, -⟩ :=
      exists_blank_of_isCollection_simple hnotMem h hsimple
    have hfirst := hblank blank (List.mem_cons_self ..)
    rw [isBlank_of_mem_of_isIdentifier hname blank (by simp [hsplit])] at hfirst
    exact Bool.noConfusion hfirst
  have hopen' : '<' ∉ (simple text).toList := notMem_of_isIdentifier hname (by decide)
  have hdot : ∃ c ∈ trim text.toList, decide (c = '.') = true := by
    by_contra hnone
    refine hopen' ?_
    rw [toList_simple, afterLast_of_forall]
    · exact hopen
    · exact fun c hc => Bool.eq_false_iff.mpr fun hdot => hnone ⟨c, hc, hdot⟩
  obtain ⟨lead, c, hc, hcut⟩ := exists_cut hdot
  obtain rfl := of_decide_eq_true hc
  rw [← toList_simple] at hcut
  refine ⟨String.ofList lead, ?_, ?_⟩
  · rw [← String.toList_inj, toList_trimmed, hcut]
    simp
  · rw [hcut, List.mem_append, List.mem_cons] at hopen
    rw [String.toList_ofList]
    rcases hopen with hopen | hopen | hopen
    · exact hopen
    · exact absurd hopen (by decide)
    · exact absurd hopen hopen'

/-- What follows the last dot is the simple name. -/
theorem simple_of_trimmed {lead : String} (h : trimmed text = lead ++ "." ++ name)
    (hname : isIdentifier name = true) : simple text = name := by
  have hdot : '.' ∉ name.toList := notMem_of_isIdentifier hname (by decide)
  have hlist : trim text.toList = lead.toList ++ '.' :: name.toList := by
    rw [← toList_trimmed, h]
    simp
  rw [← String.toList_inj, toList_simple, hlist]
  exact afterLast_append_cons (decide_eq_false_of_notMem hdot) (by decide)

end TypeName

/-- The element type that a field is told apart is no collection, but has an opening bracket before
its last dot, and the name of `type` after it. -/
def Field.HasInnerElement (field : Field) (type : String) : Prop :=
  ∃ element lead, field.element = some element ∧ TypeName.isCollection element = false ∧
    trimmed element = lead ++ "." ++ type ∧ '<' ∈ lead.toList

namespace Shape

variable {options : Options} {field : Field}

/-- What a reference tells about the name of a type. -/
theorem ClassifiedType.of_reference {name type : String}
    (h : ClassifiedType options name (.reference type)) : type = name ∧
      options.overrideFor type = none ∧ isTemporalName (lowered type) = false ∧
      TypeName.isIdentifier type = true := by
  cases h with
  | builtIn _ _ hlookup =>
    rcases of_lookup_builtIn hlookup with ⟨kind, h⟩ | h
    · exact Shape.noConfusion h
    · exact Shape.noConfusion h
  | reference hoverride htemporal _ hname => exact ⟨rfl, hoverride, htemporal, hname⟩

/-- A name that does not speak of time. -/
theorem isTemporalName_eq_false {lower : String} : isTemporalName lower = false ↔
    ¬ "date".toList <:+: lower.toList ∧ ¬ "time".toList <:+: lower.toList := by
  rw [isTemporalName, Bool.or_eq_false_iff, Bool.eq_false_iff, Bool.eq_false_iff, Ne, Ne,
    hasInfix_iff_infix, hasInfix_iff_infix]

/-- The name of a collection is that of no built-in type. -/
theorem lookup_builtIn_of_mem {name : String} (h : name ∈ TypeName.collectionNames) :
    builtIn.lookup name = none := by
  have hall : ∀ name ∈ TypeName.collectionNames, builtIn.lookup name = none := by decide
  exact hall name h

/-- An identifier without a configured expression is referred to if it is a collection, when it is
taken for a type that is none. -/
theorem classifiedType_of_isCollection {type : String} (hname : TypeName.isIdentifier type = true)
    (hlist : TypeName.isCollection type = true) (hoverride : options.overrideFor type = none) :
    ClassifiedType options type (.reference type) := by
  have hmem := (TypeName.isCollection_of_isIdentifier hname).mp hlist
  exact .reference hoverride (isTemporalName_of_mem hmem) (lookup_builtIn_of_mem hmem) hname

/-- An element type that is no collection, while its simple name is one, was told apart. -/
theorem hasInnerElement_of_elementType {name : String} (h : field.elementType = .ok name)
    (hnot : TypeName.isCollection name = false)
    (hname : TypeName.isIdentifier (TypeName.simple name) = true)
    (hlist : TypeName.isCollection (TypeName.simple name) = true) :
    field.HasInnerElement (TypeName.simple name) := by
  obtain ⟨lead, hlead, hopen⟩ := TypeName.exists_lead_of_isCollection_simple hnot hname hlist
  unfold Field.elementType at h
  cases helement : field.element with
  | some element =>
    rw [helement] at h
    obtain rfl := Except.ok.inj h
    rw [TypeName.isCollection_trimmed] at hnot
    rw [trimmed_trimmed] at hlead
    exact ⟨element, lead, helement, hnot, hlead, hopen⟩
  | none =>
    rw [helement] at h
    cases hsignature : field.signature with
    | none => simp [hsignature] at h
    | some signature =>
      -- An element type that is read of a signature is an identifier, and has no bracket.
      simp only [hsignature] at h
      obtain ⟨-, -, -, -, hidentifier, -⟩ := TypeName.elementOf_eq_ok.mp h
      have hmem : '<' ∈ (trimmed name).toList := by
        rw [hlead]
        simp [hopen]
      rw [TypeName.toList_trimmed] at hmem
      exact absurd (mem_of_mem_trim hmem) (TypeName.notMem_of_isIdentifier hidentifier (by decide))

/-- A leaf that refers to a type comes from the simple name of a type.  It is a collection only as
the element of one that is told apart. -/
theorem of_leaf_eq_reference {shape : Shape} {type : String}
    (hshape : ofField options field = .ok shape) (hleaf : shape.leaf = .reference type) :
    ClassifiedType options type (.reference type) ∧ (TypeName.isCollection type = true →
      shape = .collection (.reference type) ∧ field.HasInnerElement type) := by
  cases ofField_eq_ok.mp hshape with
  | override => exact Shape.noConfusion hleaf
  | @collection name element _ _ hname hnot hitem =>
    obtain rfl : element = .reference type := hleaf
    obtain ⟨rfl, -, -, hidentifier⟩ := hitem.of_reference
    exact ⟨hitem, fun hlist => ⟨rfl, hasInnerElement_of_elementType hname hnot hidentifier hlist⟩⟩
  | scalar _ hcollection htype =>
    rw [leaf_of_isScalar (isScalar_of_classifiedType htype)] at hleaf
    obtain rfl := hleaf
    obtain ⟨rfl, -, -, -⟩ := htype.of_reference
    rw [isCollectionField, Bool.or_eq_false_iff] at hcollection
    refine ⟨htype, fun hlist => ?_⟩
    rw [hcollection.2] at hlist
    exact Bool.noConfusion hlist

/-- A collection of elements that end in a name that is not asked refers to this name. -/
theorem ofField_of_hasInnerElement {type : String} (h : field.HasInnerElement type)
    (hcollection : isCollectionField field = true)
    (hdeclared : options.overrideFor field.simpleType = none)
    (hname : TypeName.isIdentifier type = true)
    (htype : ClassifiedType options type (.reference type)) :
    ofField options field = .ok (.collection (.reference type)) := by
  obtain ⟨element, lead, helement, hnot, hlead, -⟩ := h
  have htold : field.elementType = .ok (trimmed element) := by
    rw [Field.elementType, helement]
  have hsimple : TypeName.simple (trimmed element) = type := by
    rw [TypeName.simple_trimmed, TypeName.simple_of_trimmed hlead hname]
  rw [← TypeName.isCollection_trimmed] at hnot
  rw [← hsimple] at htype ⊢
  exact ofField_eq_ok.mpr (.collection hdeclared hcollection htold hnot htype)

/-- What a field can refer to, whatever it was built from.  A shape has at most one collection
around its leaf.  If the leaf refers to a type, its name is an identifier, in lower case has neither
`date` nor `time` in it, and has no configured expression.  It is no collection either, unless it
stands after the last dot of an element type that is told apart and has a bracket before that dot;
and of such an element type, the collection is referred to. -/
theorem referred_types (options : Options) (field : Field) :
    (∀ shape, ofField options field = .ok shape → shape.leaf.IsScalar ∧
      ∀ type, shape.leaf = .reference type → TypeName.isIdentifier type = true ∧
        ¬ "date".toList <:+: (lowered type).toList ∧ ¬ "time".toList <:+: (lowered type).toList ∧
        options.overrideFor type = none ∧
        (TypeName.isCollection type = true →
          shape = .collection (.reference type) ∧ field.HasInnerElement type)) ∧
    ∀ type, field.HasInnerElement type → isCollectionField field = true →
      options.overrideFor field.simpleType = none → TypeName.isIdentifier type = true →
      TypeName.isCollection type = true → options.overrideFor type = none →
      ofField options field = .ok (.collection (.reference type)) := by
  refine ⟨fun shape hshape => ⟨isScalar_leaf_of_ofField hshape, fun type hleaf => ?_⟩, ?_⟩
  · obtain ⟨htype, hlist⟩ := of_leaf_eq_reference hshape hleaf
    obtain ⟨-, hoverride, htemporal, hidentifier⟩ := htype.of_reference
    obtain ⟨hdate, htime⟩ := isTemporalName_eq_false.mp htemporal
    exact ⟨hidentifier, hdate, htime, hoverride, hlist⟩
  · intro type hinner hcollection hdeclared hname hlist hoverride
    have htype := classifiedType_of_isCollection hname hlist hoverride
    exact ofField_of_hasInnerElement hinner hcollection hdeclared hname htype

theorem referred_types_sample :
    ofField .standard (.ofType "tags" "java.util.List<com.acme.Tag>") =
        .ok (.collection (.reference "Tag")) ∧
      TypeName.isIdentifier "Tag" = true ∧ Options.standard.overrideFor "Tag" = none ∧
      (Field.ofType "boxes" "Box<String>.List[]").HasInnerElement "List" ∧
      ofField .standard (.ofType "boxes" "Box<String>.List[]") =
        .ok (.collection (.reference "List")) := by
  have htags : ofField .standard (.ofType "tags" "java.util.List<com.acme.Tag>") =
      .ok (.collection (.reference "Tag")) := by decide
  have hinner : (Field.ofType "boxes" "Box<String>.List[]").HasInnerElement "List" :=
    ⟨"Box<String>.List", "Box<String>", by decide, by decide, by decide, by decide⟩
  have htag := ((referred_types .standard _).1 _ htags).2 "Tag" rfl
  have hlist := (referred_types .standard (.ofType "boxes" "Box<String>.List[]")).2 "List" hinner
    (by decide) (by decide) (by decide) (by decide) (by decide)
  exact ⟨htags, htag.1, htag.2.2.2.1, hinner, hlist⟩

/-- A field that refers to a collection: its type is an array of a type inside another. -/
theorem refers_to_list :
    ofField .standard (.ofType "boxes" "Box<String>.List[]") =
        .ok (.collection (.reference "List")) ∧
      TypeName.isCollection "List" = true ∧
      ¬ ∀ (field : Field) (type : String),
        ofField .standard field = .ok (.collection (.reference type)) →
        TypeName.isCollection type = false := by
  have hshape : ofField .standard (.ofType "boxes" "Box<String>.List[]") =
      .ok (.collection (.reference "List")) := by decide
  have hlist : TypeName.isCollection "List" = true := by decide
  refine ⟨hshape, hlist, fun h => ?_⟩
  rw [h _ _ hshape] at hlist
  exact Bool.noConfusion hlist

end Shape

end SchemaGen
