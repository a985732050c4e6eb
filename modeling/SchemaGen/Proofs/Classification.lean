import SchemaGen.Proofs.Results
import SchemaGen.Shape

/-!
# How fields are classified

A type that is no collection gets its shape from the first of four sources that has one: the
configured expressions, the words that speak of time, the table of built-in types, and, for any
other identifier, its own schema.  A field gets its shape from a configured expression for its
declared type, from its elements, or like a type that is no collection.  What follows about shapes
is said of these sources, and does not have to be told from the functions again.

* `Shape.ClassifiedType`, `Shape.ofScalar_eq_ok`: the sources of a type that is no collection.
* `Shape.ClassifiedField`, `Shape.ofField_eq_ok`: the sources of a field.
* `Shape.ofField_of_isCollectionField`, `Shape.ofField_of_not_isCollectionField`: the shape or the
  error of a field without a configured expression.
* `Shape.of_lookup_builtIn`: what the table of built-in types has.
-/

namespace SchemaGen.Shape

open Text

variable {options : Options} {shape : Shape}

/-- A type that is no collection has this shape, by its simple name. -/
inductive ClassifiedType (options : Options) (name : String) : Shape → Prop
  | override {expression : String} : options.overrideFor name = some expression →
      ClassifiedType options name (override expression)
  | temporal : options.overrideFor name = none → isTemporalName (lowered name) = true →
      ClassifiedType options name (temporal (temporalOfName (lowered name)))
  | builtIn {shape : Shape} : options.overrideFor name = none →
      isTemporalName (lowered name) = false → builtIn.lookup (lowered name) = some shape →
      ClassifiedType options name shape
  | reference : options.overrideFor name = none → isTemporalName (lowered name) = false →
      builtIn.lookup (lowered name) = none → TypeName.isIdentifier name = true →
      ClassifiedType options name (reference name)

theorem ofScalar_eq_ok {name : String} :
    ofScalar options name = .ok shape ↔ ClassifiedType options name shape := by
  unfold ofScalar
  constructor
  · intro h
    cases hoverride : options.overrideFor name with
    | some expression =>
      rw [hoverride] at h
      obtain rfl := Except.ok.inj h
      exact .override hoverride
    | none =>
      simp only [hoverride] at h
      cases htemporal : isTemporalName (lowered name) with
      | true =>
        rw [if_pos htemporal] at h
        obtain rfl := Except.ok.inj h
        exact .temporal hoverride htemporal
      | false =>
        rw [if_neg (Bool.eq_false_iff.mp htemporal)] at h
        cases hlookup : builtIn.lookup (lowered name) with
        | some known =>
          simp only [hlookup] at h
          obtain rfl := Except.ok.inj h
          exact .builtIn hoverride htemporal hlookup
        | none =>
          simp only [hlookup] at h
          split at h
          · next hname =>
            obtain rfl := Except.ok.inj h
            exact .reference hoverride htemporal hlookup hname
          · simp at h
  · intro h
    cases h with
    | override hoverride => rw [hoverride]
    | temporal hoverride htemporal => simp only [hoverride, htemporal, if_true]
    | builtIn hoverride htemporal hlookup =>
      simp only [hoverride, htemporal, Bool.false_eq_true, if_false, hlookup]
    | reference hoverride htemporal hlookup hname =>
      simp only [hoverride, htemporal, Bool.false_eq_true, if_false, hlookup, hname, if_true]

/-- A type with a configured expression has no other shape. -/
theorem ClassifiedType.override_or_eq_none {name : String} (h : ClassifiedType options name shape) :
    (∃ expression, options.overrideFor name = some expression ∧ shape = .override expression) ∨
      options.overrideFor name = none := by
  cases h with
  | override hoverride => exact .inl ⟨_, hoverride, rfl⟩
  | temporal hoverride => exact .inr hoverride
  | builtIn hoverride => exact .inr hoverride
  | reference hoverride => exact .inr hoverride

/-- A field has this shape. -/
inductive ClassifiedField (options : Options) (field : Field) : Shape → Prop
  | override {expression : String} : options.overrideFor field.simpleType = some expression →
      ClassifiedField options field (override expression)
  | collection {name : String} {element : Shape} : options.overrideFor field.simpleType = none →
      isCollectionField field = true → field.elementType = .ok name →
      TypeName.isCollection name = false → ClassifiedType options (TypeName.simple name) element →
      ClassifiedField options field (collection element)
  | scalar {shape : Shape} : options.overrideFor field.simpleType = none →
      isCollectionField field = false → ClassifiedType options field.simpleType shape →
      ClassifiedField options field shape

theorem ofElement_eq_ok {name : String} :
    ofElement options name = .ok shape ↔
      TypeName.isCollection name = false ∧ ClassifiedType options (TypeName.simple name) shape := by
  unfold ofElement
  rw [← ofScalar_eq_ok]
  cases TypeName.isCollection name with
  | true => simp
  | false => simp

theorem ofField_eq_ok {field : Field} :
    ofField options field = .ok shape ↔ ClassifiedField options field shape := by
  unfold ofField
  constructor
  · intro h
    cases hoverride : options.overrideFor field.simpleType with
    | some expression =>
      rw [hoverride] at h
      obtain rfl := Except.ok.inj h
      exact .override hoverride
    | none =>
      simp only [hoverride] at h
      cases hcollection : isCollectionField field with
      | true =>
        rw [if_pos hcollection] at h
        obtain ⟨name, hname, h⟩ := bind_eq_ok.mp h
        obtain ⟨element, helement, h⟩ := bind_eq_ok.mp h
        obtain rfl := Except.ok.inj h
        obtain ⟨hinside, hscalar⟩ := ofElement_eq_ok.mp helement
        exact .collection hoverride hcollection hname hinside hscalar
      | false =>
        rw [if_neg (Bool.eq_false_iff.mp hcollection)] at h
        exact .scalar hoverride hcollection (ofScalar_eq_ok.mp h)
  · intro h
    cases h with
    | override hoverride => rw [hoverride]
    | collection hoverride hcollection hname hinside hscalar =>
      have helement := ofElement_eq_ok.mpr ⟨hinside, hscalar⟩
      simp only [hoverride, hcollection, if_true, hname, helement, ok_bind, pure_eq_ok]
    | scalar hoverride hcollection hscalar =>
      have hshape := ofScalar_eq_ok.mpr hscalar
      simp only [hoverride, hcollection, Bool.false_eq_true, if_false, hshape]

/-- A field without a configured expression is a collection of what its element type is. -/
theorem ofField_of_isCollectionField {field : Field}
    (hdeclared : options.overrideFor field.simpleType = none)
    (h : isCollectionField field = true) : ofField options field =
      (field.elementType.bind (ofElement options)).map .collection := by
  unfold ofField
  rw [hdeclared, h]
  cases field.elementType with
  | error e => rfl
  | ok element =>
    simp only [if_true, bind, Except.bind]
    cases ofElement options element <;> rfl

/-- Or, if it is no collection, what its declared type is. -/
theorem ofField_of_not_isCollectionField {field : Field}
    (hdeclared : options.overrideFor field.simpleType = none)
    (h : isCollectionField field = false) :
    ofField options field = ofScalar options field.simpleType := by
  unfold ofField
  rw [hdeclared, h]
  rfl

/-- What is found in a table is in the table. -/
theorem mem_of_lookup {β : Type} {entries : List (String × β)} {key : String} {value : β}
    (h : entries.lookup key = some value) : (key, value) ∈ entries := by
  obtain ⟨before, after, hsplit, -⟩ := List.lookup_eq_some_iff.mp h
  rw [hsplit]
  exact List.mem_append_right _ (List.mem_cons_self ..)

/-- The table of built-in types has primitive types and the days of the week. -/
theorem of_lookup_builtIn {name : String} (h : builtIn.lookup name = some shape) :
    (∃ kind, shape = .primitive kind) ∨ shape = .dayOfWeek := by
  have hall : ∀ entry ∈ builtIn, (∃ kind, entry.2 = .primitive kind) ∨ entry.2 = .dayOfWeek := by
    simp [builtIn]
  exact hall _ (mem_of_lookup h)

end SchemaGen.Shape
