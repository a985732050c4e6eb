import SchemaGen.Proofs.NeededImports
import SchemaGen.Proofs.TypeExpressions

/-!
# Types that are configured besides

A configured expression is found by the simple name of a type in lower case, so one more of them
can make a difference at two places only: where the declared type of a field is looked up, and where
the type of its elements is.  Both look-ups answer with the new expression for the names that have
its key and as before for all others, and everything else that classification asks is asked of the
field alone.  What follows about fields is put together from the two.

* `Options.overrideFor_override`: one look-up.
* `Shape.ofScalar_override_of_ne`, `Shape.ofElement_override_of_ne`, `Shape.ofField_override_of_ne`:
  what stays as it was.
* `Field.NamesType`, `Field.HoldsType`: the fields whose declared type, or the type of whose
  elements, has a name.
* `Shape.override_changes_matching`: what one more expression changes.
-/

namespace SchemaGen

open Text

/-! ## One look-up -/

namespace Options

/-- The key of a path is that of its name. -/
theorem overrideKey_text (path : TypePath) : overrideKey path.text = overrideKey path.name := by
  rw [overrideKey, overrideKey, path.simple_text, path.simple_name]

/-- The expression that was added last is found for every name with its key, and no other name is
looked up differently than before. -/
theorem overrideFor_override (options : Options) (type expression name : String) :
    (options.override type expression).overrideFor name =
      if overrideKey name = overrideKey type then some expression
      else options.overrideFor name := by
  unfold overrideFor override
  rw [List.lookup_cons]
  by_cases h : overrideKey name = overrideKey type
  · rw [if_pos h, h, beq_self_eq_true]
  · rw [if_neg h, beq_false_of_ne h]

theorem overrideFor_override_of_eq {type name : String} (options : Options) (expression : String)
    (h : overrideKey name = overrideKey type) :
    (options.override type expression).overrideFor name = some expression := by
  rw [overrideFor_override, if_pos h]

theorem overrideFor_override_of_ne {type name : String} (options : Options) (expression : String)
    (h : overrideKey name ≠ overrideKey type) :
    (options.override type expression).overrideFor name = options.overrideFor name := by
  rw [overrideFor_override, if_neg h]

end Options

/-- The declared type of the field has the key of the name. -/
def Field.NamesType (field : Field) (name : String) : Prop :=
  Options.overrideKey field.simpleType = Options.overrideKey name

instance (field : Field) (name : String) : Decidable (field.NamesType name) :=
  inferInstanceAs (Decidable (_ = _))

/-- The field is a collection, by its flag or by its name, and its elements have a type that is no
collection and has the key of the name. -/
def Field.HoldsType (field : Field) (name : String) : Prop :=
  Shape.isCollectionField field = true ∧ ∃ element, field.elementType = .ok element ∧
    TypeName.isCollection element = false ∧
    Options.overrideKey (TypeName.simple element) = Options.overrideKey name

namespace Shape

variable {options : Options} {type name : String} {field : Field}

/-! ## Types and elements -/

/-- A type with another key has the shape or the error that it had. -/
theorem ofScalar_override_of_ne (expression : String)
    (h : Options.overrideKey name ≠ Options.overrideKey type) :
    ofScalar (options.override type expression) name = ofScalar options name := by
  unfold ofScalar
  rw [Options.overrideFor_override_of_ne options expression h]

/-- So has a type that is refused as the type of elements before it is looked up. -/
theorem ofElement_override_of_ne (expression : String)
    (h : TypeName.isCollection name = false →
      Options.overrideKey (TypeName.simple name) ≠ Options.overrideKey type) :
    ofElement (options.override type expression) name = ofElement options name := by
  unfold ofElement
  by_cases hcollection : TypeName.isCollection name = true
  · rw [if_pos hcollection, if_pos hcollection]
  · rw [ofScalar_override_of_ne expression (h (Bool.eq_false_iff.mpr hcollection))]

/-! ## Fields -/

theorem ofField_override (options : Options) (expression : String) (h : field.NamesType type) :
    ofField (options.override type expression) field = .ok (.override expression) :=
  ofField_eq_ok.mpr (.override (Options.overrideFor_override_of_eq options expression h))

theorem ofField_override_of_holdsType (expression : String) (hnames : ¬ field.NamesType type)
    (hdeclared : options.overrideFor field.simpleType = none) (h : field.HoldsType type) :
    ofField (options.override type expression) field =
      .ok (.collection (.override expression)) := by
  obtain ⟨hcollection, element, helement, hnot, hkey⟩ := h
  refine ofField_eq_ok.mpr (.collection ?_ hcollection helement hnot (.override ?_))
  · rw [Options.overrideFor_override_of_ne options expression hnames, hdeclared]
  · exact Options.overrideFor_override_of_eq options expression hkey

/-- A field whose declared type has another key has the shape or the error that it had, if that
type is configured already or if its elements do not have the new key either. -/
theorem ofField_override_of_ne (expression : String) (hnames : ¬ field.NamesType type)
    (h : ¬ (options.overrideFor field.simpleType = none ∧ field.HoldsType type)) :
    ofField (options.override type expression) field = ofField options field := by
  have hsame := Options.overrideFor_override_of_ne options expression hnames
  cases hdeclared : options.overrideFor field.simpleType with
  | some configured =>
    -- The elements are not looked at.
    rw [hdeclared] at hsame
    rw [ofField_eq_ok.mpr (.override hsame), ofField_eq_ok.mpr (.override hdeclared)]
  | none =>
    have hholds : ¬ field.HoldsType type := fun hholds => h ⟨hdeclared, hholds⟩
    rw [hdeclared] at hsame
    cases hcollection : isCollectionField field with
    | false =>
      rw [ofField_of_not_isCollectionField hsame hcollection,
        ofField_of_not_isCollectionField hdeclared hcollection,
        ofScalar_override_of_ne expression hnames]
    | true =>
      rw [ofField_of_isCollectionField hsame hcollection,
        ofField_of_isCollectionField hdeclared hcollection]
      cases helement : field.elementType with
      | error e => rw [Except.bind, Except.bind]
      | ok element =>
        have hkey : TypeName.isCollection element = false →
            Options.overrideKey (TypeName.simple element) ≠ Options.overrideKey type :=
          fun hnot hkey => hholds ⟨hcollection, element, helement, hnot, hkey⟩
        rw [Except.bind, Except.bind, ofElement_override_of_ne expression hkey]

/-- No shape resolves differently with one more expression: it carries the one that it has. -/
theorem resolve_override (options : Options) (type expression : String) (owner : Option String)
    (shape : Shape) :
    shape.resolve (options.override type expression) owner = shape.resolve options owner := by
  induction shape with
  | collection element ih => rw [resolve, resolve, ih]
  | temporal kind => cases kind <;> rfl
  | _ => rfl

/-- What one more configured expression changes, for all options, all fields, and the dotted path
of any type.  A field whose declared type has the key of the name in the path has the expression
for its shape.  Any other field whose declared type is not configured, and that is a collection of
elements that are told, are no collection and have this key, is a collection of the expression.
Both resolve to just that, and import nothing.  Every other field has the shape or the error that it
had, and resolves as it did. -/
theorem override_changes_matching (options : Options) (path : TypePath) (expression : String)
    (field : Field) :
    (field.NamesType path.name →
      ofField (options.override path.text expression) field = .ok (.override expression) ∧
      field.resolve (options.override path.text expression) = .ok ⟨expression, []⟩ ∧
      ∀ owner, field.resolveIn (options.override path.text expression) owner =
        .ok ⟨expression, []⟩) ∧
    (¬ field.NamesType path.name → options.overrideFor field.simpleType = none →
      field.HoldsType path.name →
      ofField (options.override path.text expression) field =
        .ok (.collection (.override expression)) ∧
      field.resolve (options.override path.text expression) =
        .ok ⟨"z.array(" ++ expression ++ ")", []⟩ ∧
      ∀ owner, field.resolveIn (options.override path.text expression) owner =
        .ok ⟨"z.array(" ++ expression ++ ")", []⟩) ∧
    (¬ field.NamesType path.name →
      ¬ (options.overrideFor field.simpleType = none ∧ field.HoldsType path.name) →
      ofField (options.override path.text expression) field = ofField options field ∧
      field.resolve (options.override path.text expression) = field.resolve options ∧
      ∀ owner, field.resolveIn (options.override path.text expression) owner =
        field.resolveIn options owner) := by
  have hoptions :
      options.override path.text expression = options.override path.name expression := by
    rw [Options.override, Options.override, Options.overrideKey_text]
  rw [hoptions]
  refine ⟨fun hnames => ?_, fun hnames hdeclared hholds => ?_, fun hnames hnone => ?_⟩
  · have hshape := ofField_override options expression hnames
    exact ⟨hshape, Field.resolves_of_ofField hshape⟩
  · have hshape := ofField_override_of_holdsType expression hnames hdeclared hholds
    exact ⟨hshape, Field.resolves_of_ofField hshape⟩
  · have hshape := ofField_override_of_ne expression hnames hnone
    have hresolve : ∀ owner,
        resolve (options.override path.name expression) owner = resolve options owner :=
      fun owner => funext (resolve_override options path.name expression owner)
    refine ⟨hshape, ?_, fun owner => ?_⟩
    · rw [Field.resolve, Field.resolve, hshape, hresolve]
    · rw [Field.resolveIn, Field.resolveIn, hshape, hresolve]

/-- A decimal number, by its full name. -/
def decimalPath : TypePath :=
  ⟨["java", "math"], "BigDecimal", by decide, by decide⟩

/-- The options of a run that configures the elements of nothing but sets. -/
def setOptions : Options :=
  Options.standard.override "Set" "z.set(z.string())"

theorem override_changes_matching_sample :
    (Field.ofType "price" "bigdecimal").resolve (setOptions.override decimalPath.text "zMoney") =
        .ok ⟨"zMoney", []⟩ ∧
      (Field.ofType "prices" "List<math.BIGDECIMAL>").resolve
        (setOptions.override decimalPath.text "zMoney") = .ok ⟨"z.array(zMoney)", []⟩ ∧
      (Field.ofType "rates" "Set<BigDecimal>").resolve
        (setOptions.override decimalPath.text "zMoney") = .ok ⟨"z.set(z.string())", []⟩ := by
  have hprice : (Field.ofType "price" "bigdecimal").NamesType decimalPath.name := by
    decide +kernel
  have hprices : ¬ (Field.ofType "prices" "List<math.BIGDECIMAL>").NamesType decimalPath.name := by
    decide +kernel
  have hrates : ¬ (Field.ofType "rates" "Set<BigDecimal>").NamesType decimalPath.name := by
    decide +kernel
  have hholds : (Field.ofType "prices" "List<math.BIGDECIMAL>").HoldsType decimalPath.name :=
    ⟨by decide +kernel, "BIGDECIMAL", by decide +kernel, by decide +kernel, by decide +kernel⟩
  have hset :
      setOptions.overrideFor (Field.ofType "rates" "Set<BigDecimal>").simpleType ≠ none := by
    decide +kernel
  have hsame := (override_changes_matching setOptions decimalPath "zMoney"
    (.ofType "rates" "Set<BigDecimal>")).2.2 hrates fun h => hset h.1
  refine ⟨((override_changes_matching setOptions decimalPath "zMoney" _).1 hprice).2.1,
    ((override_changes_matching setOptions decimalPath "zMoney" _).2.1 hprices (by decide +kernel)
      hholds).2.1, hsame.2.1.trans (by decide +kernel)⟩

end Shape

end SchemaGen
