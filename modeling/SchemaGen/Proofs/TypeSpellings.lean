import SchemaGen.Proofs.Classification
import SchemaGen.Proofs.FoldedTexts

/-!
# Types that are spelled in other letter cases

A field is classified by texts: its declared type, the type of its elements, its signature.  Some
rules look at them as they are and others at their lowercase form, but none tells the two cases of
an ASCII letter apart.  So classification commutes with folding.  What is read of a folded text is
the folded reading, a folded field has the folded shape or the folded error, and since folding keeps
all of a shape but the names that it refers to, two fields that fold to the same field have shapes
or errors that differ in the spelling of names at most.

* `TypeName.simple_folded`, `TypeName.isCollection_folded`, `TypeName.elementOf_folded`: what is
  read of one folded text.
* `Field.folded`, `Field.ofType_folded`: folded fields.
* `Shape.ofField_folded`: the shape or the error of a folded field.
* `Text.SpelledAlike`, `Field.SpelledAlike`, `Shape.ResultsAlike`: texts, fields and results that
  differ in the case of ASCII letters only.
* `Shape.ignores_case`: fields that are spelled alike are classified alike.
-/

namespace SchemaGen

open Text

/-! ## Names -/

namespace TypeName

theorem simple_folded (text : String) : simple (folded text) = folded (simple text) := by
  rw [simple, toList_folded, trim_fold, afterLast_fold (caseBlind_eq (by decide)), simple,
    folded_ofList]

theorem outer_folded (text : String) : outer (folded text) = folded (outer text) := by
  rw [outer, toList_folded, uptoFirst_fold (caseBlind_eq (by decide)), outer, folded_ofList]

theorem isCollection_folded (text : String) : isCollection (folded text) = isCollection text := by
  unfold isCollection
  simp only [trimmed_folded, outer_folded, simple_folded, lowered_folded, toList_folded]
  rw [isSuffixOf_fold (by decide)]

theorem caseBlind_isIdentifierStart : CaseBlind isIdentifierStart :=
  toLower_induction (fun c d => isIdentifierStart d = isIdentifierStart c) (fun _ => rfl)
    (by decide)

theorem caseBlind_isIdentifierPart : CaseBlind isIdentifierPart :=
  toLower_induction (fun c d => isIdentifierPart d = isIdentifierPart c) (fun _ => rfl) (by decide)

theorem isIdentifier_folded (text : String) : isIdentifier (folded text) = isIdentifier text := by
  unfold isIdentifier
  rw [toList_folded]
  cases text.toList with
  | nil => rfl
  | cons c rest =>
    show (isIdentifierStart c.toLower && (fold rest).all isIdentifierPart) = _
    rw [caseBlind_isIdentifierStart c, fold, List.all_map, caseBlind_isIdentifierPart.comp]

end TypeName

theorem Options.overrideFor_folded (options : Options) (name : String) :
    options.overrideFor (folded name) = options.overrideFor name := by
  rw [overrideFor, overrideKey, TypeName.simple_folded, lowered_folded]
  rfl

/-! ## Errors and signatures -/

/-- The fault with the text that it shows folded. -/
def SignatureFault.folded : SignatureFault → SignatureFault
  | .notATypeName name => .notATypeName (Text.folded name)
  | fault => fault

/-- The error with the texts that it shows folded. -/
def TypeError.folded : TypeError → TypeError
  | .recursiveCollection type => .recursiveCollection (Text.folded type)
  | .malformedSignature signature fault => .malformedSignature (Text.folded signature) fault.folded
  | .missingElementType declared => .missingElementType (Text.folded declared)
  | .invalidTypeName name => .invalidTypeName (Text.folded name)

namespace TypeError

variable {α β : Type}

/-- The result with its texts folded. -/
def foldResult (foldValue : α → α) : Except TypeError α → Except TypeError α
  | .ok a => .ok (foldValue a)
  | .error e => .error e.folded

/-- What follows a folded result, if it commutes with folding. -/
theorem bind_foldResult {foldValue : α → α} {foldNext : β → β} {next : α → Except TypeError β}
    (h : ∀ a, next (foldValue a) = foldResult foldNext (next a)) (r : Except TypeError α) :
    (foldResult foldValue r).bind next = foldResult foldNext (r.bind next) := by
  cases r with
  | error e => rfl
  | ok a => exact h a

theorem map_foldResult {foldValue : α → α} {foldNext : β → β} {f : α → β}
    (h : ∀ a, f (foldValue a) = foldNext (f a)) (r : Except TypeError α) :
    (foldResult foldValue r).map f = foldResult foldNext (r.map f) := by
  cases r with
  | error e => rfl
  | ok a => exact congrArg Except.ok (h a)

end TypeError

/-- What is read of a folded signature. -/
theorem TypeName.elementOf_folded (signature : String) :
    elementOf (folded signature) = TypeError.foldResult folded (elementOf signature) := by
  have hclose : CaseBlind (· = '>') := caseBlind_eq (by decide)
  have hseparator : CaseBlind fun c => c = '.' || c = '<' :=
    (caseBlind_eq (by decide)).or (caseBlind_eq (by decide))
  unfold elementOf
  rw [toList_folded, splitLast?_fold hclose]
  rcases splitLast? (· = '>') signature.toList with _ | ⟨head, _, _⟩
  · rfl
  · simp only [Option.map_some, splitLast?_fold hseparator]
    rcases splitLast? (fun c => c = '.' || c = '<') head with _ | ⟨_, _, segment⟩
    · rfl
    · simp only [Option.map_some]
      rw [count_fold (by decide), trim_fold, ← folded_ofList]
      generalize String.ofList (trim segment) = name
      rw [isCollection_folded, isIdentifier_folded]
      by_cases hopenings : 1 < head.count '<'
      · rw [if_pos hopenings, if_pos hopenings]
        rfl
      · rw [if_neg hopenings, if_neg hopenings]
        cases isCollection name with
        | true => rfl
        | false =>
          cases isIdentifier name with
          | true => rfl
          | false => rfl

/-! ## Shapes -/

namespace Shape

/-- The shape with the name that it refers to folded. -/
def folded : Shape → Shape
  | reference type => reference (Text.folded type)
  | collection element => collection element.folded
  | shape => shape

theorem folded_of_lookup_builtIn {name : String} {shape : Shape}
    (h : builtIn.lookup name = some shape) : shape.folded = shape := by
  rcases of_lookup_builtIn h with ⟨kind, rfl⟩ | rfl
  · rfl
  · rfl

/-- The shape or the error of a folded name. -/
theorem ofScalar_folded (options : Options) (name : String) :
    ofScalar options (Text.folded name) = TypeError.foldResult folded (ofScalar options name) := by
  unfold ofScalar
  rw [options.overrideFor_folded, lowered_folded, TypeName.isIdentifier_folded]
  cases options.overrideFor name with
  | some expression => rfl
  | none =>
    simp only
    cases isTemporalName (lowered name) with
    | true => rfl
    | false =>
      rw [if_neg Bool.false_ne_true, if_neg Bool.false_ne_true]
      cases hlookup : builtIn.lookup (lowered name) with
      | some shape =>
        show Except.ok shape = Except.ok shape.folded
        rw [folded_of_lookup_builtIn hlookup]
      | none =>
        cases TypeName.isIdentifier name with
        | true => rfl
        | false => rfl

theorem ofElement_folded (options : Options) (name : String) :
    ofElement options (Text.folded name) =
      TypeError.foldResult folded (ofElement options name) := by
  unfold ofElement
  rw [TypeName.isCollection_folded, TypeName.simple_folded, ofScalar_folded]
  cases TypeName.isCollection name with
  | true => rfl
  | false => rfl

end Shape

/-! ## Fields -/

namespace Field

/-- The field with the texts that tell its type folded. -/
def folded (field : Field) : Field :=
  { field with
    declared := Text.folded field.declared
    element := field.element.map Text.folded
    signature := field.signature.map Text.folded }

/-- A folded type makes a folded field. -/
theorem ofType_folded (name type : String) :
    ofType name (Text.folded type) = (ofType name type).folded := by
  unfold ofType
  simp only [trimmed_folded]
  generalize trimmed type = text
  rw [toList_folded, stripSuffix?_fold (by decide)]
  cases stripSuffix? "[]".toList text.toList with
  | some item =>
    simp only [Option.map_some, trim_fold, folded, folded_ofList, Option.map_none]
  | none =>
    simp only [Option.map_none, contains_fold (show isAsciiLetter '<' = false by decide),
      TypeName.outer_folded, TypeName.simple_folded, TypeName.isCollection_folded]
    cases text.toList.contains '<' with
    | true => simp only [if_true, folded, Option.map_some, Option.map_none]
    | false => simp only [Bool.false_eq_true, if_false, folded, Option.map_none]

theorem simpleType_folded (field : Field) :
    field.folded.simpleType = Text.folded field.simpleType :=
  TypeName.simple_folded field.declared

theorem elementType_folded (field : Field) :
    field.folded.elementType = TypeError.foldResult Text.folded field.elementType := by
  unfold elementType folded
  cases field.element with
  | some element => exact congrArg Except.ok (trimmed_folded element)
  | none =>
    cases field.signature with
    | some signature => exact TypeName.elementOf_folded signature
    | none => rfl

end Field

/-- The shape or the error of a folded field. -/
theorem Shape.ofField_folded (options : Options) (field : Field) :
    ofField options field.folded = TypeError.foldResult folded (ofField options field) := by
  have hoverride := options.overrideFor_folded field.simpleType
  have hcollection : isCollectionField field.folded = isCollectionField field := by
    rw [isCollectionField, field.simpleType_folded, TypeName.isCollection_folded]
    rfl
  cases hdeclared : options.overrideFor field.simpleType with
  | some expression =>
    have hfolded := hoverride.trans hdeclared
    rw [← field.simpleType_folded] at hfolded
    rw [ofField_eq_ok.mpr (.override hfolded), ofField_eq_ok.mpr (.override hdeclared)]
    rfl
  | none =>
    have hfolded := hoverride.trans hdeclared
    rw [← field.simpleType_folded] at hfolded
    cases h : isCollectionField field with
    | true =>
      rw [ofField_of_isCollectionField hfolded (hcollection.trans h),
        ofField_of_isCollectionField hdeclared h, field.elementType_folded,
        TypeError.bind_foldResult (ofElement_folded options), TypeError.map_foldResult]
      intro element
      rfl
    | false =>
      rw [ofField_of_not_isCollectionField hfolded (hcollection.trans h),
        ofField_of_not_isCollectionField hdeclared h, field.simpleType_folded, ofScalar_folded]

/-! ## Spellings -/

/-- The texts differ in nothing but the case of ASCII letters. -/
def Text.SpelledAlike (text other : String) : Prop :=
  folded text = folded other

instance (text other : String) : Decidable (Text.SpelledAlike text other) :=
  inferInstanceAs (Decidable (folded text = folded other))

/-- The faults are of one kind, and show texts that are spelled alike. -/
inductive SignatureFault.SpelledAlike : SignatureFault → SignatureFault → Prop
  | noClosingBracket : SpelledAlike .noClosingBracket .noClosingBracket
  | noSeparator : SpelledAlike .noSeparator .noSeparator
  | notATypeName {name other : String} : Text.SpelledAlike name other →
      SpelledAlike (.notATypeName name) (.notATypeName other)

/-- The errors are of one kind, and show texts that are spelled alike. -/
inductive TypeError.SpelledAlike : TypeError → TypeError → Prop
  | recursiveCollection {type other : String} : Text.SpelledAlike type other →
      SpelledAlike (.recursiveCollection type) (.recursiveCollection other)
  | malformedSignature {signature other : String} {fault otherFault : SignatureFault} :
      Text.SpelledAlike signature other → fault.SpelledAlike otherFault →
      SpelledAlike (.malformedSignature signature fault) (.malformedSignature other otherFault)
  | missingElementType {declared other : String} : Text.SpelledAlike declared other →
      SpelledAlike (.missingElementType declared) (.missingElementType other)
  | invalidTypeName {name other : String} : Text.SpelledAlike name other →
      SpelledAlike (.invalidTypeName name) (.invalidTypeName other)

/-- The shapes are equal, but a leaf that refers to a type may have its own spelling of the name. -/
inductive Shape.SpelledAlike : Shape → Shape → Prop
  | same (shape : Shape) : SpelledAlike shape shape
  | reference {type other : String} : Text.SpelledAlike type other →
      SpelledAlike (.reference type) (.reference other)
  | collection {element other : Shape} : SpelledAlike element other →
      SpelledAlike (.collection element) (.collection other)

theorem SignatureFault.spelledAlike_of_folded {fault other : SignatureFault}
    (h : fault.folded = other.folded) : fault.SpelledAlike other := by
  cases fault with
  | noClosingBracket =>
    cases other <;> cases h
    exact .noClosingBracket
  | noSeparator =>
    cases other <;> cases h
    exact .noSeparator
  | notATypeName name =>
    cases other with
    | notATypeName _ => exact .notATypeName (notATypeName.inj h)
    | _ => exact SignatureFault.noConfusion h

/-- Errors that are folded to the same error are spelled alike. -/
theorem TypeError.spelledAlike_of_folded {e other : TypeError} (h : e.folded = other.folded) :
    e.SpelledAlike other := by
  cases e with
  | recursiveCollection type =>
    cases other with
    | recursiveCollection _ => exact .recursiveCollection (recursiveCollection.inj h)
    | _ => exact TypeError.noConfusion h
  | malformedSignature signature fault =>
    cases other with
    | malformedSignature _ _ =>
      obtain ⟨hsignature, hfault⟩ := malformedSignature.inj h
      exact .malformedSignature hsignature (SignatureFault.spelledAlike_of_folded hfault)
    | _ => exact TypeError.noConfusion h
  | missingElementType declared =>
    cases other with
    | missingElementType _ => exact .missingElementType (missingElementType.inj h)
    | _ => exact TypeError.noConfusion h
  | invalidTypeName name =>
    cases other with
    | invalidTypeName _ => exact .invalidTypeName (invalidTypeName.inj h)
    | _ => exact TypeError.noConfusion h

/-- Shapes that are folded to the same shape are spelled alike. -/
theorem Shape.spelledAlike_of_folded {shape other : Shape} (h : shape.folded = other.folded) :
    shape.SpelledAlike other := by
  induction shape generalizing other with
  | reference type =>
    cases other with
    | reference _ => exact .reference (reference.inj h)
    | _ => exact Shape.noConfusion h
  | collection element ih =>
    cases other with
    | collection _ => exact .collection (ih (collection.inj h))
    | _ => exact Shape.noConfusion h
  | _ =>
    -- No other shape is changed by folding.
    cases other <;> cases h
    exact .same _

/-- The results are both errors, or both shapes, that are spelled alike. -/
inductive Shape.ResultsAlike : Except TypeError Shape → Except TypeError Shape → Prop
  | error {e other : TypeError} : e.SpelledAlike other → ResultsAlike (.error e) (.error other)
  | ok {shape other : Shape} : shape.SpelledAlike other → ResultsAlike (.ok shape) (.ok other)

theorem Shape.resultsAlike_of_folded {r other : Except TypeError Shape}
    (h : TypeError.foldResult folded r = TypeError.foldResult folded other) :
    ResultsAlike r other := by
  cases r with
  | error e =>
    cases other with
    | error _ => exact .error (TypeError.spelledAlike_of_folded (Except.error.inj h))
    | ok _ => exact nomatch h
  | ok shape =>
    cases other with
    | error _ => exact nomatch h
    | ok _ => exact .ok (spelledAlike_of_folded (Except.ok.inj h))

/-- The fields are collections or not alike, and the texts that tell their types are spelled
alike. -/
structure Field.SpelledAlike (field other : Field) : Prop where
  declared : Text.SpelledAlike field.declared other.declared
  isCollection : field.isCollection = other.isCollection
  element : Option.Rel Text.SpelledAlike field.element other.element
  signature : Option.Rel Text.SpelledAlike field.signature other.signature

theorem map_folded_eq_iff {text other : Option String} :
    text.map folded = other.map folded ↔ Option.Rel Text.SpelledAlike text other := by
  constructor
  · intro h
    cases text with
    | none =>
      cases other with
      | none => exact .none
      | some _ => exact nomatch h
    | some _ =>
      cases other with
      | none => exact nomatch h
      | some _ => exact .some (Option.some.inj h)
  · intro h
    cases h with
    | none => rfl
    | some h => exact congrArg some h

theorem Field.SpelledAlike.of_folded {field other : Field} (h : field.folded = other.folded) :
    field.SpelledAlike other := by
  obtain ⟨-, hdeclared, hcollection, helement, hsignature⟩ := Field.mk.inj h
  exact ⟨hdeclared, hcollection, map_folded_eq_iff.mp helement, map_folded_eq_iff.mp hsignature⟩

/-- Fields that are spelled alike are classified alike. -/
theorem Field.SpelledAlike.resultsAlike {field other : Field} (h : field.SpelledAlike other)
    (options : Options) :
    Shape.ResultsAlike (Shape.ofField options field) (Shape.ofField options other) := by
  refine Shape.resultsAlike_of_folded ?_
  rw [← Shape.ofField_folded, ← Shape.ofField_folded]
  -- The names of the fields may differ, but no shape depends on them.
  have hdeclared : Text.folded field.declared = Text.folded other.declared := h.declared
  unfold folded
  rw [hdeclared, h.isCollection, map_folded_eq_iff.mpr h.element,
    map_folded_eq_iff.mpr h.signature]
  rfl

/-! ## Fields that are built alike -/

namespace Field

/-- The declarations name the same field and tell alike whether it is a collection, and their types,
element types and signatures are spelled alike. -/
structure Declaration.SpelledAlike (d other : Declaration) : Prop where
  name : d.name = other.name
  type : Text.SpelledAlike d.type other.type
  collection : d.collection = other.collection
  element : Option.Rel Text.SpelledAlike d.element other.element
  generic : Option.Rel Text.SpelledAlike d.generic other.generic

namespace SpelledAlike

theorem ofType (name : String) {type other : String} (h : Text.SpelledAlike type other) :
    (Field.ofType name type).SpelledAlike (.ofType name other) := by
  have hfolded : (Field.ofType name type).folded = (Field.ofType name other).folded := by
    rw [← ofType_folded, ← ofType_folded, show Text.folded type = Text.folded other from h]
  exact .of_folded hfolded

theorem collection (name : String) {declared other element otherElement : String}
    (h : Text.SpelledAlike declared other) (helement : Text.SpelledAlike element otherElement) :
    (Field.collection name declared element).SpelledAlike (.collection name other otherElement) :=
  ⟨h, rfl, .some helement, .none⟩

theorem withSignature {field other : Field} (h : field.SpelledAlike other)
    {signature otherSignature : String} (hsignature : Text.SpelledAlike signature otherSignature) :
    (field.withSignature signature).SpelledAlike (other.withSignature otherSignature) :=
  ⟨h.declared, h.isCollection, h.element, .some hsignature⟩

theorem ofDeclaration {d other : Declaration} (h : d.SpelledAlike other) :
    (Field.ofDeclaration d).SpelledAlike (.ofDeclaration other) := by
  have hor : ∀ {text other text' other' : Option String}, Option.Rel Text.SpelledAlike text other →
      Option.Rel Text.SpelledAlike text' other' →
      Option.Rel Text.SpelledAlike (text <|> text') (other <|> other') := by
    intro text other text' other' htold hread
    cases htold with
    | none => exact hread
    | some htold => exact .some htold
  have htype := ofType d.name h.type
  unfold Field.ofDeclaration
  rw [h.name] at htype ⊢
  generalize Field.ofType other.name d.type = field at htype ⊢
  generalize Field.ofType other.name other.type = otherField at htype ⊢
  refine ⟨htype.declared, ?_, hor h.element htype.element, hor h.generic htype.signature⟩
  show (field.isCollection || d.collection) = (otherField.isCollection || other.collection)
  rw [htype.isCollection, h.collection]

end SpelledAlike

end Field

namespace Shape

/-- The case of the ASCII letters of a type makes no difference to how it is classified, for all
options and all texts.  Fields of types that are spelled alike, and so are their element types and signatures where
these are told apart, have errors of one kind, or have shapes that are equal, except that a leaf
that refers to a type has the name as it is spelled for its field. -/
theorem ignores_case (options : Options) (name : String) :
    (∀ type other, Text.SpelledAlike type other →
      ResultsAlike (ofField options (.ofType name type)) (ofField options (.ofType name other)) ∧
      ∀ signature otherSignature, Text.SpelledAlike signature otherSignature →
        ResultsAlike (ofField options ((Field.ofType name type).withSignature signature))
          (ofField options ((Field.ofType name other).withSignature otherSignature))) ∧
    (∀ declared other element otherElement, Text.SpelledAlike declared other →
      Text.SpelledAlike element otherElement →
      ResultsAlike (ofField options (.collection name declared element))
        (ofField options (.collection name other otherElement)) ∧
      ∀ signature otherSignature, Text.SpelledAlike signature otherSignature →
        ResultsAlike
          (ofField options ((Field.collection name declared element).withSignature signature))
          (ofField options
            ((Field.collection name other otherElement).withSignature otherSignature))) ∧
    ∀ d other : Field.Declaration, d.SpelledAlike other →
      ResultsAlike (ofField options (.ofDeclaration d)) (ofField options (.ofDeclaration other)) := by
  refine ⟨fun type other htype => ?_,
    fun declared other element otherElement hdeclared helement => ?_,
    fun d other hd => (Field.SpelledAlike.ofDeclaration hd).resultsAlike options⟩
  · have hfield := Field.SpelledAlike.ofType name htype
    exact ⟨hfield.resultsAlike options,
      fun _ _ hsignature => (hfield.withSignature hsignature).resultsAlike options⟩
  · have hfield := Field.SpelledAlike.collection name hdeclared helement
    exact ⟨hfield.resultsAlike options,
      fun _ _ hsignature => (hfield.withSignature hsignature).resultsAlike options⟩

theorem ignores_case_sample :
    ofField .standard (.ofType "tags" "List<com.acme.TAG>") = .ok (.collection (.reference "TAG")) ∧
      ResultsAlike (ofField .standard (.ofType "tags" "List<com.acme.TAG>"))
        (ofField .standard (.ofType "tags" "LIST<com.acme.Tag>")) ∧
      ofField .standard ((Field.ofType "tags" "LIST").withSignature "LIST<SET>") =
        .error (.recursiveCollection "SET") ∧
      ResultsAlike (ofField .standard ((Field.ofType "tags" "LIST").withSignature "LIST<SET>"))
        (ofField .standard ((Field.ofType "tags" "List").withSignature "List<Set>")) ∧
      ResultsAlike (ofField .standard (.collection "tags" "Set" "LOCALDATE"))
        (ofField .standard (.collection "tags" "SET" "localDate")) ∧
      ResultsAlike (ofField .standard (.ofDeclaration ⟨"tags", "Tag", true, some "INT", none⟩))
        (ofField .standard (.ofDeclaration ⟨"tags", "TAG", true, some "int", none⟩)) := by
  obtain ⟨htype, htold, hdeclared⟩ := ignores_case .standard "tags"
  have hdeclarations : Field.Declaration.SpelledAlike ⟨"tags", "Tag", true, some "INT", none⟩
      ⟨"tags", "TAG", true, some "int", none⟩ :=
    ⟨rfl, by decide, rfl, .some (by decide), .none⟩
  refine ⟨by decide +kernel, ?_, by decide +kernel, ?_, ?_, hdeclared _ _ hdeclarations⟩
  · exact (htype _ _ (by decide)).1
  · exact (htype _ _ (by decide)).2 _ _ (by decide)
  · exact (htold _ _ _ _ (by decide) (by decide)).1

end Shape

end SchemaGen
