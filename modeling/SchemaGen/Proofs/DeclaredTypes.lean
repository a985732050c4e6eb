import SchemaGen.Proofs.JsonSpellings
import SchemaGen.Proofs.PropertyNames
import SchemaGen.Proofs.TrimmedTexts

/-!
# Declared types

However the declared type of a field is taken apart, one of the parts is the whole of it, and
diagnostics show this part.  So nothing of a type is lost but the blanks around it, a field is made
again from the type that it shows, and the blanks make no difference to what becomes of the field.

* `Field.ofType_cases`: how a type makes a field.
* `Field.displayType_ofType`: the type that a field shows.
* `Field.ofType_inj`: types make the same field iff they differ in the blanks around them only.
* `Document.fieldSkipped_mem_events`: the type that is reported of a field that is left out.
* `Field.keeps_declared_type`: fields by their declared types.
-/

namespace SchemaGen

open Text

namespace Field

/-- How a type makes a field: as an array, by what precedes its first bracket, or as it is. -/
theorem ofType_cases (name type : String) :
    (∃ item, (trimmed type).toList = item ++ "[]".toList ∧
      ofType name type = ⟨name, trimmed type, true, some (String.ofList (trim item)), none⟩) ∨
    ('<' ∈ (trimmed type).toList ∧
      ofType name type = ⟨name, TypeName.simple (TypeName.outer (trimmed type)),
        TypeName.isCollection (TypeName.simple (TypeName.outer (trimmed type))), none,
        some (trimmed type)⟩) ∨
    '<' ∉ (trimmed type).toList ∧
      ofType name type = ⟨name, trimmed type,
        TypeName.isCollection (TypeName.simple (trimmed type)), none, none⟩ := by
  unfold ofType
  simp only
  generalize trimmed type = text
  cases hstrip : stripSuffix? "[]".toList text.toList with
  | some item => exact .inl ⟨item, stripSuffix?_eq_some.mp hstrip, rfl⟩
  | none =>
    cases hopen : text.toList.contains '<' with
    | true => exact .inr (.inl ⟨List.contains_iff_mem.mp hopen, rfl⟩)
    | false =>
      have hnone : '<' ∉ text.toList := by
        rw [← List.contains_iff_mem, hopen]
        exact Bool.false_ne_true
      exact .inr (.inr ⟨hnone, rfl⟩)

theorem name_ofType (name type : String) : (ofType name type).name = name := by
  rcases ofType_cases name type with ⟨_, -, hfield⟩ | ⟨-, hfield⟩ | ⟨-, hfield⟩ <;> rw [hfield]

/-- A field shows its type as it was declared, without the blanks around it: the whole of it is the
signature where the declared type is cut, and the declared type where there is no signature. -/
theorem displayType_ofType (name type : String) :
    (ofType name type).displayType = trimmed type := by
  rcases ofType_cases name type with ⟨_, -, hfield⟩ | ⟨-, hfield⟩ | ⟨-, hfield⟩
  · rw [hfield, displayType, Option.getD_none]
  · rw [hfield, displayType, Option.getD_some]
  · rw [hfield, displayType, Option.getD_none]

theorem ofType_trimmed (name type : String) : ofType name (trimmed type) = ofType name type := by
  unfold ofType
  rw [trimmed_trimmed]

/-- Types make the same field iff they differ in nothing but the blanks around them. -/
theorem ofType_inj {name type other : String} :
    ofType name other = ofType name type ↔ trimmed other = trimmed type := by
  constructor
  · intro h
    rw [← displayType_ofType name other, h, displayType_ofType]
  · intro h
    rw [← ofType_trimmed name other, h, ofType_trimmed]

end Field

/-- A field that cannot be classified is reported with its type and with what is wrong with it. -/
theorem Document.fieldSkipped_mem_events {options : Options} {dto : Dto} {field : Field}
    {e : TypeError} (hfield : field ∈ dto.fields) (h : Shape.ofField options field = .error e) :
    .fieldSkipped dto.name field.name field.displayType e ∈ (ofDto options dto).events := by
  have hresolved : field.resolveIn options dto.name = .error e := by
    rw [Field.resolveIn, h]
    rfl
  have hmem : ⟨field.name, field.displayType, e⟩ ∈ (ofDto options dto).skipped :=
    List.mem_filterMap.mpr ⟨field, hfield, Field.toSkipped?_of_error hresolved⟩
  exact List.mem_append_left _ (List.mem_map_of_mem hmem)

namespace Field

/-- A field keeps its declared type.  For every name and every text, the type that the field shows
is the text without the blanks at its ends, and makes the same field again; another text makes the
same field iff it is the same without the blanks at its ends.  Then it is classified alike, and so
is a document that has the field among any others, which reports the type without the blanks if it
has to leave the field out.  Every name and type can be told in an object that tells nothing else,
and from any such object this field is read. -/
theorem keeps_declared_type (name type : String) :
    TrimsTo type (ofType name type).displayType ∧
    ofType name (ofType name type).displayType = ofType name type ∧
    (∀ other, ofType name other = ofType name type ↔ trimmed other = trimmed type) ∧
    (∀ other, trimmed other = trimmed type → ∀ options,
      Shape.ofField options (ofType name other) = Shape.ofField options (ofType name type) ∧
      ∀ owner front back,
        Document.ofDto options ⟨owner, front ++ ofType name other :: back⟩ =
          Document.ofDto options ⟨owner, front ++ ofType name type :: back⟩ ∧
        ∀ e, Shape.ofField options (ofType name other) = .error e →
          .fieldSkipped owner name (trimmed type) e ∈
            (Document.ofDto options ⟨owner, front ++ ofType name other :: back⟩).events) ∧
    (∃ text, SpelledJson name type text) ∧
    ∀ text, SpelledJson name type text → Json.decode ofJson text = .ok (ofType name type) := by
  refine ⟨?_, ?_, fun other => ofType_inj, fun other hother options => ?_,
    exists_spelledJson name type, fun text htext => decode_of_spelledJson htext⟩
  · exact trimsTo_iff.mpr (displayType_ofType name type)
  · rw [displayType_ofType, ofType_trimmed]
  · have hfield : ofType name other = ofType name type := ofType_inj.mpr hother
    rw [hfield]
    refine ⟨rfl, fun owner front back => ⟨rfl, fun e he => ?_⟩⟩
    have hmem : ofType name type ∈ (⟨owner, front ++ ofType name type :: back⟩ : Dto).fields :=
      List.mem_append_right _ (List.mem_cons_self ..)
    have hevent := Document.fieldSkipped_mem_events hmem he
    rwa [displayType_ofType, name_ofType] at hevent

/-- An array of lists, with blanks around it. -/
def sampleArray : String := "\u00a0List<Tag>[] \n"

theorem keeps_declared_type_sample :
    (ofType "tags" sampleArray).displayType = "List<Tag>[]" ∧
      ofType "tags" "List<Tag>[]" = ofType "tags" sampleArray ∧
      Shape.ofField .standard (ofType "tags" sampleArray) =
        .error (.recursiveCollection "List<Tag>") ∧
      .fieldSkipped "User" "tags" "List<Tag>[]" (.recursiveCollection "List<Tag>") ∈
        (Document.ofDto .standard ⟨"User", [ofType "id" "int", ofType "tags" sampleArray]⟩).events ∧
      ∃ text, SpelledJson "tags" sampleArray text ∧
        Json.decode ofJson text = .ok (ofType "tags" sampleArray) := by
  obtain ⟨hshown, -, hsame, halike, ⟨text, htext⟩, hread⟩ := keeps_declared_type "tags" sampleArray
  have htrimmed : trimmed sampleArray = "List<Tag>[]" := by decide
  have herror : Shape.ofField .standard (ofType "tags" sampleArray) =
      .error (.recursiveCollection "List<Tag>") := by decide +kernel
  obtain ⟨-, hdocument⟩ := halike sampleArray rfl .standard
  obtain ⟨-, hevent⟩ := hdocument "User" [ofType "id" "int"] []
  have hevent := hevent _ herror
  rw [htrimmed] at hevent
  exact ⟨(trimsTo_iff.mp hshown).trans htrimmed, (hsame _).mpr (by decide), herror, hevent,
    text, htext, hread text htext⟩

end Field

end SchemaGen
