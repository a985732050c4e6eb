import SchemaGen.Descriptor
import SchemaGen.Proofs.Identifiers

/-!
# Manifests written out

A manifest whose fields only have names and types can be written down in either format without
any escapes, as long as its texts hold no quotes, backslashes or control characters.

* `Text.isVerbatim`: a character that stands for itself between quotes; `Text.quoted`: a text
  between quotes.
* `Manifest.Outline`: a data transfer object by its name and the names and types of its fields.
* `Manifest.Outline.dto`: the object that an outline describes.
* `Manifest.Outline.manifestJson`, `Manifest.Outline.manifestToml`: the manifest of some outlines
  in each format.
-/

namespace SchemaGen

namespace Text

/-- A character that stands for itself between double quotes. -/
def isVerbatim (c : Char) : Bool :=
  c ≠ '"' && c ≠ '\\' && !isControl c

theorem ne_of_isVerbatim {c : Char} (h : isVerbatim c = true) : c ≠ '"' ∧ c ≠ '\\' := by
  simp only [isVerbatim, Bool.and_eq_true, decide_eq_true_eq] at h
  exact h.1

/-- A verbatim character is neither a control character of ASCII nor the delete character. -/
theorem space_le_of_isVerbatim {c : Char} (h : isVerbatim c = true) : ' ' ≤ c ∧ c ≠ '\x7f' := by
  simp only [isVerbatim, isControl, Bool.and_eq_true, Bool.not_eq_true', Bool.or_eq_false_iff,
    decide_eq_false_iff_not] at h
  obtain ⟨-, hlow, hdelete⟩ := h
  constructor
  · rw [Char.le_def, UInt32.le_iff_toNat_le]
    exact Nat.le_of_not_lt hlow
  · rintro rfl
    exact absurd hdelete (by decide)

/-- A text between double quotes, and what follows it. -/
def quoted (t s : List Char) : List Char :=
  '"' :: (t ++ '"' :: s)

theorem quoted_append (t s rest : List Char) : quoted t s ++ rest = quoted t (s ++ rest) := by
  simp only [quoted, List.cons_append, List.append_assoc]

end Text

/-- A declaration that tells nothing besides the type is a field of this type. -/
theorem Field.ofDeclaration_type (name type : String) :
    Field.ofDeclaration ⟨name, type, false, none, none⟩ = Field.ofType name type := by
  simp [Field.ofDeclaration]

namespace Manifest

open Text

/-- A data transfer object by its name and the names and types of its fields. -/
structure Outline where
  /-- The name of the object. -/
  name : String
  /-- The name and the type of each field. -/
  fields : List (String × String)
  /-- The object is named by an identifier. -/
  isIdentifier_name : TypeName.isIdentifier name = true
  /-- The names of the fields need no escapes. -/
  isVerbatim_name : ∀ f ∈ fields, ∀ c ∈ f.1.toList, isVerbatim c = true
  /-- The types of the fields need no escapes. -/
  isVerbatim_type : ∀ f ∈ fields, ∀ c ∈ f.2.toList, isVerbatim c = true

namespace Outline

/-- The object that an outline describes. -/
def dto (o : Outline) : Dto :=
  ⟨o.name, o.fields.map fun f => .ofType f.1 f.2⟩

theorem isVerbatim_of_mem_name (o : Outline) : ∀ c ∈ o.name.toList, isVerbatim c = true := by
  intro c hc
  have hpart := TypeName.isIdentifierPart_of_mem o.isIdentifier_name c hc
  exact forall_of_isAscii (fun c => TypeName.isIdentifierPart c = true → isVerbatim c = true)
    (by decide) (TypeName.isAscii_of_isIdentifierPart hpart) hpart

/-! ## In JSON -/

/-- A field as an object. -/
def fieldJson (f : String × String) : String :=
  String.join ["\x7b \"name\": \"", f.1, "\", \"type\": \"", f.2, "\" \x7d"]

/-- An outline as an object. -/
def json (o : Outline) : String :=
  String.join ["\x7b \"name\": \"", o.name, "\", \"fields\": [",
    ", ".intercalate (o.fields.map fieldJson), "] \x7d"]

/-- The manifest of some outlines, as one object. -/
def manifestJson (outlines : List Outline) : String :=
  String.join ["\x7b \"dtos\": [", ", ".intercalate (outlines.map json), "] \x7d"]

/-! ## In TOML -/

/-- A field as a table below the last object. -/
def fieldToml (f : String × String) : String :=
  String.join ["[[dtos.fields]]\nname = \"", f.1, "\"\ntype = \"", f.2, "\"\n\n"]

/-- An outline as a table, with one table for each field below it. -/
def toml (o : Outline) : String :=
  String.join ("[[dtos]]\nname = \"" :: o.name :: "\"\n\n" :: o.fields.map fieldToml)

/-- The manifest of some outlines, as a sequence of tables. -/
def manifestToml (outlines : List Outline) : String :=
  String.join (outlines.map toml)

end Outline

end Manifest

end SchemaGen
