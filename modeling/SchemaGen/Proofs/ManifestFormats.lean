import SchemaGen.Proofs.JsonOutlines
import SchemaGen.Proofs.LoadedManifests
import SchemaGen.Proofs.TomlOutlines

/-!
# The formats of manifests agree

A manifest whose texts need no escapes says the same in both formats: either text is accepted, and
both stand for the same objects in the same order.

* `Manifest.Outline.formats_agree`: what is read from the two texts of some outlines.
-/

namespace SchemaGen.Manifest.Outline

/-- Some outlines written in either format are accepted, and read back as the same list: each
object has its name, and each of its fields is the field of its name and its type. -/
theorem formats_agree (jsonPath tomlPath : String) (outlines : List Outline) :
    parse jsonPath (manifestJson outlines) .json =
        .ok (outlines.map fun o => ⟨o.name, o.fields.map fun f => .ofType f.1 f.2⟩) ∧
      parse tomlPath (manifestToml outlines) .toml =
        .ok (outlines.map fun o => ⟨o.name, o.fields.map fun f => .ofType f.1 f.2⟩) := by
  have hnames : ∀ d ∈ outlines.map dto, TypeName.isIdentifier d.name = true := by
    intro d hd
    obtain ⟨o, -, rfl⟩ := List.mem_map.mp hd
    exact o.isIdentifier_name
  exact ⟨parse_eq_ok.mpr ⟨decode_manifestJson jsonPath outlines, hnames⟩,
    parse_eq_ok.mpr ⟨decode_manifestToml tomlPath outlines, hnames⟩⟩

/-- An object with one field, whose type has brackets and dots. -/
def sampleUser : Outline where
  name := "User"
  fields := [("tags", "com.acme.Tag[]")]
  isIdentifier_name := by decide
  isVerbatim_name := by decide
  isVerbatim_type := by decide

/-- An object without fields. -/
def sampleEmpty : Outline where
  name := "Empty"
  fields := []
  isIdentifier_name := by decide
  isVerbatim_name := by decide
  isVerbatim_type := by decide

/-- The objects of the samples. -/
def sampleDtos : List Dto :=
  [⟨"Empty", []⟩, ⟨"User", [⟨"tags", "com.acme.Tag[]", true, some "com.acme.Tag", none⟩]⟩]

/-- The samples in JSON. -/
def sampleJson : String :=
  String.join ["\x7b \"dtos\": [\x7b \"name\": \"Empty\", \"fields\": [] \x7d, ",
    "\x7b \"name\": \"User\", \"fields\": [\x7b \"name\": \"tags\", ",
    "\"type\": \"com.acme.Tag[]\" \x7d] \x7d] \x7d"]

/-- The samples in TOML. -/
def sampleToml : String :=
  String.join ["[[dtos]]\nname = \"Empty\"\n\n[[dtos]]\nname = \"User\"\n\n",
    "[[dtos.fields]]\nname = \"tags\"\ntype = \"com.acme.Tag[]\"\n\n"]

/-- An object without fields before one with a collection, in both formats. -/
theorem formats_agree_sample :
    parse "a.dto.json" sampleJson .json = .ok sampleDtos ∧
      parse "a.dto.toml" sampleToml .toml = .ok sampleDtos := by
  have hjson : manifestJson [sampleEmpty, sampleUser] = sampleJson := by
    rw [← String.toList_inj]
    simp [manifestJson, json, fieldJson, sampleEmpty, sampleUser, sampleJson]
  have htoml : manifestToml [sampleEmpty, sampleUser] = sampleToml := by
    rw [← String.toList_inj]
    simp [manifestToml, toml, fieldToml, sampleEmpty, sampleUser, sampleToml]
  have hdtos : [sampleEmpty, sampleUser].map
      (fun o => (⟨o.name, o.fields.map fun f => .ofType f.1 f.2⟩ : Dto)) = sampleDtos := by
    decide +kernel
  have hagree := formats_agree "a.dto.json" "a.dto.toml" [sampleEmpty, sampleUser]
  rwa [hjson, htoml, hdtos] at hagree

end SchemaGen.Manifest.Outline
