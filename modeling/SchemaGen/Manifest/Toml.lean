import SchemaGen.Descriptor
import SchemaGen.Toml.Decoding

/-!
# Manifests in TOML

A manifest has a list of data transfer objects, each with its fields:

```text
[[dtos]]
name = "User"

[[dtos.fields]]
name = "id"
type = "UUID"
```

Entries that are not known are skipped.

* `Field.ofToml?`, `Dto.ofToml?`, `Manifest.dtosOfToml?`: the readers of the three records.
-/

namespace SchemaGen

open Toml

namespace Field

/-- The entries of a field in the order of their declaration. -/
def entryNames : List String :=
  ["name", "type", "collection", "element", "generic"]

/-- What is known of a field after some of its entries. -/
structure Entered where
  name : Option String := none
  type : Option String := none
  collection : Bool := false
  element : Option String := none
  generic : Option String := none

/-- Reads one more entry of a field. -/
def readEntry (known : Entered) (key : String) (v : Value) : Option Entered :=
  match key with
  | "name" => v.toText?.map fun s => { known with name := some s }
  | "type" => v.toText?.map fun s => { known with type := some s }
  | "collection" => v.toBool?.map fun b => { known with collection := b }
  | "element" => v.toText?.map fun s => { known with element := some s }
  | "generic" => v.toText?.map fun s => { known with generic := some s }
  | _ => some known

/-- Reads a field. -/
def ofToml? (v : Value) : Option Field := do
  let known ← v.toRecord? entryNames readEntry {}
  return ofDeclaration
    { name := ← known.name
      type := ← known.type
      collection := known.collection
      element := known.element
      generic := known.generic }

end Field

namespace Dto

/-- The entries of a data transfer object in the order of their declaration. -/
def entryNames : List String :=
  ["name", "fields"]

/-- What is known of a data transfer object after some of its entries. -/
structure Entered where
  name : Option String := none
  fields : List Field := []

/-- Reads one more entry of a data transfer object. -/
def readEntry (known : Entered) (key : String) (v : Value) : Option Entered :=
  match key with
  | "name" => v.toText?.map fun s => { known with name := some s }
  | "fields" => (v.toList? Field.ofToml?).map fun fields => { known with fields }
  | _ => some known

/-- Reads a data transfer object. -/
def ofToml? (v : Value) : Option Dto := do
  let known ← v.toRecord? entryNames readEntry {}
  return { name := ← known.name, fields := known.fields }

end Dto

namespace Manifest

/-- The entries of a manifest. -/
def entryNames : List String :=
  ["dtos"]

/-- Reads one more entry of a manifest. -/
def readEntry (known : List Dto) (key : String) (v : Value) : Option (List Dto) :=
  match key with
  | "dtos" => v.toList? Dto.ofToml?
  | _ => some known

/-- Reads the data transfer objects of a manifest. -/
def dtosOfToml? (v : Value) : Option (List Dto) :=
  v.toRecord? entryNames readEntry []

end Manifest

end SchemaGen
