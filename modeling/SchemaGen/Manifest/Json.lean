import SchemaGen.Descriptor
import SchemaGen.Json.Decoding

/-!
# Manifests in JSON

A manifest is an object with a list of data transfer objects, each with its fields:

```text
{ "dtos": [ { "name": "User", "fields": [ { "name": "id", "type": "UUID" } ] } ] }
```

Every record may also be written as the list of its values in the order of their declaration.
Members that are not known are skipped.

* `Field.ofJson`, `Dto.ofJson`, `Manifest.dtosOfJson`: the readers of the three records.
-/

namespace SchemaGen

open Json

/-- What a field is called in messages. -/
def Field.recordName : String := "struct RawFieldDescriptor"

/-- What a data transfer object is called in messages. -/
def Dto.recordName : String := "struct DtoDescriptor"

/-- What a manifest is called in messages. -/
def Manifest.recordName : String := "struct Manifest"

namespace Field

/-- What is known of a field after some of its members. -/
structure Draft where
  name : Option String := none
  type : Option String := none
  collection : Option Bool := none
  element : Option (Option String) := none
  generic : Option (Option String) := none

/-- Reads one more member of a field. -/
def readMember (known : Draft) (key : String) (value : Node) : Except Error Draft :=
  match key with
  | "name" => return { known with name := ← once key known.name value.toText }
  | "type" => return { known with type := ← once key known.type value.toText }
  | "collection" => return { known with collection := ← once key known.collection value.toBool }
  | "element" =>
    return { known with element := ← once key known.element (value.toOption Node.toText) }
  | "generic" =>
    return { known with generic := ← once key known.generic (value.toOption Node.toText) }
  | _ => do
    value.skip
    return known

/-- The declaration whose members have all been read. -/
def Draft.complete (known : Draft) : Except Error Declaration := do
  return { name := ← present "name" known.name
           type := ← present "type" known.type
           collection := known.collection.getD false
           element := known.element.join
           generic := known.generic.join }

/-- Reads a declaration that is written as a list. -/
def readRow (row : Row) : Except Error Declaration := do
  let expected := recordName ++ " with 5 elements"
  let (name, row) ← row.required (.wrongLength 0 expected) Node.toText
  let (type, row) ← row.required (.wrongLength 1 expected) Node.toText
  let (collection, row) ← row.defaulted false Node.toBool
  let (element, row) ← row.defaulted none (Node.toOption Node.toText)
  let (generic, row) ← row.defaulted none (Node.toOption Node.toText)
  row.finish
  return { name, type, collection, element, generic }

/-- Reads a declaration. -/
def Declaration.ofJson : Node → Except Error Declaration
  | .object members stop => (readMembers readMember {} members stop).bind Draft.complete
  | .list items stop => readRow ⟨items, stop⟩
  | n => n.refuse recordName

/-- Reads a field. -/
def ofJson (n : Node) : Except Error Field :=
  (Declaration.ofJson n).map ofDeclaration

end Field

namespace Dto

/-- What is known of a data transfer object after some of its members. -/
structure Draft where
  name : Option String := none
  fields : Option (List Field) := none

/-- Reads one more member of a data transfer object. -/
def readMember (known : Draft) (key : String) (value : Node) : Except Error Draft :=
  match key with
  | "name" => return { known with name := ← once key known.name value.toText }
  | "fields" => return { known with fields := ← once key known.fields (value.toList Field.ofJson) }
  | _ => do
    value.skip
    return known

/-- The data transfer object whose members have all been read. -/
def Draft.complete (known : Draft) : Except Error Dto := do
  return { name := ← present "name" known.name, fields := known.fields.getD [] }

/-- Reads a data transfer object that is written as a list. -/
def readRow (row : Row) : Except Error Dto := do
  let (name, row) ← row.required (.wrongLength 0 (recordName ++ " with 2 elements")) Node.toText
  let (fields, row) ← row.defaulted [] (Node.toList Field.ofJson)
  row.finish
  return { name, fields }

/-- Reads a data transfer object. -/
def ofJson : Node → Except Error Dto
  | .object members stop => (readMembers readMember {} members stop).bind Draft.complete
  | .list items stop => readRow ⟨items, stop⟩
  | n => n.refuse recordName

end Dto

namespace Manifest

/-- Reads one more member of a manifest. -/
def readMember (known : Option (List Dto)) (key : String) (value : Node) :
    Except Error (Option (List Dto)) :=
  match key with
  | "dtos" => once key known (value.toList Dto.ofJson)
  | _ => do
    value.skip
    return known

/-- Reads a manifest that is written as a list. -/
def readRow (row : Row) : Except Error (List Dto) := do
  let (dtos, row) ← row.defaulted [] (Node.toList Dto.ofJson)
  row.finish
  return dtos

/-- Reads the data transfer objects of a manifest. -/
def dtosOfJson : Node → Except Error (List Dto)
  | .object members stop =>
    (readMembers readMember none members stop).map fun known => known.getD []
  | .list items stop => readRow ⟨items, stop⟩
  | n => n.refuse recordName

end Manifest

end SchemaGen
