import SchemaGen.Event
import SchemaGen.Resolution
import SchemaGen.Text.Quoted

/-!
# Documents

The generated module of one data transfer object.  After the import statements, that of the
validation library first, it defines the schema and the type that the schema validates:

```text
export const UserSchema = z.object({
  id: z.string().uuid(),
  birthDate: zDateOnly,
});
export type User = z.infer<typeof UserSchema>;
```

A field whose type has no schema is left out and recorded; it never fails the document.

* `Document.ofDto`: the document of a data transfer object.
* `Document.lines`, `Document.content`: its text.
* `Document.events`: what is reported about it.
-/

namespace SchemaGen

open Text

/-- A property of a generated schema. -/
structure Property where
  /-- The field that it validates. -/
  field : String
  /-- Its key, as it is written. -/
  key : String
  /-- Its validator. -/
  expression : String
  deriving DecidableEq, Repr

/-- A key as an object literal shows it: an identifier as it is, anything else quoted. -/
def Property.writtenKey (name : String) : String :=
  if TypeName.isIdentifier name then name else Quoted.literal name

/-- The line of a property. -/
def Property.line (p : Property) : String :=
  "  " ++ p.key ++ ": " ++ p.expression ++ ","

/-- A field that was left out of a document. -/
structure SkippedField where
  /-- Its name. -/
  name : String
  /-- Its type, as diagnostics show it. -/
  type : String
  /-- Why it was left out. -/
  error : TypeError
  deriving DecidableEq, Repr

/-- The generated module of one data transfer object. -/
structure Document where
  /-- The name of the data transfer object. -/
  dto : String
  /-- The name of its schema. -/
  schema : String
  /-- The module of the validation library. -/
  library : String
  /-- The imports besides the validation library. -/
  imports : ImportSet
  /-- The properties, in the order of the fields. -/
  properties : List Property
  /-- The fields that were left out, in their order. -/
  skipped : List SkippedField
  deriving DecidableEq, Repr

/-- The resolved field as a property. -/
def Field.toProperty? (options : Options) (owner : String) (field : Field) : Option Property :=
  match field.resolveIn options owner with
  | .ok resolved =>
    some ⟨field.name, Property.writtenKey (options.propertyName field.name), resolved.expression⟩
  | .error _ => none

/-- The unresolved field as it is recorded. -/
def Field.toSkipped? (options : Options) (owner : String) (field : Field) : Option SkippedField :=
  match field.resolveIn options owner with
  | .ok _ => none
  | .error error => some ⟨field.name, field.displayType, error⟩

/-- The imports of a field; one that is left out has none. -/
def Field.neededImports (options : Options) (owner : String) (field : Field) : List Import :=
  match field.resolveIn options owner with
  | .ok resolved => resolved.imports
  | .error _ => []

namespace Document

/-- The document of a data transfer object. -/
def ofDto (options : Options) (dto : Dto) : Document :=
  { dto := dto.name
    schema := options.schemaName dto.name
    library := options.library
    imports := ImportSet.ofList (dto.fields.flatMap (Field.neededImports options dto.name))
    properties := dto.fields.filterMap (Field.toProperty? options dto.name)
    skipped := dto.fields.filterMap (Field.toSkipped? options dto.name) }

/-- The name of its file. -/
def fileName (doc : Document) : String :=
  doc.schema ++ ".ts"

/-- The lines of the module. -/
def lines (doc : Document) : List String :=
  (Import.statement ⟨coreValidator, doc.library⟩ :: doc.imports.statements) ++
    ("export const " ++ doc.schema ++ " = z.object(\x7b") :: doc.properties.map Property.line ++
    ["\x7d);", "export type " ++ doc.dto ++ " = z.infer<typeof " ++ doc.schema ++ ">;"]

/-- The text of the module. -/
def content (doc : Document) : String :=
  unlines doc.lines

/-- What is reported about the document: each field that was left out, then the counts. -/
def events (doc : Document) : List Event :=
  doc.skipped.map (fun s => .fieldSkipped doc.dto s.name s.type s.error) ++
    [.documentSynthesized doc.dto doc.properties.length doc.skipped.length doc.imports.size]

end Document

end SchemaGen
