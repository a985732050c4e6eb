import SchemaGen.TypeName

/-!
# Descriptors

The input of the generator: data transfer objects with their fields, as a manifest declares them.

* `Field.ofType`: a field from its declared type alone; the text decides whether it is a
  collection and of what.
* `Field.collection`, `Field.withSignature`: a field whose element type or signature is told apart.
* `Field.ofDeclaration`: a field as a manifest writes it.
* `Dto`: a named list of fields.
-/

namespace SchemaGen

open Text

/-- A field of a data transfer object. -/
structure Field where
  /-- The name of the field. -/
  name : String
  /-- The declared type without its type arguments. -/
  declared : String
  /-- Whether the field holds several values. -/
  isCollection : Bool
  /-- The type of the elements, where it was told apart. -/
  element : Option String
  /-- The declared type with its type arguments. -/
  signature : Option String
  deriving DecidableEq, Repr

namespace Field

/-- A field from its declared type.  Blanks around the type do not count.  A type that ends in
`[]` is a collection of what precedes it; in any other, what precedes the first opening bracket
tells whether the field is a collection, and the whole text is its signature. -/
def ofType (name type : String) : Field :=
  let text := trimmed type
  match stripSuffix? "[]".toList text.toList with
  | some item =>
    { name, declared := text, isCollection := true, element := some (String.ofList (trim item)),
      signature := none }
  | none =>
    if text.toList.contains '<' then
      let declared := TypeName.simple (TypeName.outer text)
      { name, declared, isCollection := TypeName.isCollection declared, element := none,
        signature := some text }
    else
      { name, declared := text, isCollection := TypeName.isCollection (TypeName.simple text),
        element := none, signature := none }

/-- A collection whose element type is told apart; both types are kept as they are. -/
def collection (name declared element : String) : Field :=
  { name, declared, isCollection := true, element := some element, signature := none }

/-- The field with another signature. -/
def withSignature (field : Field) (signature : String) : Field :=
  { field with signature := some signature }

/-- The declared type without its package. -/
def simpleType (field : Field) : String :=
  TypeName.simple field.declared

/-- The type as diagnostics show it: with its type arguments, if it has any. -/
def displayType (field : Field) : String :=
  field.signature.getD field.declared

/-- A field as a manifest writes it: its type, and what may be told about it besides. -/
structure Declaration where
  /-- The name of the field. -/
  name : String
  /-- Its type. -/
  type : String
  /-- Whether the field is a collection whatever its type looks like. -/
  collection : Bool
  /-- The type of the elements. -/
  element : Option String
  /-- The signature. -/
  generic : Option String
  deriving DecidableEq, Repr

/-- What a declaration tells besides the type adds to what the type tells, and wins over it. -/
def ofDeclaration (d : Declaration) : Field :=
  let field := ofType d.name d.type
  { field with
    isCollection := field.isCollection || d.collection
    element := d.element <|> field.element
    signature := d.generic <|> field.signature }

end Field

/-- A data transfer object. -/
structure Dto where
  /-- Its name. -/
  name : String
  /-- Its fields, in the order of their declaration. -/
  fields : List Field
  deriving DecidableEq, Repr

end SchemaGen
