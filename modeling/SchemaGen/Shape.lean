import SchemaGen.Descriptor
import SchemaGen.Options

/-!
# Shapes

The shape of a field says what kind of validator it needs, apart from the text of the validator.
`Shape.ofField` decides it once, from the names of types; everything after it goes by the shape.

* `Shape.ofScalar`: the shape of a type that is no collection.
* `Shape.ofElement`: the shape of a type inside a collection.
* `Shape.ofField`: the shape of a field.
-/

namespace SchemaGen

open Text

/-- Types that the validation library knows by itself. -/
inductive Primitive where
  | number
  | string
  | boolean
  | uuid
  deriving DecidableEq, Repr

/-- Types that are about time. -/
inductive Temporal where
  | dateOnly
  | timeOnly
  | timestamp
  deriving DecidableEq, Repr

/-- The kinds of validators. -/
inductive Shape where
  | primitive (kind : Primitive)
  | temporal (kind : Temporal)
  | dayOfWeek
  /-- The expression that the options give for the type. -/
  | override (expression : String)
  /-- The schema of another type, or of the same one. -/
  | reference (type : String)
  | collection (element : Shape)
  deriving DecidableEq, Repr

namespace Shape

/-- Whether a name, in lower case, is about time: it speaks of a date or of a time. -/
def isTemporalName (lower : String) : Bool :=
  hasInfix "date".toList lower.toList || hasInfix "time".toList lower.toList

/-- The temporal type of a name in lower case. -/
def temporalOfName (lower : String) : Temporal :=
  if lower = "localdate" then .dateOnly
  else if lower = "localtime" then .timeOnly
  else .timestamp

/-- The names of the types that need no schema of their own, in lower case. -/
def builtIn : List (String × Shape) :=
  [("long", .primitive .number), ("integer", .primitive .number), ("int", .primitive .number),
    ("double", .primitive .number), ("float", .primitive .number),
    ("string", .primitive .string), ("boolean", .primitive .boolean), ("uuid", .primitive .uuid),
    ("dayofweek", .dayOfWeek)]

/-- The shape of a type that is no collection, by its simple name. -/
def ofScalar (options : Options) (name : String) : Except TypeError Shape :=
  match options.overrideFor name with
  | some expression => .ok (.override expression)
  | none =>
    let lower := lowered name
    if isTemporalName lower then .ok (.temporal (temporalOfName lower))
    else
      match builtIn.lookup lower with
      | some shape => .ok shape
      | none =>
        if TypeName.isIdentifier name then .ok (.reference name)
        else .error (.invalidTypeName name)

/-- The shape of the elements of a collection. -/
def ofElement (options : Options) (name : String) : Except TypeError Shape :=
  if TypeName.isCollection name then .error (.recursiveCollection name)
  else ofScalar options (TypeName.simple name)

end Shape

/-- The element type of a collection: the one told apart, or else the one in the signature. -/
def Field.elementType (field : Field) : Except TypeError String :=
  match field.element with
  | some element => .ok (trimmed element)
  | none =>
    match field.signature with
    | some signature => TypeName.elementOf signature
    | none => .error (.missingElementType field.declared)

namespace Shape

/-- Whether a field is classified as a collection, by its flag or by its name. -/
def isCollectionField (field : Field) : Bool :=
  field.isCollection || TypeName.isCollection field.simpleType

/-- The shape of a field.  An override for the declared type comes before everything else. -/
def ofField (options : Options) (field : Field) : Except TypeError Shape :=
  match options.overrideFor field.simpleType with
  | some expression => .ok (.override expression)
  | none =>
    if isCollectionField field then do
      let element ← field.elementType
      let shape ← ofElement options element
      return .collection shape
    else ofScalar options field.simpleType

end Shape

end SchemaGen
