import SchemaGen.Import
import SchemaGen.Shape

/-!
# Resolution

The validator of a field: an expression, and the imports that the expression needs.

| Type name, in any letter case                | Expression           | Import             |
|----------------------------------------------|----------------------|--------------------|
| `long`, `integer`, `int`, `double`, `float`  | `z.number()`         |                    |
| `string`                                     | `z.string()`         |                    |
| `boolean`                                    | `z.boolean()`        |                    |
| `uuid`                                       | `z.string().uuid()`  |                    |
| `localdate`                                  | `zDateOnly`          | shared validators  |
| `localtime`                                  | `zTimeOnly`          | shared validators  |
| any other that speaks of a date or a time    | `z.date()`           |                    |
| `dayofweek`                                  | `zDayOfWeek`         | shared validators  |
| a collection of `T`                          | `z.array(T)`         | those of `T`       |
| any other `Foo`                              | `FooSchema`          | `./FooSchema`      |

A type that refers to the one being defined needs no import; its expression is evaluated later.
-/

namespace SchemaGen

/-- The name under which generated modules use the validation library. -/
def coreValidator : String := "z"

/-- The shared validator of dates without a time. -/
def dateOnlyValidator : String := "zDateOnly"

/-- The shared validator of times without a date. -/
def timeOnlyValidator : String := "zTimeOnly"

/-- The shared validator of days of the week. -/
def dayOfWeekValidator : String := "zDayOfWeek"

/-- An expression with the imports that it needs. -/
structure Resolution where
  /-- The expression. -/
  expression : String
  /-- What the expression needs. -/
  imports : List Import
  deriving DecidableEq, Repr

namespace Resolution

/-- An expression that needs nothing. -/
def inline (expression : String) : Resolution :=
  ⟨expression, []⟩

/-- One of the shared validators. -/
def shared (options : Options) (validator : String) : Resolution :=
  ⟨validator, [⟨validator, options.helpersModule⟩]⟩

/-- An array of what the resolution describes. -/
def array (element : Resolution) : Resolution :=
  ⟨"z.array(" ++ element.expression ++ ")", element.imports⟩

end Resolution

/-- The expression of a primitive type. -/
def Primitive.expression : Primitive → String
  | .number => "z.number()"
  | .string => "z.string()"
  | .boolean => "z.boolean()"
  | .uuid => "z.string().uuid()"

/-- The resolution of a temporal type. -/
def Temporal.resolve (options : Options) : Temporal → Resolution
  | .dateOnly => .shared options dateOnlyValidator
  | .timeOnly => .shared options timeOnlyValidator
  | .timestamp => .inline "z.date()"

/-- The resolution of a shape, inside the definition of `owner` if there is one.  A callback
defers the evaluation of a schema inside its own definition. -/
def Shape.resolve (options : Options) (owner : Option String) : Shape → Resolution
  | .primitive kind => .inline kind.expression
  | .temporal kind => kind.resolve options
  | .dayOfWeek => .shared options dayOfWeekValidator
  | .override expression => .inline expression
  | .collection element => (element.resolve options owner).array
  | .reference type =>
    let schema := options.schemaName type
    if owner = some type then .inline ("z.lazy((): z.ZodTypeAny => " ++ schema ++ ")")
    else ⟨schema, [.sibling schema]⟩

/-- The resolution of a field outside of any definition. -/
def Field.resolve (options : Options) (field : Field) : Except TypeError Resolution :=
  (Shape.ofField options field).map (Shape.resolve options none)

/-- The resolution of a field inside the definition of `owner`. -/
def Field.resolveIn (options : Options) (owner : String) (field : Field) :
    Except TypeError Resolution :=
  (Shape.ofField options field).map (Shape.resolve options (some owner))

end SchemaGen
