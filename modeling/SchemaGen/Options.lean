import SchemaGen.NameStyle
import SchemaGen.TypeName

/-!
# Options

What the user decides about the generated modules: where they import from, how schemas and
properties are named, and which types have an expression of their own.

An override is found by the simple name of a type in lower case, so `java.util.UUID` and `uuid`
share one.  The override that was added last wins.
-/

namespace SchemaGen

open Text

/-- The choices that resolution and synthesis consult. -/
structure Options where
  /-- The module that the validation library is imported from. -/
  library : String
  /-- The module that the shared validators are imported from. -/
  helpersModule : String
  /-- What a type name is followed by in the name of its schema. -/
  suffix : String
  /-- The style of property names; without one, field names are kept. -/
  nameStyle : Option NameStyle
  /-- Expressions by override key, the latest first. -/
  overrides : List (String × String)
  deriving DecidableEq, Repr

namespace Options

/-- The validation library, unless another is configured. -/
def defaultLibrary : String := "zod"

/-- The module of the shared validators, unless another is configured. -/
def defaultHelpersModule : String := "../zod-mods"

/-- The suffix of schema names, unless another is configured. -/
def defaultSuffix : String := "Schema"

/-- The options of a run that configures nothing. -/
def standard : Options :=
  { library := defaultLibrary, helpersModule := defaultHelpersModule, suffix := defaultSuffix,
    nameStyle := none, overrides := [] }

/-- What identifies a type among the overrides. -/
def overrideKey (type : String) : String :=
  lowered (TypeName.simple type)

/-- The options with one more override. -/
def override (options : Options) (type expression : String) : Options :=
  { options with overrides := (overrideKey type, expression) :: options.overrides }

/-- The expression that was configured for a type. -/
def overrideFor (options : Options) (type : String) : Option String :=
  options.overrides.lookup (overrideKey type)

/-- The name of the schema of a type. -/
def schemaName (options : Options) (type : String) : String :=
  type ++ options.suffix

/-- The name of the property of a field. -/
def propertyName (options : Options) (field : String) : String :=
  match options.nameStyle with
  | some style => style.apply field
  | none => field

end Options

end SchemaGen
