import SchemaGen.Assoc
import SchemaGen.Config.Error
import SchemaGen.Options
import SchemaGen.Text.CharClass

/-!
# Configuration

What a run works on and how.  Every setting has a default, so a run needs no configuration.

* `Overrides`: the configured expressions, in ascending order of their type names.
* `Config.standard`: the defaults.
* `Config.checkUsable`: refuses settings that no generated module could use.
* `Config.withArguments`: settings of the command line, which come before the others.
* `Config.options`: what resolution and synthesis need to know.
-/

namespace SchemaGen

open Text

/-- Expressions by type name.  Type names that differ only in letter case or package are told
apart here, but not by resolution: there, the one that comes last in the order wins. -/
structure Overrides where
  /-- The type names with their expressions. -/
  entries : List (String × String)
  /-- No name comes before an earlier one, and none is repeated. -/
  ascending : (entries.map Prod.fst).Pairwise (· < ·)
  deriving DecidableEq, Repr

namespace Overrides

/-- No overrides. -/
def empty : Overrides :=
  ⟨[], .nil⟩

/-- The overrides with one more. -/
def insert (o : Overrides) (type expression : String) : Overrides where
  entries := Assoc.put type expression o.entries
  ascending :=
    Assoc.ascending_put (fun _ _ _ => String.lt_trans)
      (fun _ _ h hne => Std.lt_of_le_of_ne (String.not_lt.1 h) (Ne.symm hne)) type expression
      o.ascending

/-- The overrides of a list, in which no type name is repeated. -/
def ofList (l : List (String × String)) : Overrides :=
  l.foldl (fun o e => o.insert e.1 e.2) empty

end Overrides

/-- What a run works on and how. -/
structure Config where
  /-- A manifest, or a directory that is searched for manifests. -/
  input : String := "./dtos"
  /-- The pattern that manifests below the input have to match. -/
  filter : Option String := none
  /-- The folder for the generated modules. -/
  outputDir : String := "./generated/dtos"
  /-- Whether the shared validators are generated as well. -/
  emitHelpers : Bool := false
  /-- The style of property names. -/
  nameStyle : Option NameStyle := none
  /-- What a type name is followed by in the name of its schema. -/
  suffix : String := Options.defaultSuffix
  /-- The module that the validation library is imported from. -/
  library : String := Options.defaultLibrary
  /-- The module that the shared validators are imported from. -/
  helpersModule : String := Options.defaultHelpersModule
  /-- The expressions of types. -/
  overrides : Overrides := .empty
  /-- What is logged, unless the environment says it. -/
  logLevel : String := "warn"
  deriving DecidableEq, Repr

/-- Settings that the command line may give. -/
structure Arguments where
  input : Option String := none
  output : Option String := none
  filter : Option String := none
  emitHelpers : Option Bool := none
  deriving DecidableEq, Repr

namespace Config

/-- The configuration of a run that configures nothing. -/
def standard : Config := {}

/-- A character that may follow the name of a type in the name of a schema. -/
def isSuffixChar (c : Char) : Bool :=
  isAlphanumeric c || c = '_' || c = '$'

/-- Whether a text has nothing but blanks. -/
def isEmptyText (s : String) : Bool :=
  s.toList.all isBlank

/-- Refuses settings that no generated module could use. -/
def checkUsable (config : Config) : Except ConfigError Unit := do
  if !config.suffix.toList.all isSuffixChar then
    throw (.invalidValue "naming.schema_suffix"
      ("'" ++ config.suffix ++ "' contains characters not allowed in identifiers"))
  if isEmptyText config.library then
    throw (.invalidValue "imports.validation_library" "must not be empty")
  if isEmptyText config.helpersModule then
    throw (.invalidValue "imports.helpers_module" "must not be empty")

/-- The configuration with the settings of the command line in place of its own. -/
def withArguments (config : Config) (args : Arguments) : Config :=
  { config with
    input := args.input.getD config.input
    outputDir := args.output.getD config.outputDir
    filter := args.filter <|> config.filter
    emitHelpers := args.emitHelpers.getD config.emitHelpers }

/-- What resolution and synthesis need to know.  Overrides are added in ascending order. -/
def options (config : Config) : Options :=
  config.overrides.entries.foldl
    (fun options (type, expression) => options.override type expression)
    { library := config.library, helpersModule := config.helpersModule, suffix := config.suffix,
      nameStyle := config.nameStyle, overrides := [] }

/-- The name of the file of the shared validators, if their module is told by a path that starts
in the folder or above it. -/
def helpersFileName? (config : Config) : Option String :=
  let starts := ["./", "../"]
  if starts.any fun start => start.toList.isPrefixOf config.helpersModule.toList then
    some (config.helpersModule ++ ".ts")
  else none

end Config

end SchemaGen
