import SchemaGen.Config.Basic
import SchemaGen.Toml.Decoding

/-!
# Configurations in TOML

A configuration is a record of sections, each a record of settings.  A section or a setting that
is missing has its default, and one that is not known is skipped.

* `Config.ofToml?`: the configuration that a text tells.
-/

namespace SchemaGen

open Toml

/-- A style of names: its name, or a table with nothing but that name and nothing in it. -/
def NameStyle.ofToml? : Value → Option NameStyle
  | .text s => byName.lookup s
  | .table _ [(s, .list [])] | .table _ [(s, .table _ [])] => byName.lookup s
  | _ => none

namespace Config

/-- The section of the input. -/
def readInput (config : Config) : Value → Option Config :=
  Value.toRecord? ["path", "filter"]
    (fun config key v =>
      match key with
      | "path" => v.toText?.map fun s => { config with input := s }
      | "filter" => v.toText?.map fun s => { config with filter := some s }
      | _ => some config)
    config

/-- The section of the output. -/
def readOutput (config : Config) : Value → Option Config :=
  Value.toRecord? ["dir", "emit_helpers"]
    (fun config key v =>
      match key with
      | "dir" => v.toText?.map fun s => { config with outputDir := s }
      | "emit_helpers" => v.toBool?.map fun b => { config with emitHelpers := b }
      | _ => some config)
    config

/-- The section of names. -/
def readNaming (config : Config) : Value → Option Config :=
  Value.toRecord? ["rename_all", "schema_suffix"]
    (fun config key v =>
      match key with
      | "rename_all" =>
        (NameStyle.ofToml? v).map fun style => { config with nameStyle := some style }
      | "schema_suffix" => v.toText?.map fun s => { config with suffix := s }
      | _ => some config)
    config

/-- The section of imports. -/
def readImports (config : Config) : Value → Option Config :=
  Value.toRecord? ["validation_library", "helpers_module"]
    (fun config key v =>
      match key with
      | "validation_library" => v.toText?.map fun s => { config with library := s }
      | "helpers_module" => v.toText?.map fun s => { config with helpersModule := s }
      | _ => some config)
    config

/-- The expressions of types. -/
def readOverrides : Value → Option Overrides
  | .table _ t =>
    Overrides.ofList <$> t.mapM fun (entry : String × Value) => do
      return (entry.1, ← entry.2.toText?)
  | _ => none

/-- The section of types. -/
def readTypes (config : Config) : Value → Option Config :=
  Value.toRecord? ["overrides"]
    (fun config key v =>
      match key with
      | "overrides" => (readOverrides v).map fun overrides => { config with overrides }
      | _ => some config)
    config

/-- The section of the log. -/
def readLogging (config : Config) : Value → Option Config :=
  Value.toRecord? ["level"]
    (fun config key v =>
      match key with
      | "level" => v.toText?.map fun s => { config with logLevel := s }
      | _ => some config)
    config

/-- The sections in the order of their declaration. -/
def sections : List String :=
  ["input", "output", "naming", "imports", "types", "logging"]

/-- Reads one section. -/
def readSection (config : Config) (key : String) (v : Value) : Option Config :=
  match key with
  | "input" => config.readInput v
  | "output" => config.readOutput v
  | "naming" => config.readNaming v
  | "imports" => config.readImports v
  | "types" => config.readTypes v
  | "logging" => config.readLogging v
  | _ => some config

/-- The configuration that a text tells. -/
def ofToml? (text : String) : Option Config :=
  decode? (Value.toRecord? sections readSection standard) text

end Config

end SchemaGen
