import SchemaGen.Manifest.Json
import SchemaGen.Manifest.Toml
import SchemaGen.Path
import SchemaGen.Session

/-!
# Loading manifests

A manifest is a file in one of two formats, told apart by the extension of its name.  The name of
a data transfer object becomes the name of a file and of a schema, so it has to be an identifier,
and no two objects of a run may share one.

* `Manifest.parse`: the objects of one text.
* `Manifest.loadAll`: the objects of all manifests, in the order of the manifests and then in that
  of their declaration.
-/

namespace SchemaGen

/-- Why manifests cannot be loaded. -/
inductive ManifestError where
  /-- The file cannot be read. -/
  | unreadable (path : String) (error : IoError)
  | invalidJson (path : String) (error : Json.Error)
  /-- The text is not well formed, or not that of a manifest.  What is wrong with it is not told. -/
  | invalidToml (path : String)
  /-- The extension names neither format. -/
  | unsupportedFormat (path : String)
  /-- An object whose name is no identifier. -/
  | invalidName (name path : String)
  /-- Two objects of one name. -/
  | duplicateName (name first second : String)
  deriving DecidableEq, Repr

/-- The text of the error. -/
def ManifestError.message : ManifestError → String
  | .unreadable path error => "Failed to read " ++ path ++ ": " ++ error.message
  | .invalidJson path error => "Invalid JSON in " ++ path ++ ": " ++ error.message
  | .invalidToml path => "Invalid TOML in " ++ path
  | .unsupportedFormat path => "Unsupported manifest format: " ++ path
  | .invalidName name path => "Invalid DTO name '" ++ name ++ "' in " ++ path
  | .duplicateName name first second =>
    "DTO '" ++ name ++ "' is defined in both " ++ first ++ " and " ++ second

namespace Manifest

/-- The formats of manifests. -/
inductive Format where
  | json
  | toml
  deriving DecidableEq, Repr

/-- The format that the name of a file tells. -/
def Format.ofPath? (path : String) : Option Format :=
  match Path.extension? path with
  | some "json" => some .json
  | some "toml" => some .toml
  | _ => none

/-- The objects of a text, whatever their names. -/
def decode (path text : String) : Format → Except ManifestError (List Dto)
  | .json =>
    match Json.decode dtosOfJson text with
    | .ok dtos => .ok dtos
    | .error e => .error (.invalidJson path e)
  | .toml =>
    match Toml.decode? dtosOfToml? text with
    | some dtos => .ok dtos
    | none => .error (.invalidToml path)

/-- The objects of a text, all of whose names are identifiers. -/
def parse (path text : String) (format : Format) : Except ManifestError (List Dto) := do
  let dtos ← decode path text format
  match dtos.find? fun dto => !TypeName.isIdentifier dto.name with
  | some dto => throw (.invalidName dto.name path)
  | none => return dtos

/-- The objects of one file. -/
def load (path : String) : Job ManifestError (List Dto) := do
  match Format.ofPath? path with
  | none => throw (.unsupportedFormat path)
  | some format =>
    let text ← Job.access (.unreadable path) fun fs => fs.readText path
    MonadExcept.ofExcept (parse path text format)

/-- An object and the manifest that it comes from. -/
structure Entry where
  manifest : String
  dto : Dto

/-- Adds an object to those of this and of earlier manifests. -/
def addDto (manifest : String) (known : List Entry) (dto : Dto) :
    Except ManifestError (List Entry) :=
  match known.find? fun entry => entry.dto.name = dto.name with
  | some earlier => .error (.duplicateName dto.name earlier.manifest manifest)
  | none => .ok (known ++ [⟨manifest, dto⟩])

/-- Adds the objects of a manifest to those of earlier ones. -/
def loadNext (known : List Entry) (path : String) : Job ManifestError (List Entry) := do
  let dtos ← load path
  report (.manifestLoaded path dtos.length)
  MonadExcept.ofExcept (dtos.foldlM (addDto path) known)

/-- The objects of all manifests. -/
def loadAll (paths : List String) : Job ManifestError (List Dto) := do
  return (← paths.foldlM loadNext []).map Entry.dto

end Manifest

end SchemaGen
