import SchemaGen.Mode
import SchemaGen.TypeError

/-!
# Events

What a run reports while it works.  An event says what happened; `level`, `message` and `fields`
say how the log shows it.
-/

namespace SchemaGen

/-- How much an event matters. -/
inductive Level where
  | error
  | warn
  | info
  | debug
  deriving DecidableEq, Repr

/-- The name of the level in the log. -/
def Level.name : Level → String
  | .error => "ERROR"
  | .warn => "WARN"
  | .info => "INFO"
  | .debug => "DEBUG"

/-- What a run reports. -/
inductive Event where
  /-- A field of a document was left out. -/
  | fieldSkipped (dto field type : String) (error : TypeError)
  /-- A document is complete. -/
  | documentSynthesized (dto : String) (fields skipped imports : Nat)
  /-- The sink has taken a document. -/
  | documentStored (dto file : String)
  /-- All documents have been taken. -/
  | passCompleted (files skippedFields : Nat)
  /-- A manifest was read. -/
  | manifestLoaded (manifest : String) (dtos : Nat)
  /-- A search ended without a manifest. -/
  | noManifests (root : String)
  /-- A search ended with manifests. -/
  | manifestsFound (root : String) (count : Nat)
  /-- The output directory was made. -/
  | directoryCreated (dir : String)
  /-- A file was written, shown or compared. -/
  | fileHandled (path : String) (mode : Mode)
  /-- The shared validators are not ours to write. -/
  | helpersNotRelative (module : String)
  /-- The run is over. -/
  | runCompleted (manifests files : Nat) (mode : Mode)
  deriving DecidableEq, Repr

namespace Event

/-- How much the event matters. -/
def level : Event → Level
  | .fieldSkipped .. => .error
  | .noManifests .. | .helpersNotRelative .. => .warn
  | .passCompleted .. | .runCompleted .. => .info
  | .documentSynthesized .. | .documentStored .. | .manifestLoaded .. | .manifestsFound ..
  | .directoryCreated .. | .fileHandled .. => .debug

/-- The text of the event. -/
def message : Event → String
  | .fieldSkipped .. => "Could not parse field, leaving it out of the schema"
  | .documentSynthesized .. => "Synthesized schema"
  | .documentStored .. => "Schema handed to sink"
  | .passCompleted .. => "Generation pass complete"
  | .manifestLoaded .. => "Loaded manifest"
  | .noManifests .. => "No DTO manifests found"
  | .manifestsFound .. => "Found manifests"
  | .directoryCreated .. => "Created output directory"
  | .fileHandled .. => "Stored schema"
  | .helpersNotRelative .. => "Helpers module is not a relative path, not emitting it"
  | .runCompleted .. => "Run complete"

/-- The named values of the event, in the order of the log. -/
def fields : Event → List (String × String)
  | .fieldSkipped dto field type error =>
    [("field", field), ("field_type", type), ("dto", dto), ("error", error.message)]
  | .documentSynthesized dto fields skipped imports =>
    [("dto", dto), ("fields", toString fields), ("skipped", toString skipped),
      ("imports", toString imports)]
  | .documentStored dto file => [("dto", dto), ("file", file)]
  | .passCompleted files skippedFields =>
    [("files", toString files), ("skipped_fields", toString skippedFields)]
  | .manifestLoaded manifest dtos => [("manifest", manifest), ("dtos", toString dtos)]
  | .noManifests root => [("root", root)]
  | .manifestsFound root count => [("root", root), ("count", toString count)]
  | .directoryCreated dir => [("dir", dir)]
  | .fileHandled path mode => [("path", path), ("mode", mode.name)]
  | .helpersNotRelative module => [("module", module)]
  | .runCompleted manifests files mode =>
    [("manifests", toString manifests), ("files", toString files), ("mode", mode.name)]

end Event

/-- Computations that report events. -/
class MonadReport (m : Type → Type) where
  /-- Reports one event. -/
  report : Event → m Unit

export MonadReport (report)

instance {ε : Type} {m : Type → Type} [Monad m] [MonadReport m] : MonadReport (ExceptT ε m) :=
  ⟨fun e => ExceptT.lift (report e)⟩

end SchemaGen
