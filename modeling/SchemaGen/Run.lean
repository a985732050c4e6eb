import SchemaGen.Config.Loading
import SchemaGen.Discovery
import SchemaGen.Manifest.Loading
import SchemaGen.OutputFolder
import SchemaGen.Pass
import SchemaGen.SharedValidators

/-!
# Runs

A run finds the manifests, loads their data transfer objects, and puts the module of each into
the output folder, after them the module of the shared validators if it is wanted.  The folder is
made first, so a run whose folder cannot be made reads no manifest.

* `RunError`: why a run fails.
* `Outcome`: what a run has done.
* `Run.run`: a run.
-/

namespace SchemaGen

/-- Why a run fails. -/
inductive RunError where
  | search (error : SearchError)
  | manifest (error : ManifestError)
  | config (error : ConfigError)
  | write (error : WriteError)
  /-- Files were found to differ from the modules that belong there. -/
  | stale (count : Nat)
  deriving DecidableEq, Repr

/-- The text of the error. -/
def RunError.message : RunError → String
  | .search error => "Failed to scan for manifests: " ++ error.message
  | .manifest error => "Failed to load descriptors: " ++ error.message
  | .config error => "Failed to load configuration: " ++ error.message
  | .write error => "Failed to write output: " ++ error.message
  | .stale count =>
    "Validation failed: " ++ toString count ++ " generated file(s) out of date"

/-- What a run has done. -/
structure Outcome where
  /-- The manifests that were read. -/
  manifests : List String
  /-- What was generated. -/
  report : PassReport
  /-- What was done with each module, the shared validators last. -/
  results : List Treatment
  /-- The path of the shared validators, if they were generated. -/
  helpers : Option String
  deriving DecidableEq, Repr

/-- The files that were found to differ. -/
def Outcome.stale (outcome : Outcome) : List Treatment :=
  outcome.results.filter Treatment.isStale

namespace Run

/-- The manifests of a run. -/
def findManifests (walker : Walker) (config : Config) : Job SearchError (List String) := do
  let filter ← config.filter.mapM fun filter =>
    MonadExcept.ofExcept (Discovery.compileFilter filter)
  Discovery.find walker { input := config.input, filter }

/-- Puts the shared validators into the folder, if they are wanted and their module belongs to
the output. -/
def putHelpers (config : Config) : Storing WriteError (Option String) := do
  if config.emitHelpers then
    match config.helpersFileName? with
    | some name =>
      return some (← OutputFolder.put name (SharedValidators.content config.options)).path
    | none => report (.helpersNotRelative config.helpersModule)
  return none

/-- Puts all modules into the folder. -/
def putModules (config : Config) (dtos : List Dto) :
    Storing WriteError (PassReport × Option String) := do
  let write (name content : String) : Storing WriteError Unit := do
    discard (OutputFolder.put name content)
  let done ← Pass.run write config.options dtos
  return (done, ← putHelpers config)

/-- A run. -/
def run (walker : Walker) (config : Config) (mode : Mode) : Job RunError Outcome := do
  (OutputFolder.prepare config.outputDir mode).adapt .write
  let manifests ← (findManifests walker config).adapt .search
  let dtos ← (Manifest.loadAll manifests).adapt .manifest
  let ((done, helpers), folder) ←
    ((OutputFolder.new config.outputDir mode).collect (putModules config dtos)).adapt .write
  report (.runCompleted manifests.length folder.results.length mode)
  return { manifests, report := done, results := folder.results, helpers }

end Run

end SchemaGen
