import SchemaGen.PathPattern
import SchemaGen.Session
import SchemaGen.Walker

/-!
# Finding manifests

The input of a run is a manifest, or a directory that is searched for manifests at any depth.  A
walker goes through the directory, and what it comes to is a manifest if it is a file with the name
of one and, if there is a filter, fits it.  A fault of the walker ends the search.

* `Discovery.compileFilter`: the pattern of a filter.
* `Discovery.manifestsAmong`, `Discovery.found`: the manifests below a directory, by the names that
  lead to them.
* `Discovery.find`: the paths of the manifests of an input.
-/

namespace SchemaGen

/-- Why a search fails. -/
inductive SearchError where
  /-- There is nothing at the path of the input. -/
  | notFound (path : String)
  /-- The filter is no pattern. -/
  | invalidFilter (filter : String) (error : PathPattern.Error)
  /-- The walker has a fault. -/
  | walk (fault : String)
  deriving DecidableEq, Repr

/-- The text of the error. -/
def SearchError.message : SearchError → String
  | .notFound path => "Input path not found: " ++ path
  | .invalidFilter filter error =>
    "Invalid filter pattern '" ++ filter ++ "': " ++ error.message
  | .walk fault => "Walk error: " ++ fault

/-- What is searched, and how. -/
structure Discovery where
  /-- A manifest or a directory. -/
  input : String
  /-- Whether the rules of version control count. -/
  versionControl : Bool := true
  /-- What the paths of manifests have to fit, seen from the directory. -/
  filter : Option PathPattern := none

namespace Discovery

/-- The pattern of a filter. -/
def compileFilter (filter : String) : Except SearchError PathPattern :=
  match PathPattern.parse filter with
  | .ok pattern => .ok pattern
  | .error e => .error (.invalidFilter filter e)

/-- The path of an entry seen from the directory of the search. -/
def relativePath (names : Location) : String :=
  "/".intercalate names

/-- The path of an entry seen from where the directory is. -/
def pathOf (input : String) : Location → String
  | [] => input
  | names => Path.join input (relativePath names)

/-- Whether a path fits the filter. -/
def fitsFilter (d : Discovery) (names : Location) : Bool :=
  match d.filter with
  | some pattern => pattern.matches (relativePath names)
  | none => true

/-- Whether what a walk has come to is a manifest that is looked for. -/
def isWanted (d : Discovery) (fs : FileSystem) (names : Location) : Bool :=
  fs.isFile (pathOf d.input names) && Path.isManifest (pathOf d.input names) &&
    d.fitsFilter names

/-- The manifests among what a walk yields, up to its first fault. -/
def manifestsAmong (d : Discovery) (fs : FileSystem) :
    List (Except String Location) → Except SearchError (List Location)
  | [] => .ok []
  | .error fault :: _ => .error (.walk fault)
  | .ok names :: items =>
    (d.manifestsAmong fs items).map fun found =>
      if d.isWanted fs names then names :: found else found

/-- The manifests below a directory, by the names that lead to them from there. -/
def found (d : Discovery) (walker : Walker) (fs : FileSystem) :
    Except SearchError (List Location) :=
  d.manifestsAmong fs (walker.walk fs d.versionControl d.input)

/-- The paths of the manifests of an input.  An input that is a file is taken as it is. -/
def find (walker : Walker) (d : Discovery) : Job SearchError (List String) := do
  if !(← Job.inspect fun fs => fs.exists d.input) then throw (.notFound d.input)
  if ← Job.inspect fun fs => fs.isFile d.input then return [d.input]
  let found ← MonadExcept.ofExcept (← Job.inspect fun fs => d.found walker fs)
  report (if found.isEmpty then .noManifests d.input else .manifestsFound d.input found.length)
  return found.map (pathOf d.input)

end Discovery

end SchemaGen
