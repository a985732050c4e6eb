import SchemaGen.Session

/-!
# The output folder

Where the generated modules go.  Depending on the mode, a module is stored in the folder, only
told, or compared with what the folder has.

* `OutputFolder.prepare`: makes the folder if something is going to be stored.
* `OutputFolder.put`: treats one module.
* `Treatment`: what was done with a module.
-/

namespace SchemaGen

/-- Why a module could not be treated. -/
inductive WriteError where
  /-- A directory cannot be made. -/
  | notMade (path : String) (error : IoError)
  /-- A file cannot be stored. -/
  | notWritten (path : String) (error : IoError)
  /-- A file cannot be read. -/
  | notRead (path : String) (error : IoError)
  deriving DecidableEq, Repr

/-- The text of the error. -/
def WriteError.message : WriteError → String
  | .notMade path error => "Failed to create directory " ++ path ++ ": " ++ error.message
  | .notWritten path error => "Failed to write file " ++ path ++ ": " ++ error.message
  | .notRead path error => "Failed to read file " ++ path ++ ": " ++ error.message

/-- How a file differs from the module that belongs there. -/
inductive Difference where
  /-- There is nothing. -/
  | missing
  /-- Its content is another. -/
  | outdated
  deriving DecidableEq, Repr

/-- What was done with a module. -/
inductive Treatment where
  /-- It was stored. -/
  | written (path : String) (bytes : Nat)
  /-- It would have been stored. -/
  | previewed (path content : String)
  /-- The file holds it already. -/
  | unchanged (path : String)
  /-- The file does not hold it. -/
  | stale (path : String) (difference : Difference)
  deriving DecidableEq, Repr

namespace Treatment

/-- The path of the module. -/
def path : Treatment → String
  | written path _ | previewed path _ | unchanged path | stale path _ => path

/-- Whether the module was stored. -/
def isWritten : Treatment → Bool
  | written .. => true
  | _ => false

/-- Whether the file was found to differ. -/
def isStale : Treatment → Bool
  | stale .. => true
  | _ => false

/-- The number of bytes that were stored. -/
def bytes : Treatment → Nat
  | written _ bytes => bytes
  | _ => 0

end Treatment

/-- A folder that takes the modules of a run. -/
structure OutputFolder where
  /-- The path of the folder. -/
  dir : String
  /-- What is done with a module. -/
  mode : Mode
  /-- What was done with the modules so far, in order. -/
  results : List Treatment

/-- A computation that puts modules into a folder. -/
abbrev Storing (ε α : Type) := ExceptT ε (StateT OutputFolder (StateM Session)) α

/-- A job that uses no folder, among computations that do. -/
def Job.storing {ε α : Type} (job : Job ε α) : Storing ε α :=
  ExceptT.mk (StateT.lift job.run)

namespace OutputFolder

/-- A folder without modules. -/
def new (dir : String) (mode : Mode) : OutputFolder :=
  ⟨dir, mode, []⟩

/-- The files that were found to differ. -/
def stale (folder : OutputFolder) : List Treatment :=
  folder.results.filter Treatment.isStale

/-- Makes the folder.  Nothing is made where nothing is going to be stored. -/
def prepare (dir : String) (mode : Mode) : Job WriteError Unit := do
  if mode = .write && !(← Job.inspect fun fs => fs.isDirectory dir) then
    Job.makeDirectories (.notMade dir) dir
    report (.directoryCreated dir)

/-- Stores a module, after the directory that it goes to. -/
def store (path content : String) : Job WriteError Treatment := do
  if let some parent := Path.parent? path then
    if !(← Job.inspect fun fs => fs.exists parent) then
      Job.makeDirectories (.notMade parent) parent
  Job.change (.notWritten path) fun fs => fs.putFile path content.toUTF8
  return .written path content.utf8ByteSize

/-- Compares a module with the file that belongs to it. -/
def compare (path content : String) : Job WriteError Treatment := do
  if !(← Job.inspect fun fs => fs.exists path) then return .stale path .missing
  let text ← Job.access (.notRead path) fun fs => fs.readText path
  return if text = content then .unchanged path else .stale path .outdated

/-- Treats a module as the mode says. -/
def treat (path content : String) : Mode → Job WriteError Treatment
  | .write => store path content
  | .dryRun => return .previewed path content
  | .check => compare path content

/-- Puts a module into the folder. -/
def put (name content : String) : Storing WriteError Treatment := do
  let folder ← getThe OutputFolder
  let result ← (treat (Path.join folder.dir name) content folder.mode).storing
  report (.fileHandled result.path folder.mode)
  modifyThe OutputFolder fun folder => { folder with results := folder.results ++ [result] }
  return result

/-- A computation that uses the folder, as a job. -/
def collect {ε α : Type} (folder : OutputFolder) (work : Storing ε α) :
    Job ε (α × OutputFolder) :=
  ExceptT.mk do
    let (result, folder) ← work.run.run folder
    return result.map fun a => (a, folder)

end OutputFolder

end SchemaGen
