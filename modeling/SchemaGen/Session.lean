import SchemaGen.Event
import SchemaGen.FileSystem.Access

/-!
# Sessions

Everything that a run may look at or change: the file system, and the log of events.  A job is a
computation on a session that may fail.  What it has done before it fails stays done.

* `Session`, `Job`: the state and the computations on it.
* `Job.inspect`: looks at the file system.
* `Job.change`: changes the file system, or fails and leaves it.
-/

namespace SchemaGen

/-- What a run may look at or change. -/
structure Session where
  /-- The file system. -/
  files : FileSystem
  /-- What has been reported, in order. -/
  events : List Event

/-- A computation on a session that may fail. -/
abbrev Job (ε α : Type) := ExceptT ε (StateM Session) α

instance : MonadReport (StateM Session) :=
  ⟨fun e => modify fun s => { s with events := s.events ++ [e] }⟩

instance {σ : Type} {m : Type → Type} [Monad m] [MonadReport m] : MonadReport (StateT σ m) :=
  ⟨fun e => StateT.lift (report e)⟩

namespace Job

variable {ε α : Type}

/-- Looks at the file system. -/
def inspect (look : FileSystem → α) : Job ε α :=
  return look (← getThe Session).files

/-- Looks at the file system, where that may fail. -/
def access (wrap : IoError → ε) (look : FileSystem → Except IoError α) : Job ε α := do
  match look (← getThe Session).files with
  | .ok a => return a
  | .error e => throw (wrap e)

/-- Sets the file system. -/
def setFiles (files : FileSystem) : Job ε Unit :=
  modifyThe Session fun s => { s with files }

/-- Changes the file system, or fails and leaves it as it is. -/
def change (wrap : IoError → ε) (alter : FileSystem → Except IoError FileSystem) : Job ε Unit := do
  setFiles (← access wrap alter)

/-- Makes a directory and those above it; the ones that were made before a failure stay. -/
def makeDirectories (wrap : IoError → ε) (path : String) : Job ε Unit := do
  let (result, files) ← inspect fun fs => fs.makeDirectories path
  setFiles files
  match result with
  | .ok () => return
  | .error e => throw (wrap e)

end Job

end SchemaGen
