import SchemaGen.Assoc

/-!
# File systems

A file system is a finite set of entries, each at a location: the list of names that leads to it
from the root.  The root is a directory and has no entry of its own.

* `FileSystem.entryAt?`: what is at a location.
* `FileSystem.put`: sets the entry of a location, with `entryAt?_put`.
* `FileSystem.below`: what is below a location.
-/

namespace SchemaGen

/-- The names that lead from the root to an entry. -/
abbrev Location := List String

/-- What can be at a location. -/
inductive Entry where
  | directory
  | file (content : ByteArray)

instance : DecidableEq Entry
  | .directory, .directory => isTrue rfl
  | .directory, .file _ | .file _, .directory => isFalse nofun
  | .file a, .file b =>
    match ByteArray.instDecidableEq a b with
    | isTrue h => isTrue (congrArg Entry.file h)
    | isFalse h => isFalse fun heq => h (Entry.file.inj heq)

/-- Why an operation on the file system fails. -/
inductive IoError where
  | notFound
  | alreadyExists
  | notADirectory
  | isADirectory
  | invalidText
  deriving DecidableEq, Repr

/-- The text of the error, as the operating system gives it. -/
def IoError.message : IoError → String
  | .notFound => "No such file or directory (os error 2)"
  | .alreadyExists => "File exists (os error 17)"
  | .notADirectory => "Not a directory (os error 20)"
  | .isADirectory => "Is a directory (os error 21)"
  | .invalidText => "stream did not contain valid UTF-8"

/-- A file system as a working directory sees it. -/
structure FileSystem where
  /-- Where paths that do not start at the root begin. -/
  workingDirectory : Location
  /-- The entries below the root, in ascending order of their locations. -/
  entries : List (Location × Entry)
  deriving DecidableEq

namespace FileSystem

/-- What is at a location. -/
def entryAt? (fs : FileSystem) (l : Location) : Option Entry :=
  if l = [] then some .directory else fs.entries.lookup l

/-- The file system with an entry at a location below the root. -/
def put (fs : FileSystem) (l : Location) (e : Entry) : FileSystem :=
  { fs with entries := Assoc.put l e fs.entries }

/-- A location below the root has what was put there, and no other has changed. -/
theorem entryAt?_put {fs : FileSystem} {l other : Location} {e : Entry} (h : l ≠ []) :
    (fs.put l e).entryAt? other = if other = l then some e else fs.entryAt? other := by
  unfold entryAt? put
  by_cases ho : other = []
  · subst ho
    simp [Ne.symm h]
  · simp [ho, Assoc.lookup_put]

/-- The entries below a location, by the names that lead to them from there, in ascending order:
a directory stands before its contents, and the contents of a directory follow each other by
name. -/
def below (fs : FileSystem) (l : Location) : List (Location × Entry) :=
  fs.entries.filterMap fun (location, e) =>
    if l.isPrefixOf location && location ≠ l then some (location.drop l.length, e) else none

end FileSystem

end SchemaGen
