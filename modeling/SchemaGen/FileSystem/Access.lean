import SchemaGen.FileSystem.Basic
import SchemaGen.Path

/-!
# Access to files by path

Every operation follows its path piece by piece, and every piece that is passed has to be a
directory.  A failing operation leaves the file system as it was, except that making a directory
with its ancestors keeps those that it has made.

* `locate`: the location that a path leads to, whether or not something is there.
* `stat`, `exists`, `isFile`, `isDirectory`, `read`, `readText`: looking.
* `putFile`, `makeDirectory`, `makeDirectories`: changing.
-/

namespace SchemaGen.FileSystem

/-- Where a path begins. -/
def start (fs : FileSystem) (path : String) : Location :=
  if Path.isRooted path then [] else fs.workingDirectory

/-- Follows one piece of a path from a location, which has to be a directory. -/
def follow (fs : FileSystem) (here : Location) (piece : String) : Except IoError Location :=
  match fs.entryAt? here with
  | none => .error .notFound
  | some (.file _) => .error .notADirectory
  | some .directory =>
    if Path.isIdle piece then .ok here
    else if piece = ".." then .ok here.dropLast
    else .ok (here ++ [piece])

/-- The location that a path leads to, whether or not something is there. -/
def locate (fs : FileSystem) (path : String) : Except IoError Location :=
  if path = "" then .error .notFound else (Path.pieces path).foldlM fs.follow (fs.start path)

/-! ## Looking -/

/-- What a path leads to. -/
def stat (fs : FileSystem) (path : String) : Except IoError Entry := do
  match fs.entryAt? (← fs.locate path) with
  | some e => return e
  | none => throw .notFound

/-- Whether a path leads to something. -/
def «exists» (fs : FileSystem) (path : String) : Bool :=
  match fs.stat path with
  | .ok _ => true
  | .error _ => false

/-- Whether a path leads to a file. -/
def isFile (fs : FileSystem) (path : String) : Bool :=
  match fs.stat path with
  | .ok (.file _) => true
  | _ => false

/-- Whether a path leads to a directory. -/
def isDirectory (fs : FileSystem) (path : String) : Bool :=
  match fs.stat path with
  | .ok .directory => true
  | _ => false

/-- The content of a file. -/
def read (fs : FileSystem) (path : String) : Except IoError ByteArray := do
  match ← fs.stat path with
  | .file content => return content
  | .directory => throw .isADirectory

/-- The content of a file that holds text. -/
def readText (fs : FileSystem) (path : String) : Except IoError String := do
  match String.fromUTF8? (← fs.read path) with
  | some text => return text
  | none => throw .invalidText

/-! ## Changing -/

/-- Where a path puts a new entry: a directory and a name in it. -/
structure Slot where
  /-- The directory. -/
  directory : Location
  /-- The name. -/
  name : String
  /-- Whether a slash follows the name. -/
  slashed : Bool

namespace Slot

/-- The location of the new entry. -/
def location (slot : Slot) : Location :=
  slot.directory ++ [slot.name]

end Slot

/-- The slot of a path.  A path that ends in a dot, in two dots or at the root names no new entry,
and so has none. -/
def slot? (fs : FileSystem) (path : String) : Except IoError (Option Slot) := do
  if path = "" then throw .notFound
  match (Path.pieces path).reverse.dropWhile (· = "") with
  | [] => return none
  | name :: before =>
    let directory ← before.reverse.foldlM fs.follow (fs.start path)
    match fs.entryAt? directory with
    | none => throw .notFound
    | some (.file _) => throw .notADirectory
    | some .directory =>
      if name = "." || name = ".." then return none
      else return some ⟨directory, name, path.toList.getLast? = some '/'⟩

/-- Makes a file or replaces its content. -/
def putFile (fs : FileSystem) (path : String) (content : ByteArray) :
    Except IoError FileSystem := do
  match ← fs.slot? path with
  | none => throw .isADirectory
  | some slot =>
    if slot.slashed then throw .isADirectory
    match fs.entryAt? slot.location with
    | some .directory => throw .isADirectory
    | _ => return fs.put slot.location (.file content)

/-- Makes a directory in one that is there. -/
def makeDirectory (fs : FileSystem) (path : String) : Except IoError FileSystem := do
  match ← fs.slot? path with
  | none => throw .alreadyExists
  | some slot =>
    match fs.entryAt? slot.location with
    | some _ => throw .alreadyExists
    | none => return fs.put slot.location .directory

/-- Makes a directory and, as far as they are missing, the directories above it; `depth` bounds
the number of directories that are tried. -/
def makeDirectoriesWithin : Nat → FileSystem → String → Except IoError Unit × FileSystem
  | 0, fs, _ => (.error .notFound, fs)
  | depth + 1, fs, path =>
    let settle (fs : FileSystem) (e : IoError) : Except IoError Unit × FileSystem :=
      if fs.isDirectory path then (.ok (), fs) else (.error e, fs)
    if path = "" then (.ok (), fs)
    else
      match fs.makeDirectory path with
      | .ok fs => (.ok (), fs)
      | .error .notFound =>
        match Path.parent? path with
        | none => (.error .notFound, fs)
        | some parent =>
          match makeDirectoriesWithin depth fs parent with
          | (.error e, fs) => (.error e, fs)
          | (.ok (), fs) =>
            match fs.makeDirectory path with
            | .ok fs => (.ok (), fs)
            | .error e => settle fs e
      | .error e => settle fs e

/-- Makes a directory and, as far as they are missing, the directories above it.  A path has no
more ancestors than pieces. -/
def makeDirectories (fs : FileSystem) (path : String) : Except IoError Unit × FileSystem :=
  makeDirectoriesWithin ((Path.pieces path).length + 1) fs path

end SchemaGen.FileSystem
