import SchemaGen.Text.Basic

/-!
# Paths

A path is kept as the text that the user wrote, so messages show it unchanged.  Cutting it at its
slashes gives its pieces; an empty piece and a single dot lead nowhere, except that a dot in the
first place is kept as the name of the working directory.

* `fileName?`, `extension?`: the last name of a path and what follows its last dot.
* `parent?`: the path without its last piece.
* `join`: a path seen from a directory.
* `isManifest`: whether a file is taken for a manifest by its name.
-/

namespace SchemaGen.Path

open Text

/-- The texts between the slashes. -/
def pieces (path : String) : List String :=
  (Text.pieces (· = '/') path.toList).map String.ofList

/-- A piece that leads nowhere. -/
def isIdle (piece : String) : Bool :=
  piece = "" || piece = "."

/-- The first piece, and the others without idle ones at the end, in reverse order. -/
def ends (path : String) : String × List String :=
  match pieces path with
  | [] => ("", [])
  | first :: rest => (first, rest.reverse.dropWhile isIdle)

/-- Whether a path starts at the root. -/
def isRooted (path : String) : Bool :=
  path.toList.head? = some '/'

/-- The last name of a path.  A path that ends by going up, or nowhere, has none. -/
def fileName? (path : String) : Option String :=
  match ends path with
  | (first, []) => if isIdle first || first = ".." then none else some first
  | (_, last :: _) => if last = ".." then none else some last

/-- What follows the last dot of the file name.  A name whose only dot is its first character
has no extension. -/
def extension? (path : String) : Option String := do
  let name ← fileName? path
  let (stem, _, ending) ← splitLast? (· = '.') name.toList
  if stem.isEmpty then none else some (String.ofList ending)

/-- The path without its last piece, or nothing for the root and for the empty path. -/
def parent? (path : String) : Option String :=
  match ends path with
  | (first, []) => if first = "" then none else some ""
  | (first, _ :: before) =>
    let kept := first :: (before.dropWhile isIdle).reverse
    if kept = [""] then some "/" else some ("/".intercalate kept)

/-- A path seen from a directory.  A path from the root stays what it is. -/
def join (dir path : String) : String :=
  if isRooted path || dir = "" then path
  else if dir.toList.getLast? = some '/' then dir ++ path
  else dir ++ "/" ++ path

/-- The endings of the names of manifests. -/
def manifestSuffixes : List String :=
  [".dto.json", ".dto.toml"]

/-- Whether a file is taken for a manifest by its name. -/
def isManifest (path : String) : Bool :=
  match fileName? path with
  | some name => manifestSuffixes.any fun suffix => suffix.toList.isSuffixOf name.toList
  | none => false

end SchemaGen.Path
