import SchemaGen.FileSystem.Basic

/-!
# Walkers

Whoever searches a directory has a walker go through it.  Which entries the walker leaves out, in
which order it comes to the others and when it fails is its own affair, and nothing here depends on
it: a walker is known by what it yields.

* `Walker`: what goes through a directory.
* `FileSystem.reaches`: whether a walk that skips some entries comes to another.
-/

namespace SchemaGen

/-- What goes through a directory. -/
structure Walker where
  /-- What a walk through the directory at a path yields, one after the other: an entry, by the
  names that lead to it from the directory, or a fault, in the words of the walker.
  `versionControl` is whether the rules of version control count. -/
  walk (fs : FileSystem) (versionControl : Bool) (path : String) : List (Except String Location)

/-- Whether a walk from a directory comes to the entry that `names` lead to from there: it skips
neither the entry nor a directory on the way.  The directory itself is never asked about. -/
def FileSystem.reaches (fs : FileSystem) (skips : Location → Bool → Bool)
    (root names : Location) : Bool :=
  !(List.range names.length).any fun n =>
    let location := root ++ names.take (n + 1)
    skips location (fs.entryAt? location = some .directory)

end SchemaGen
