import SchemaGen.Exclusion.RuleFiles
import SchemaGen.Walker

/-!
# What a search sees

The rules of a directory are about everything below it, and the nearest that say something count.
The general rules come before those of version control, these before the ones that belong to one
repository only, and those that somebody has for all repositories come last.  Version control has a
say only inside a repository, and only about what is in the same one.

* `isExcluded`: whether an entry is excluded by itself.
* `isVisible`: whether a search from a directory reaches an entry: neither the entry nor a
  directory on the way is excluded.
* `faults`: what is wrong with the rules above a directory.
* `walker`: the walker that goes by the rules.
-/

namespace SchemaGen.Exclusion

/-- What some rules say about a location, and whether it is a directory: whether it is excluded, if
they are about it. -/
abbrev Verdicts := Location → (isDirectory : Bool) → Option Bool

/-- What marks the top directory of a repository. -/
def repositoryMarks : List String := [dataName, ".jj"]

/-- The directories above a location, the nearest first. -/
def levels : Location → List Location
  | [] => []
  | name :: rest => ((levels rest).map (name :: ·)) ++ [[]]

/-- The names that lead from a directory to a location below it, as a path. -/
def relativePath (directory location : Location) : List UInt8 :=
  ("/".intercalate (location.drop directory.length)).toUTF8.toList

/-- What the rules of a kind in one directory say about a location below it. -/
def verdictAt? (fs : FileSystem) (kind : RuleKind) (location : Location) (isDirectory : Bool)
    (directory : Location) : Option Bool :=
  match fileOf fs directory kind with
  | .ok (some file) =>
    verdict? (rulesOf file.content) (relativePath directory location) isDirectory
  | _ => none

/-- Whether a directory is the top of a repository. -/
def isRepository (fs : FileSystem) (directory : Location) : Bool :=
  repositoryMarks.any fun mark => (fs.entryAt? (directory ++ [mark])).isSome

/-- The directories up to the first that is the top of a repository, or none if there is none. -/
def insideRepository (fs : FileSystem) : List Location → List Location
  | [] => []
  | d :: ds =>
    if isRepository fs d then [d]
    else
      match insideRepository fs ds with
      | [] => []
      | inside => d :: inside

/-- The directories whose rules of a kind count for a location. -/
def counting (fs : FileSystem) (versionControl : Bool) (location : Location) :
    RuleKind → List Location
  | .general => levels location
  | .shared | .own => if versionControl then insideRepository fs (levels location) else []

/-- Whether an entry is excluded by itself.  `personal` are the rules for all repositories. -/
def isExcluded (fs : FileSystem) (personal : Verdicts) (versionControl : Bool)
    (location : Location) (isDirectory : Bool) : Bool :=
  let say (kind : RuleKind) :=
    (counting fs versionControl location kind).findSome?
      (verdictAt? fs kind location isDirectory)
  let sayPersonal :=
    if (counting fs versionControl location .shared).isEmpty then none
    else personal location isDirectory
  (say .general <|> say .shared <|> say .own <|> sayPersonal).getD false

/-- Whether a search from a directory reaches the entry that `names` lead to from there. -/
def isVisible (fs : FileSystem) (personal : Verdicts) (versionControl : Bool)
    (root names : Location) : Bool :=
  fs.reaches (isExcluded fs personal versionControl) root names

/-- What is wrong with the rules above a directory, from the root on. -/
def faults (fs : FileSystem) (versionControl : Bool) (root : Location) : List String :=
  (levels root).reverse.flatMap (faultsAt fs versionControl)

/-- The first thing that a walk from a directory yields if the rules above it are at fault. -/
def faultItems (fs : FileSystem) (versionControl : Bool) (root : Location) :
    List (Except String Location) :=
  match faults fs versionControl root with
  | [] => []
  | faults => [.error ("\n".intercalate faults)]

/-- The walker that goes by the rules, and by `personal` for all repositories.  It comes to the
directory itself first. -/
def walker (personal : Verdicts) : Walker where
  walk fs versionControl path :=
    match fs.locate path with
    | .error e => [.error (path ++ ": " ++ e.message)]
    | .ok root =>
      let seen := (fs.below root).filter fun e => isVisible fs personal versionControl root e.1
      faultItems fs versionControl root ++ ([] :: seen.map Prod.fst).map .ok

end SchemaGen.Exclusion
