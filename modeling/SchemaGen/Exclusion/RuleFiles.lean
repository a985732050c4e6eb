import SchemaGen.Exclusion.Rule
import SchemaGen.FileSystem.Access
import SchemaGen.Text.Basic

/-!
# Files of rules

Every directory may have three files of rules: the general ones, those of version control, and those
that belong to one repository only.  A repository may have its own rules elsewhere: a file in place
of the directory with its data is a link, and leads to the directory that several working trees
share.

* `RuleKind`, `RuleFile`: the kinds of files of rules, and what is read from one.
* `linked`: the own rules of a repository that is a link.
* `fileOf`: the file of rules of a kind that a directory has.
* `faultsAt`: what is wrong with the files of rules of a directory.
-/

namespace SchemaGen.Exclusion

/-- The kinds of files of rules.  Those that come first count first. -/
inductive RuleKind where
  /-- Rules for every search. -/
  | general
  /-- The rules of version control. -/
  | shared
  /-- The rules of one repository. -/
  | own
  deriving DecidableEq, Repr

/-- The kinds that count. -/
def RuleKind.counting (versionControl : Bool) : List RuleKind :=
  if versionControl then [.general, .shared, .own] else [.general]

/-- A file, by the path that it is named by, and its content. -/
structure RuleFile where
  path : String
  content : ByteArray

/-- The data of a repository. -/
def dataName : String := ".git"

/-- The file at a location. -/
def fileAt (fs : FileSystem) (l : Location) : Option RuleFile :=
  match fs.entryAt? l with
  | some (.file content) => some ⟨"/" ++ "/".intercalate l, content⟩
  | _ => none

/-- The file at a path, if something is there.  A directory cannot be read. -/
def lookUp (fs : FileSystem) (path : String) : Except String (Option RuleFile) :=
  match fs.stat path with
  | .ok (.file content) => .ok (some ⟨path, content⟩)
  | .ok .directory => .error (path ++ ": " ++ IoError.isADirectory.message)
  | .error _ => .ok none

/-- The first line of a file, if it has one. -/
def RuleFile.firstLine (file : RuleFile) : Except String (Option String) :=
  match linesOf file.content with
  | [] => .ok none
  | some line :: _ => .ok (some line)
  | none :: _ => .error (file.path ++ ": " ++ IoError.invalidText.message)

/-- The directory that a link to the data of a repository tells. -/
def RuleFile.dataDirectory? (link : RuleFile) : Except String (Option String) := do
  let some line ← link.firstLine | return none
  return (Text.stripPrefix? "gitdir: ".toList line.toList).map String.ofList

/-- The path of the own rules, where the data in `directory` tell by `line` what they share. -/
def ownRulesPath (directory line : String) : String :=
  Path.join (if line.toList.head? = some '.' then Path.join directory line else line)
    "info/exclude"

/-- The own rules of a repository whose data are elsewhere. -/
def linked (fs : FileSystem) (link : RuleFile) : Except String (Option RuleFile) := do
  let some directory ← link.dataDirectory? | return none
  let some common ← lookUp fs (Path.join directory "commondir") | return none
  let some line ← common.firstLine | return none
  return (lookUp fs (ownRulesPath directory line)).toOption.join

/-- The file of rules of a kind that a directory has. -/
def fileOf (fs : FileSystem) (directory : Location) : RuleKind → Except String (Option RuleFile)
  | .general => .ok (fileAt fs (directory ++ [".ignore"]))
  | .shared => .ok (fileAt fs (directory ++ [".gitignore"]))
  | .own =>
    match fileAt fs (directory ++ [dataName]) with
    | some link => linked fs link
    | none => .ok (fileAt fs (directory ++ [dataName, "info", "exclude"]))

/-- What is wrong with the files of rules of a directory. -/
def faultsAt (fs : FileSystem) (versionControl : Bool) (directory : Location) : List String :=
  (RuleKind.counting versionControl).flatMap fun kind =>
    match fileOf fs directory kind with
    | .error e => [e]
    | .ok none => []
    | .ok (some file) => (faultsOf file.content).map fun (number, fault) =>
      file.path ++ ": line " ++ toString number ++ ": " ++ fault.message

end SchemaGen.Exclusion
