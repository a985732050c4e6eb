import SchemaGen.Exclusion.Pattern
import SchemaGen.FileSystem.Basic
import SchemaGen.Text.Blank

/-!
# Rules of exclusion

A file of rules has one on each line.  A rule excludes the paths that fit its pattern or, after an
exclamation mark, keeps them although an earlier rule excludes them.

* `Rule.ofLine`: the rule of a line, or what is wrong with it.
* `rulesOf`, `faultsOf`: the rules of a file, and the lines that are at fault.
* `verdict?`: what the rules of a file say about a path.
-/

namespace SchemaGen.Exclusion

open Text

/-- A rule about paths. -/
structure Rule where
  /-- The paths that it is about. -/
  pattern : Pattern
  /-- Whether it is only about directories. -/
  onlyDirectories : Bool
  /-- Whether it excludes the paths, or else keeps them. -/
  excludes : Bool

/-- What is wrong with a line of a file of rules. -/
inductive LineFault where
  /-- The line is no text. -/
  | noText
  /-- The rule writes no pattern. -/
  | noPattern (rule : String) (error : PatternError)
  deriving DecidableEq, Repr

/-- The text of the fault. -/
def LineFault.message : LineFault → String
  | .noText => IoError.invalidText.message
  | .noPattern rule error => "error parsing glob '" ++ rule ++ "': " ++ error.message

namespace Rule

/-- The line without blanks at its end, unless the last of them is escaped. -/
def trimEnd (line : List Char) : List Char :=
  if ['\\', ' '].isSuffixOf line then line else (line.reverse.dropWhile isBlank).reverse

/-- The mark at the beginning of a rule that keeps paths, whether the rule has one, and what
follows it. -/
def readMark : List Char → Bool × List Char
  | '\\' :: '!' :: s => (false, '!' :: s)
  | '\\' :: '#' :: s => (false, '#' :: s)
  | '!' :: s => (true, s)
  | s => (false, s)

/-- The slash at the end of a rule that is only about directories, whether the rule has one, and
what precedes it.  A backslash before the slash goes with it. -/
def readEnd (s : List Char) : Bool × List Char :=
  match s.reverse with
  | '/' :: '\\' :: t => (true, t.reverse)
  | '/' :: t => (true, t.reverse)
  | _ => (false, s)

/-- The text of the pattern.  A rule without a slash is about names in any directory, and one that
ends in two asterisks is about what is in a directory, not about the directory. -/
def patternText (rooted : Bool) (s : List Char) : List Char :=
  let any := ['*', '*', '/']
  let s := if rooted || s.contains '/' || s = ['*', '*'] then s else any ++ s
  if ['/', '*', '*'].isSuffixOf s then s ++ ['/', '*'] else s

/-- The rule of a line; comments and empty lines have none. -/
def ofLine (line : List Char) : Except LineFault (Option Rule) :=
  if line.head? = some '#' then .ok none
  else
    let line := trimEnd line
    if line.isEmpty then .ok none
    else
      let (keeps, s) := readMark line
      let rooted := s.head? = some '/'
      let (onlyDirectories, s) := readEnd (if rooted then s.tail else s)
      match Pattern.parse (patternText rooted s) with
      | .ok pattern => .ok (some { pattern, onlyDirectories, excludes := !keeps })
      | .error e => .error (.noPattern (String.ofList line) e)

/-- Whether the rule is about a path. -/
def concerns (rule : Rule) (path : List UInt8) (isDirectory : Bool) : Bool :=
  (!rule.onlyDirectories || isDirectory) && rule.pattern.fits path

end Rule

/-- The lines of a file, each as a text if it is one.  A carriage return before the end of a line
belongs to the end. -/
def linesOf (content : ByteArray) : List (Option String) :=
  let rec cut (line : List UInt8) : List UInt8 → List (List UInt8)
    | [] => if line.isEmpty then [] else [line.reverse]
    | b :: rest =>
      if b = 0x0a then
        (match line with
          | 0x0d :: line => line.reverse
          | line => line.reverse) :: cut [] rest
      else cut (b :: line) rest
  (cut [] content.toList).map fun line => String.fromUTF8? ⟨line.toArray⟩

/-- The lines of a file of rules.  A byte order mark may precede the first. -/
def ruleLines (content : ByteArray) : List (Option (List Char)) :=
  match (linesOf content).map fun line => line.map String.toList with
  | some first :: others => some (first.dropWhile (· = '\ufeff')) :: others
  | lines => lines

/-- The rules of a file, the last first, as far as its lines are texts. -/
def rulesOf (content : ByteArray) : List Rule :=
  let lines := ((ruleLines content).takeWhile Option.isSome).filterMap id
  (lines.filterMap fun line => (Rule.ofLine line).toOption.join).reverse

/-- The lines that are at fault, by their numbers, up to the first that is no text. -/
def faultsFrom (number : Nat) : List (Option (List Char)) → List (Nat × LineFault)
  | [] => []
  | none :: _ => [(number, .noText)]
  | some line :: lines =>
    match Rule.ofLine line with
    | .ok _ => faultsFrom (number + 1) lines
    | .error fault => (number, fault) :: faultsFrom (number + 1) lines

/-- The faults of a file.  A line that is no text is let pass if nothing else is wrong. -/
def faultsOf (content : ByteArray) : List (Nat × LineFault) :=
  match faultsFrom 1 (ruleLines content) with
  | [(_, .noText)] => []
  | faults => faults

/-- What the rules of a file say about a path: whether it is excluded, if any rule is about it.
The last such rule counts. -/
def verdict? (rules : List Rule) (path : List UInt8) (isDirectory : Bool) : Option Bool :=
  (rules.find? fun rule => rule.concerns path isDirectory).map Rule.excludes

end SchemaGen.Exclusion
