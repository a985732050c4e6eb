import SchemaGen.CommandLine.Similarity
import SchemaGen.Config.Basic
import SchemaGen.Mode
import SchemaGen.Text.Basic

/-!
# Arguments of the command

The command has options with a value and flags without.  The value of an option is attached to
it, with or without an equals sign, or is the next argument; an argument that looks like an option
is never a value.  Arguments are read one after the other, and the first that is wrong is
reported.  Only two things are found later: an option that lacks its value counts when the next
one begins, and flags that exclude each other count at the end.

* `Switch`: the options and flags.
* `UsageError`: what is wrong with arguments.
* `Request.ofArguments`: what the arguments ask for.
-/

namespace SchemaGen.CommandLine

open Text

/-- The options and flags of the command. -/
inductive Switch where
  | input
  | output
  | config
  | filter
  | emitHelpers
  | dryRun
  | check
  | help
  | version
  deriving DecidableEq, Repr

namespace Switch

/-- All options and flags. -/
def all : List Switch :=
  [input, output, config, filter, emitHelpers, dryRun, check, help, version]

/-- The long name. -/
def name : Switch → String
  | input => "input"
  | output => "output"
  | config => "config"
  | filter => "filter"
  | emitHelpers => "emit-helpers"
  | dryRun => "dry-run"
  | check => "check"
  | help => "help"
  | version => "version"

/-- The short name. -/
def letter? : Switch → Option Char
  | input => some 'i'
  | output => some 'o'
  | config => some 'c'
  | help => some 'h'
  | version => some 'V'
  | filter | emitHelpers | dryRun | check => none

/-- What the value of an option is called. -/
def valueName? : Switch → Option String
  | input => some "INPUT"
  | output => some "OUTPUT"
  | config => some "CONFIG"
  | filter => some "FILTER"
  | emitHelpers | dryRun | check | help | version => none

/-- Whether the value may not be empty: it is a path. -/
def needsText : Switch → Bool
  | input | output | config => true
  | filter | emitHelpers | dryRun | check | help | version => false

/-- The option or flag as usage texts show it. -/
def shown (s : Switch) : String :=
  match s.valueName? with
  | some value => "--" ++ s.name ++ " <" ++ value ++ ">"
  | none => "--" ++ s.name

/-- The option or flag of a long name. -/
def ofName? (name : String) : Option Switch :=
  all.find? fun s => s.name = name

/-- The option or flag of a short name. -/
def ofLetter? (c : Char) : Option Switch :=
  all.find? fun s => s.letter? = some c

end Switch

/-- What is wrong with arguments.  `used` are the options and flags that a usage line shows. -/
inductive UsageError where
  /-- An argument that the command does not know, and one that may have been meant. -/
  | unexpectedArgument (text : String) (similar : Option Switch) (used : List Switch)
  /-- A value for a flag. -/
  | unexpectedValue (s : Switch) (value : String) (used : List Switch)
  /-- An option without its value. -/
  | missingValue (s : Switch)
  | repeated (s : Switch)
  /-- Two flags that exclude each other. -/
  | conflict (first second : Switch) (used : List Switch)
  deriving DecidableEq, Repr

namespace UsageError

/-- The usage line. -/
def usage (used : List Switch) : String :=
  "\n\nUsage: dto-zod " ++
    if used.isEmpty then "[OPTIONS]" else " ".intercalate (used.eraseDups.map Switch.shown)

/-- What is wrong, with the usage line. -/
def description : UsageError → String
  | unexpectedArgument text similar used =>
    "unexpected argument '" ++ text ++ "' found" ++
      (match similar with
        | some s => "\n\n  tip: a similar argument exists: '--" ++ s.name ++ "'"
        | none => "") ++
      usage used
  | unexpectedValue s value used =>
    "unexpected value '" ++ value ++ "' for '" ++ s.shown ++
      "' found; no more were expected" ++ usage used
  | missingValue s => "a value is required for '" ++ s.shown ++ "' but none was supplied"
  | repeated s => "the argument '" ++ s.shown ++ "' cannot be used multiple times" ++ usage []
  | conflict first second used =>
    "the argument '" ++ first.shown ++ "' cannot be used with '" ++ second.shown ++ "'" ++
      usage used

/-- The text of the error. -/
def message (e : UsageError) : String :=
  "error: " ++ e.description ++ "\n\nFor more information, try '--help'.\n"

end UsageError

/-! ## Reading -/

/-- Why no more arguments are read. -/
inductive Stop where
  | wrong (e : UsageError)
  | help
  | version

/-- What has been read. -/
structure Given where
  /-- The options and flags with their values, in order. -/
  settled : List (Switch × String)
  /-- An option whose value may still come, or has come as an argument of its own. -/
  pending : Option (Switch × Option String)
  /-- Whether all that follows is taken for no option. -/
  onlyPlain : Bool

/-- A computation that reads arguments. -/
abbrev Reading := ExceptT Stop (StateM Given)

namespace Reading

/-- Refuses the arguments. -/
def fail {α : Type} (e : UsageError) : Reading α :=
  throw (.wrong e)

/-- Settles an option or flag.  One that is settled already is dropped before it is refused. -/
def settle (s : Switch) (value : String) : Reading Unit := do
  let settled := (← getThe Given).settled
  if settled.any fun g => g.1 = s then
    modifyThe Given fun g => { g with settled := settled.filter fun g => g.1 ≠ s }
    fail (.repeated s)
  modifyThe Given fun g => { g with settled := settled ++ [(s, value)] }
  if s.needsText && value.isEmpty then fail (.missingValue s)

/-- Settles the pending option. -/
def settlePending : Reading Unit := do
  match (← getThe Given).pending with
  | none => return
  | some (s, value) =>
    modifyThe Given fun g => { g with pending := none }
    match value with
    | some value => settle s value
    | none => fail (.missingValue s)

/-- Settles the pending option whether or not it is right: another fault comes before it. -/
def settleQuietly : Reading Unit := do
  tryCatch settlePending fun _ => return

/-- The options and flags that are settled. -/
def used : Reading (List Switch) :=
  return (← getThe Given).settled.map Prod.fst

/-- A flag. -/
def flag (s : Switch) : Reading Unit := do
  settlePending
  match s with
  | .help => throw .help
  | .version => throw .version
  | s => settle s ""

/-- An option, with the value that is attached to it. -/
def option (s : Switch) (attached : Option String) : Reading Unit := do
  settlePending
  match attached with
  | some value => settle s value
  | none => modifyThe Given fun g => { g with pending := some (s, none) }

/-- An argument that is no option and no value. -/
def plain (text : String) : Reading Unit := do
  settleQuietly
  fail (.unexpectedArgument text none [])

/-- An argument with a long name. -/
def long (name : String) (attached : Option String) : Reading Unit := do
  match Switch.ofName? name with
  | some s =>
    match s.valueName?, attached with
    | some _, _ => option s attached
    | none, some value => fail (.unexpectedValue s value ((← used) ++ [s]))
    | none, none => flag s
  | none =>
    settleQuietly
    let similar := Similarity.best? (fun s => s.name.toList) name.toList Switch.all
    fail (.unexpectedArgument ("--" ++ name) similar ((← used) ++ similar.toList))

/-- An argument with short names: flags, and at the end perhaps an option with its value. -/
def short : List Char → Reading Unit
  | [] => return
  | c :: s =>
    match Switch.ofLetter? c with
    | none => do
      settleQuietly
      fail (.unexpectedArgument (String.ofList ['-', c]) none [])
    | some sw =>
      match sw.valueName? with
      | none => do
        flag sw
        short s
      | some _ =>
        match s with
        | [] => option sw none
        | '=' :: value => option sw (some (String.ofList value))
        | value => option sw (some (String.ofList value))

/-- An argument that may be the value of the pending option. -/
def value (text : String) : Reading Unit := do
  match (← getThe Given).pending with
  | some (s, none) => modifyThe Given fun g => { g with pending := some (s, some text) }
  | _ => plain text

/-- One argument. -/
def argument (text : String) : Reading Unit := do
  if (← getThe Given).onlyPlain then plain text
  else
    match text.toList with
    | ['-', '-'] => modifyThe Given fun g => { g with onlyPlain := true }
    | '-' :: '-' :: s =>
      let name := String.ofList (uptoFirst (· = '=') s)
      match s.dropWhile (· ≠ '=') with
      | [] => long name none
      | _ :: attached => long name (some (String.ofList attached))
    | '-' :: c :: s => short (c :: s)
    | _ => value text

/-- Refuses flags that exclude each other. -/
def checkConflicts : Reading Unit := do
  let used ← used
  match used.filter fun s => s = .dryRun || s = .check with
  | first :: second :: _ => fail (.conflict first second (used.filter (· ≠ second)))
  | _ => return

/-- All arguments. -/
def arguments (texts : List String) : Reading Unit := do
  texts.forM argument
  settlePending
  checkConflicts

end Reading

/-! ## Requests -/

/-- What the command is asked to do. -/
structure Invocation where
  config : Option String
  arguments : Arguments
  mode : Mode
  deriving DecidableEq, Repr

/-- What arguments ask for. -/
inductive Request where
  | run (invocation : Invocation)
  | help
  | version
  | refused (e : UsageError)
  deriving DecidableEq, Repr

/-- The invocation of settled options and flags. -/
def Invocation.ofSettled (settled : List (Switch × String)) : Invocation :=
  let has (s : Switch) := settled.any fun g => g.1 = s
  { config := settled.lookup .config
    arguments :=
      { input := settled.lookup .input
        output := settled.lookup .output
        filter := settled.lookup .filter
        emitHelpers := if has .emitHelpers then some true else none }
    mode := if has .dryRun then .dryRun else if has .check then .check else .write }

/-- What arguments ask for. -/
def Request.ofArguments (texts : List String) : Request :=
  match (Reading.arguments texts).run.run ⟨[], none, false⟩ with
  | (.ok (), given) => .run (.ofSettled given.settled)
  | (.error (.wrong e), _) => .refused e
  | (.error .help, _) => .help
  | (.error .version, _) => .version

end SchemaGen.CommandLine
