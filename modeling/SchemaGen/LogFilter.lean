import SchemaGen.Text.Blank
import SchemaGen.Text.CharClass

/-!
# Log filters

The configuration tells which events are shown by a list of directives, separated by commas.  A
directive is a level, the name of a part of the program, or both; a part may be narrowed to a
span, with fields, between brackets:

```text
warn
dto_zod=debug,info
dto_zod[run{mode}]=trace
```

Here it is only decided whether a filter is well formed.

* `LogFilter.check`: what is wrong with a filter.
-/

namespace SchemaGen.LogFilter

open Text

/-- What is wrong with a filter. -/
inductive Fault where
  /-- What stands in the place of a level is none. -/
  | noLevel
  /-- A directive is not well formed. -/
  | noDirective
  deriving DecidableEq, Repr

/-- The text of the fault. -/
def Fault.message : Fault → String
  | .noLevel =>
    "error parsing level filter: expected one of \"off\", \"error\", \"warn\", \"info\", " ++
      "\"debug\", \"trace\", or a number 0-5"
  | .noDirective => "invalid filter directive"

/-- The names of the levels. -/
def levelNames : List (List Char) :=
  ["off", "error", "warn", "info", "debug", "trace"].map String.toList

/-- Whether a text is the number of a level. -/
def isLevelNumber (s : List Char) : Bool :=
  let digits := match s with
    | '+' :: s => s
    | s => s
  !digits.isEmpty && digits.all isAsciiDigit &&
    digits.foldl (fun n c => n * 10 + (c.toNat - '0'.toNat)) 0 ≤ 5

/-- Whether a text is a level: a name in any case, a number, or nothing. -/
def isLevel (s : List Char) : Bool :=
  s.isEmpty || levelNames.contains (s.map Char.toLower) || isLevelNumber s

/-- What comes after the equals sign of a directive.  Blanks around the directive do not count,
except that none may stand before or behind a directive that ends in a level. -/
def checkLevel (padded : Bool) (s : List Char) : Except Fault Unit :=
  if padded || !isLevel s then .error .noLevel else .ok ()

/-- What comes after the brackets of a span. -/
def checkAfterSpan (padded : Bool) : List Char → Except Fault Unit
  | [] => .ok ()
  | '=' :: s => checkLevel padded s
  | _ => .error .noDirective

/-- What comes after the brace that opens the fields of a span: the fields, of which there is at
least one, and the brace and the bracket that close them. -/
def checkFields (padded : Bool) (s : List Char) : Except Fault Unit :=
  if (s.takeWhile (· ≠ '\x7d')).isEmpty then .error .noDirective
  else
    match s.dropWhile (· ≠ '\x7d') with
    | _ :: ']' :: s => checkAfterSpan padded s
    | _ => .error .noDirective

/-- What comes after the bracket that opens a span. -/
def checkSpan (padded : Bool) (s : List Char) : Except Fault Unit :=
  match s.dropWhile fun c => c ≠ ']' && c ≠ '\x7b' with
  | ']' :: s => checkAfterSpan padded s
  | _ :: s => checkFields padded s
  | [] => .error .noDirective

/-- What comes after the name of a part, or instead of it. -/
def checkAfterName (padded : Bool) : List Char → Except Fault Unit
  | [] => .ok ()
  | '[' :: s => checkSpan padded s
  | _ :: s => checkLevel padded s

/-- A character that a directive may begin with. -/
def startsName (c : Char) : Bool :=
  isAlphanumeric c || c = '-' || c = ':' || c = '_'

/-- One directive. -/
def checkDirective (piece : List Char) : Except Fault Unit :=
  let text := trim piece
  let padded := decide (text ≠ piece)
  match text with
  | [] => .error .noDirective
  | c :: s =>
    if c = '[' then checkSpan padded s
    else if startsName c then checkAfterName padded (s.dropWhile fun d => d ≠ '=' && d ≠ '[')
    else .error .noDirective

/-- What is wrong with a filter.  Nothing between two commas is no directive at all. -/
def check (filter : String) : Except Fault Unit :=
  ((pieces (· = ',') filter.toList).filter (!·.isEmpty)).forM checkDirective

end SchemaGen.LogFilter
