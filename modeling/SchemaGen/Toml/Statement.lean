import SchemaGen.Toml.Scalar
import SchemaGen.Toml.Token

/-!
# Statements of a document

A document is a sequence of lines, each a statement or empty: a key with its value, or the header
of a table.  Only a value between brackets or braces goes on over several lines.

* `Key.ofTokens?`: the names of a key.
* `Reader.feed?`: reads one more token; `Reader.finish?`: reads the end.
* `statements?`: the statements of a text, if it is well formed.

As for values in the other format, a `Place` remembers what surrounds the value that comes next.
Values may be nested eighty levels deep.
-/

namespace SchemaGen.Toml

open Text

/-- A statement of a document. -/
inductive Statement where
  /-- The key has this value in the table whose header came last. -/
  | assign (path : List String) (key : String) (v : Value)
  /-- The header of a table. -/
  | table (path : List String) (key : String)
  /-- The header of one more table of several. -/
  | tables (path : List String) (key : String)

/-! ## Keys -/

/-- A part of a key. -/
inductive KeyPart where
  | name (s : String)
  | dot
  deriving DecidableEq, Repr

namespace Key

/-- A character of a name without quotes. -/
def isNameChar (c : Char) : Bool :=
  isAsciiLetter c || isAsciiDigit c || c = '_' || c = '-'

/-- The parts of a run: names with dots between them; a name may be missing at either end, where
it can stand between quotes. -/
def partsOfRun (s : List Char) : List KeyPart :=
  let names := (pieces (· = '.') s).map fun name =>
    if name.isEmpty then [] else [KeyPart.name (String.ofList name)]
  ([KeyPart.dot].intercalate names)

/-- The parts of a key that a token gives. -/
def partsOfToken? : Token → Option (List KeyPart)
  | .bare s => if s.all fun c => isNameChar c || c = '.' then some (partsOfRun s) else none
  | .line s => some [.name s]
  | _ => none

/-- The names of a key, which are separated by dots: all but the last, and the last. -/
def names? : List KeyPart → Option (List String × String)
  | [.name s] => some ([], s)
  | .name s :: .dot :: rest => (names? rest).map fun (path, key) => (s :: path, key)
  | _ => none

/-- The names of a key. -/
def ofTokens? (ts : List Token) : Option (List String × String) := do
  names? (← ts.mapM partsOfToken?).flatten

end Key

/-! ## Values -/

/-- Where the value that comes next belongs. -/
inductive Place where
  /-- It is the value of a statement. -/
  | statement (path : List String) (key : String)
  /-- An item of a list; what stands before it is in reverse order. -/
  | item (before : List Value) (outer : Place)
  /-- The value of a key in a table between braces. -/
  | entry (table : Entries) (path : List String) (key : String) (outer : Place)

/-- The number of brackets and braces that are open. -/
def Place.depth : Place → Nat
  | .statement .. => 0
  | .item _ outer => outer.depth + 1
  | .entry _ _ _ outer => outer.depth + 1

/-- How deep values may be nested. -/
def maxDepth : Nat := 80

/-- What may come next. -/
inductive State where
  /-- A statement, or the end of an empty line. -/
  | line
  /-- The end of a line. -/
  | lineEnd
  /-- The second bracket that opens a header. -/
  | headerStart
  /-- The second bracket that closes a header. -/
  | headerEnd
  /-- More of the key of a header, whose tokens so far are in reverse order. -/
  | header (several : Bool) (key : List Token)
  /-- More of the key of a statement, whose tokens so far are in reverse order. -/
  | key (tokens : List Token)
  /-- A value. -/
  | value (place : Place)
  /-- An item of a list, or its end. -/
  | item (before : List Value) (place : Place)
  /-- A comma after an item, or the end of the list. -/
  | afterItem (items : List Value) (place : Place)
  /-- An entry of a table between braces, or its end. -/
  | entry (table : Entries) (place : Place)
  /-- More of the key of an entry, whose tokens so far are in reverse order. -/
  | entryKey (tokens : List Token) (table : Entries) (place : Place)
  /-- The equals sign of an entry, on a line after its key. -/
  | entryEquals (place : Place)
  /-- A comma after an entry, or the end of the table. -/
  | afterEntry (table : Entries) (place : Place)

/-- What has been read: the statements that are complete, in reverse order, and what may come
next. -/
structure Reader where
  statements : List Statement
  state : State

namespace Reader

/-- The reader before the first token. -/
def start : Reader :=
  ⟨[], .line⟩

/-- Goes on with another state. -/
def goTo (r : Reader) (state : State) : Reader :=
  { r with state }

/-- Puts a value into its place. -/
def fill? (r : Reader) (v : Value) : Place → Option Reader
  | .statement path key => some ⟨.assign path key v :: r.statements, .lineEnd⟩
  | .item before outer => some (r.goTo (.afterItem (v :: before) outer))
  | .entry table path key outer =>
    (Entries.assign path key v .inline table).map fun table => r.goTo (.afterEntry table outer)

/-- Begins a value with a token. -/
def startValue? (r : Reader) (p : Place) : Token → Option Reader
  | .bare s => (Value.ofBare? s).bind fun v => r.fill? v p
  | .line s | .lines s => r.fill? (.text s) p
  | .openBracket _ => if p.depth < maxDepth then some (r.goTo (.item [] p)) else none
  | .openBrace => if p.depth < maxDepth then some (r.goTo (.entry [] p)) else none
  | _ => none

/-- Reads one more token. -/
def feed? (r : Reader) (t : Token) : Option Reader :=
  match r.state, t with
  | .line, .newline => some r
  | .line, .openBracket doubled =>
    some (r.goTo (if doubled then .headerStart else .header false []))
  | .line, t => some (r.goTo (.key [t]))
  | .lineEnd, .newline => some (r.goTo .line)
  | .lineEnd, _ => none
  | .headerStart, .openBracket _ => some (r.goTo (.header true []))
  | .headerStart, _ => none
  | .headerEnd, .closeBracket _ => some (r.goTo .lineEnd)
  | .headerEnd, _ => none
  | .header false key, .closeBracket _ => do
    let (path, key) ← Key.ofTokens? key.reverse
    return ⟨.table path key :: r.statements, .lineEnd⟩
  | .header true key, .closeBracket true => do
    let (path, key) ← Key.ofTokens? key.reverse
    return ⟨.tables path key :: r.statements, .headerEnd⟩
  | .header several key, t => some (r.goTo (.header several (t :: key)))
  | .key tokens, .equals => do
    let (path, key) ← Key.ofTokens? tokens.reverse
    return r.goTo (.value (.statement path key))
  | .key tokens, t => some (r.goTo (.key (t :: tokens)))
  | .value (.entry table path key p), .newline =>
    some (r.goTo (.value (.entry table path key p)))
  | .value p, t => r.startValue? p t
  | .item before p, .newline => some (r.goTo (.item before p))
  | .item before p, .closeBracket _ => r.fill? (.list before.reverse) p
  | .item before p, t => r.startValue? (.item before p) t
  | .afterItem items p, .newline => some (r.goTo (.afterItem items p))
  | .afterItem items p, .comma => some (r.goTo (.item items p))
  | .afterItem items p, .closeBracket _ => r.fill? (.list items.reverse) p
  | .afterItem _ _, _ => none
  | .entry table p, .newline => some (r.goTo (.entry table p))
  | .entry table p, .closeBrace => r.fill? (.table .inline table) p
  | .entry table p, t => some (r.goTo (.entryKey [t] table p))
  | .entryKey tokens table p, .equals => do
    let (path, key) ← Key.ofTokens? tokens.reverse
    return r.goTo (.value (.entry table path key p))
  | .entryKey tokens table p, .newline => do
    let (path, key) ← Key.ofTokens? tokens.reverse
    return r.goTo (.entryEquals (.entry table path key p))
  | .entryKey tokens table p, t => some (r.goTo (.entryKey (t :: tokens) table p))
  | .entryEquals p, .newline => some (r.goTo (.entryEquals p))
  | .entryEquals p, .equals => some (r.goTo (.value p))
  | .entryEquals _, _ => none
  | .afterEntry table p, .newline => some (r.goTo (.afterEntry table p))
  | .afterEntry table p, .comma => some (r.goTo (.entry table p))
  | .afterEntry table p, .closeBrace => r.fill? (.table .inline table) p
  | .afterEntry _ _, _ => none

/-- Reads the end of the text, which ends a line as well. -/
def finish? (r : Reader) : Option (List Statement) :=
  match r.state with
  | .line | .lineEnd => some r.statements.reverse
  | _ => none

end Reader

/-- The statements of a text, if it is well formed.  A byte order mark may come first. -/
def statements? (text : String) : Option (List Statement) := do
  let cs :=
    match text.toList with
    | '\ufeff' :: cs => cs
    | cs => cs
  let ts ← tokens? (unifyLines cs)
  (← ts.foldlM Reader.feed? Reader.start).finish?

end SchemaGen.Toml
