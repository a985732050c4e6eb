import SchemaGen.Json.Node

/-!
# Reading values of a wanted kind

A reader takes the tree of a value and gives what it stands for, or the first fault.  A value of
another kind is refused as soon as it begins, so what is inside it is not looked at.

* `Node.toText`, `Node.toBool`, `Node.toOption`, `Node.toList`: the readers of single values.
* `Row`: a record written as a list, whose items are taken one by one.
* `readMembers`: a record written as an object, whose members come in any order.
* `Node.decode`: reads a whole text.
-/

namespace SchemaGen.Json

open Text

/-- How a number that breaks off is refused where a value is wanted. -/
def NumeralFault.error : NumeralFault → Error
  | .endOfInput => .endInValue
  | .malformed => .invalidNumber

namespace Node

/-- What a value of an unwanted kind is called in the message.  The value has to be read as far
as the message shows it. -/
def shown : Node → Except Error String
  | .null => .ok "null"
  | .bool b => .ok ("boolean \x60" ++ (if b then "true" else "false") ++ "\x60")
  | .number n =>
    match n.value? with
    | some v => .ok v.shown
    | none => .error .numberOutOfRange
  | .brokenNumber f => .error f.error
  | .text l => l.decode.map fun s => "string " ++ Shown.quote s
  | .list .. => .ok "sequence"
  | .object .. => .ok "map"
  | .broken e => .error e

/-- Refuses a value of an unwanted kind. -/
def refuse {α : Type} (expected : String) (n : Node) : Except Error α :=
  n.shown.bind fun found => .error (.wrongKind found expected)

/-- A text. -/
def toText : Node → Except Error String
  | .text l => l.decode
  | n => n.refuse "a string"

/-- A truth value. -/
def toBool : Node → Except Error Bool
  | .bool b => .ok b
  | n => n.refuse "a boolean"

/-- A value that may be null. -/
def toOption {α : Type} (read : Node → Except Error α) : Node → Except Error (Option α)
  | .null => .ok none
  | n => (read n).map some

end Node

/-- The fault at the end of a list that is read. -/
def ListEnd.check : ListEnd → Except Error Unit
  | .closed => .ok ()
  | .endOfInput => .error .endInList
  | .noComma => .error .expectedListComma
  | .trailingComma => .error .trailingComma

/-- A list, each of whose items is read the same way. -/
def Node.toList {α : Type} (read : Node → Except Error α) : Node → Except Error (List α)
  | .list items stop => do
    let xs ← items.mapM read
    stop.check
    return xs
  | n => n.refuse "a sequence"

/-! ## Records written as lists -/

/-- The items of a list that have not been taken yet. -/
structure Row where
  items : List Node
  stop : ListEnd

namespace Row

/-- Takes the next item, if there is one. -/
def take (r : Row) : Except Error (Option Node × Row) :=
  match r.items with
  | item :: items => .ok (some item, { r with items })
  | [] => r.stop.check.map fun _ => (none, r)

/-- Takes an item that has to be there; `missing` is the error if it is not. -/
def required {α : Type} (missing : Error) (read : Node → Except Error α) (r : Row) :
    Except Error (α × Row) := do
  match ← r.take with
  | (some item, r) => return (← read item, r)
  | (none, _) => throw missing

/-- Takes an item that may be left out. -/
def defaulted {α : Type} (default : α) (read : Node → Except Error α) (r : Row) :
    Except Error (α × Row) := do
  match ← r.take with
  | (some item, r) => return (← read item, r)
  | (none, r) => return (default, r)

/-- Ends the record: nothing but the end of the list may follow the last item. -/
def finish (r : Row) : Except Error Unit :=
  match r.items, r.stop with
  | _ :: _, _ | [], .noComma => .error .trailingCharacters
  | [], stop => stop.check

end Row

/-! ## Records written as objects -/

/-- The fault at the end of an object that is read. -/
def ObjectEnd.check : ObjectEnd → Except Error Unit
  | .closed => .ok ()
  | .endOfInput => .error .endInObject
  | .endAfterComma => .error .endInValue
  | .noComma => .error .expectedObjectComma
  | .trailingComma => .error .trailingComma
  | .noKey => .error .keyNotText
  | .brokenKey key => key.decode.bind fun _ => .error .keyNotText

/-- Reads the members of an object one after the other into what is known of the record so
far. -/
def readMembers {σ : Type} (step : σ → String → Node → Except Error σ) (start : σ)
    (members : List (Literal × Node)) (stop : ObjectEnd) : Except Error σ := do
  let known ← members.foldlM (fun known (key, value) => do step known (← key.decode) value) start
  stop.check
  return known

/-- Reads the value of a field that must not have one yet. -/
def once {α : Type} (field : String) (known : Option α) (value : Except Error α) :
    Except Error (Option α) :=
  match known with
  | some _ => .error (.duplicateField field)
  | none => value.map some

/-- The value of a field that has to be there. -/
def present {α : Type} (field : String) : Option α → Except Error α
  | some a => .ok a
  | none => .error (.missingField field)

/-! ## Whole texts -/

/-- Reads a text that holds one value and nothing else. -/
def decode {α : Type} (read : Node → Except Error α) (text : String) : Except Error α := do
  let value ← read (Node.ofText text).1
  if (Node.ofText text).2 then throw .trailingCharacters
  return value

end SchemaGen.Json
