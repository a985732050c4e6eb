import SchemaGen.Toml.Document

/-!
# Reading values of a wanted kind

A reader gives what a value stands for, if it is of the wanted kind.

* `Value.toText?`, `Value.toBool?`, `Value.toList?`: the readers of single values.
* `Value.toRecord?`: a record, which is written as a table, or as the list of its first values in
  the order of their declaration.
* `Value.isReadable`: what is asked of a value that nobody wants.
-/

namespace SchemaGen.Toml

mutual

/-- Whether a value that nobody wants can be read: its numbers are not too large, whole numbers
having 128 bits. -/
def Value.isReadable : Value → Bool
  | .text _ | .bool _ | .moment => true
  | .integer n => -Int.ofNat (Nat.pow 2 127) ≤ n && n < Int.ofNat (Nat.pow 2 128)
  | .float fits => fits
  | .list items | .tables items => areReadable items
  | .table _ entries => entriesAreReadable entries

/-- Whether all items of a list can be read. -/
def areReadable : List Value → Bool
  | [] => true
  | v :: vs => v.isReadable && areReadable vs

/-- Whether all entries of a table can be read. -/
def entriesAreReadable : List (String × Value) → Bool
  | [] => true
  | (_, v) :: entries => v.isReadable && entriesAreReadable entries

end

namespace Value

/-- A text. -/
def toText? : Value → Option String
  | .text s => some s
  | _ => none

/-- A truth value. -/
def toBool? : Value → Option Bool
  | .bool b => some b
  | _ => none

/-- A list, each of whose items is read the same way. -/
def toList? {α : Type} (read : Value → Option α) : Value → Option (List α)
  | .list items | .tables items => items.mapM read
  | _ => none

/-- Reads the entries of a table one after the other into what is known of the record. -/
def ofEntries? {σ : Type} (step : σ → String → Value → Option σ) (start : σ) (t : Entries) :
    Option σ :=
  t.foldlM (fun known (key, v) => step known key v) start

/-- A record: a table, whose unknown entries only have to be readable, or the list of its values.
`step` reads one entry; `fields` are the names of the entries in the order of their declaration,
and values after the last are not looked at. -/
def toRecord? {σ : Type} (fields : List String) (step : σ → String → Value → Option σ)
    (start : σ) : Value → Option σ
  | .table _ t =>
    ofEntries? (fun known key v =>
      if key ∈ fields then step known key v else if v.isReadable then some known else none) start t
  | .list items | .tables items => ofEntries? step start (fields.zip items)
  | _ => none

end Value

/-- Reads a text as a record. -/
def decode? {α : Type} (read : Value → Option α) (text : String) : Option α := do
  read (.table .header (← Document.ofText? text))

end SchemaGen.Toml
