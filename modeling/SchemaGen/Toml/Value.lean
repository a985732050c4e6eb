/-!
# Values and tables

The values that a document can hold, and the rules by which a table grows while the document is
read.  A table is made in one of four ways, and how it was made decides what may still be added
to it:

| made by                                          | may be extended by                       |
|--------------------------------------------------|------------------------------------------|
| braces                                           | nothing                                  |
| its own header                                   | headers below it                         |
| a header below it                                | headers below it, its own header, longer keys |
| a key with several names                         | headers below it, keys with several names |

* `Entries.descend`: changes the table at the end of a path, making the tables on the way.
* `Entries.assign`: gives a key a value.
* `Entries.openTable`, `Entries.openTables`: what a header does.
-/

namespace SchemaGen.Toml

/-- How a table was made. -/
inductive TableKind where
  /-- By braces. -/
  | inline
  /-- By its own header, or as the whole document. -/
  | header
  /-- By a header below it. -/
  | passed
  /-- By a key with several names. -/
  | dotted
  deriving DecidableEq, Repr

/-- A value. -/
inductive Value where
  | text (s : String)
  | bool (b : Bool)
  | integer (n : Int)
  /-- A floating point number, and whether it is small enough to be one. -/
  | float (fits : Bool)
  | moment
  /-- A list between brackets. -/
  | list (items : List Value)
  /-- The tables that were opened by the same header. -/
  | tables (items : List Value)
  | table (kind : TableKind) (entries : List (String × Value))

/-- The entries of a table, in no particular order. -/
abbrev Entries := List (String × Value)

namespace Entries

/-- The value of a key. -/
def get? (t : Entries) (key : String) : Option Value :=
  t.lookup key

/-- Sets the value of a key. -/
def set (key : String) (v : Value) : Entries → Entries
  | [] => [(key, v)]
  | (k, w) :: rest => if key = k then (key, v) :: rest else (k, w) :: set key v rest

/-- A change of a table, which may not be allowed there. -/
abbrev Change := TableKind → Entries → Option Entries

/-- Changes the table at the end of a path.  Tables that are missing on the way are made; of
tables opened by one header the last is meant.  Nothing can be added to a table between braces,
and a key with several names does not reach into a table that has a header of its own. -/
def descend (dotted : Bool) (change : Change) : List String → Change
  | [], kind, t => change kind t
  | key :: path, _, t =>
    match t.get? key with
    | none =>
      let kind := if dotted then .dotted else .passed
      (descend dotted change path kind []).map fun inner => t.set key (.table kind inner)
    | some (.table kind inner) =>
      if kind = .inline || (dotted && kind = .header) then none
      else (descend dotted change path kind inner).map fun inner => t.set key (.table kind inner)
    | some (.tables items) =>
      match items.getLast? with
      | some (.table kind inner) =>
        (descend dotted change path kind inner).map fun inner =>
          t.set key (.tables (items.dropLast ++ [.table kind inner]))
      | _ => none
    | some _ => none

/-- Gives a key a value in the table that the names before it lead to.  Keys with several names
meet only in tables that they made. -/
def assign (path : List String) (key : String) (v : Value) : Change :=
  descend (!path.isEmpty)
    (fun kind t =>
      if decide (kind = .dotted) = path.isEmpty then none
      else
        match t.get? key with
        | some _ => none
        | none => some (t.set key v))
    path

/-- Opens a table by its header: the table is new, or has only been passed so far. -/
def openTable (path : List String) (key : String) : Change :=
  descend false
    (fun _ t =>
      match t.get? key with
      | none => some (t.set key (.table .header []))
      | some (.table .passed inner) => some (t.set key (.table .header inner))
      | some _ => none)
    path

/-- Opens one more table by a header that may come several times. -/
def openTables (path : List String) (key : String) : Change :=
  descend false
    (fun _ t =>
      match t.get? key with
      | none => some (t.set key (.tables [.table .header []]))
      | some (.tables items) => some (t.set key (.tables (items ++ [.table .header []])))
      | some _ => none)
    path

end Entries

end SchemaGen.Toml
