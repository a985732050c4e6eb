import SchemaGen.Toml.Statement

/-!
# Documents

The statements of a document fill one table.  A header names the table that the keys after it
belong to.

* `Document.add?`: the effect of one statement.
* `Document.ofText?`: the table that a text fills.
-/

namespace SchemaGen.Toml

/-- A document as far as it has been read. -/
structure Document where
  /-- The whole table. -/
  entries : Entries
  /-- The path of the table whose header came last. -/
  current : List String

namespace Document

/-- The document without statements. -/
def empty : Document :=
  ⟨[], []⟩

/-- The effect of one statement, if it is allowed after those before it. -/
def add? (d : Document) : Statement → Option Document
  | .assign path key v =>
    (Entries.descend false (Entries.assign path key v) d.current .header d.entries).map fun t =>
      { d with entries := t }
  | .table path key =>
    (Entries.openTable path key .header d.entries).map fun t => ⟨t, path ++ [key]⟩
  | .tables path key =>
    (Entries.openTables path key .header d.entries).map fun t => ⟨t, path ++ [key]⟩

/-- The table that a text fills, if the text is well formed and no statement contradicts
another. -/
def ofText? (text : String) : Option Entries := do
  return (← (← statements? text).foldlM add? empty).entries

end Document

end SchemaGen.Toml
