import SchemaGen.Assoc
import SchemaGen.Document

/-!
# Generation passes

A pass hands the document of each data transfer object to a sink, in order, and stops at the
first that the sink refuses.  A sink is any way to write a named file: the pass runs in whatever
monad the sink writes in, and asks of it only that events can be reported there.

* `Pass.run`: the pass.
* `MemoryStore`: a sink that keeps the files as values.
-/

namespace SchemaGen

/-- What a pass has done. -/
structure PassReport where
  /-- The files that were written, in order. -/
  files : List String
  /-- The number of fields that were left out. -/
  skippedFields : Nat
  deriving DecidableEq, Repr

namespace Pass

variable {ε : Type} {m : Type → Type} [Monad m] [MonadReport m]

/-- Hands one document to the sink. -/
def step (write : String → String → ExceptT ε m Unit) (options : Options) (done : PassReport)
    (dto : Dto) : ExceptT ε m PassReport := do
  let doc := Document.ofDto options dto
  doc.events.forM report
  write doc.fileName doc.content
  report (.documentStored doc.dto doc.fileName)
  return ⟨done.files ++ [doc.fileName], done.skippedFields + doc.skipped.length⟩

/-- Hands the document of every data transfer object to the sink. -/
def run (write : String → String → ExceptT ε m Unit) (options : Options) (dtos : List Dto) :
    ExceptT ε m PassReport := do
  let done ← dtos.foldlM (step write options) ⟨[], 0⟩
  report (.passCompleted done.files.length done.skippedFields)
  return done

end Pass

/-- Files kept as values, in ascending order of their names. -/
structure MemoryStore where
  /-- The files with their contents. -/
  files : List (String × String)
  deriving DecidableEq, Repr

namespace MemoryStore

/-- The store without files. -/
def empty : MemoryStore :=
  ⟨[]⟩

/-- Stores a file in place of any other of its name. -/
def write (store : MemoryStore) (name content : String) : MemoryStore :=
  ⟨Assoc.put name content store.files⟩

/-- The content of a file. -/
def get? (store : MemoryStore) (name : String) : Option String :=
  store.files.lookup name

/-- The file that was written last is found, and no other has changed. -/
@[simp] theorem get?_write (store : MemoryStore) (name content other : String) :
    (store.write name content).get? other =
      if other = name then some content else store.get? other :=
  Assoc.lookup_put name other content store.files

end MemoryStore

end SchemaGen
