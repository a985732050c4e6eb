import Mathlib.Data.List.Nodup
import SchemaGen.Proofs.SinkPasses

/-!
# Passes into memory

A store in memory takes every file, so what a pass leaves there is settled by the names of the
files alone: a file has what was written last under its name.  The name of a module tells the name
of its data transfer object, so objects whose names differ never replace each other's modules, and
their order is forgotten, since a store keeps its files in the order of their names.

* `MemoryStore.sink`, `MemoryStore.writeAll`: the store as a sink, and files written to it.
* `MemoryStore.get?_writeAll`, `MemoryStore.perm_writeAll`: what is in the store afterwards.
* `MemoryStore.Ascending.eq_of_perm`: a store is known by its files in any order.
* `Pass.keeps_modules`: what a pass leaves in memory, and what it reports.
-/

namespace SchemaGen

namespace MemoryStore

/-- The store as a sink, which takes every file. -/
def sink : Sink MemoryStore Empty where
  write name content store := (.ok (), store.write name content)

/-- Files written one after the other. -/
def writeAll (store : MemoryStore) (files : List (String × String)) : MemoryStore :=
  files.foldl (fun store file => store.write file.1 file.2) store

/-- The names of the files ascend, so there is one file of a name. -/
def Ascending (store : MemoryStore) : Prop :=
  (store.files.map Prod.fst).Pairwise (· < ·)

variable {store other : MemoryStore} {files : List (String × String)} {name content : String}

theorem accepts_writeAll (store : MemoryStore) (files : List (String × String)) :
    sink.Accepts store files (store.writeAll files) := by
  induction files generalizing store with
  | nil => exact .nil store
  | cons file files ih => exact .cons rfl (ih _)

/-- A file has what was written last under its name, or else what it had. -/
theorem get?_writeAll (store : MemoryStore) (files : List (String × String)) (name : String) :
    (store.writeAll files).get? name = (files.reverse.lookup name).or (store.get? name) := by
  induction files generalizing store with
  | nil => rfl
  | cons file files ih =>
    have hrest := ih (store.write file.1 file.2)
    rw [get?_write] at hrest
    rw [List.reverse_cons, List.lookup_append, List.lookup_cons, List.lookup_nil]
    refine hrest.trans ?_
    by_cases hname : name = file.1
    · simp [hname]
    · simp [hname, beq_false_of_ne hname]

theorem get?_writeAll_empty (files : List (String × String)) (name : String) :
    (empty.writeAll files).get? name = files.reverse.lookup name := by
  rw [get?_writeAll]
  exact Option.or_none

theorem ascending_empty : empty.Ascending :=
  List.Pairwise.nil

theorem Ascending.write (h : store.Ascending) (name content : String) :
    (store.write name content).Ascending :=
  Assoc.ascending_put (fun _ _ _ => String.lt_trans)
    (fun _ _ hlt hne => Std.lt_of_le_of_ne (String.not_lt.mp hlt) hne.symm) name content h

theorem Ascending.writeAll (h : store.Ascending) (files : List (String × String)) :
    (store.writeAll files).Ascending := by
  induction files generalizing store with
  | nil => exact h
  | cons file files ih => exact ih (h.write file.1 file.2)

theorem Ascending.nodup (h : store.Ascending) : (store.files.map Prod.fst).Nodup :=
  List.Pairwise.imp String.ne_of_lt h

/-- Stores with the same files are equal. -/
theorem Ascending.eq_of_perm (h : store.Ascending) (hother : other.Ascending)
    (hperm : store.files.Perm other.files) : store = other := by
  unfold Ascending at h hother
  rw [List.pairwise_map] at h hother
  have hfiles : store.files = other.files :=
    hperm.eq_of_pairwise
      (fun _ _ _ _ hlt hgt => absurd (String.lt_trans hlt hgt) (String.lt_irrefl _)) h hother
  cases store
  cases other
  exact congrArg MemoryStore.mk hfiles

/-- Files whose names differ are all there, and no others. -/
theorem perm_writeAll (hnames : (files.map Prod.fst).Nodup) :
    (empty.writeAll files).files.Perm files := by
  have hascending := ascending_empty.writeAll files
  have hreverse : (files.reverse.map Prod.fst).Nodup := by
    rw [List.map_reverse]
    exact List.nodup_reverse.mpr hnames
  refine (List.perm_ext_iff_of_nodup hascending.nodup.of_map hnames.of_map).mpr ?_
  intro ⟨name, content⟩
  rw [← Assoc.lookup_eq_some_iff_mem hascending.nodup, ← List.mem_reverse,
    ← Assoc.lookup_eq_some_iff_mem hreverse, ← get?_writeAll_empty]
  rfl

end MemoryStore

namespace Pass

open Run

variable {options : Options} {dtos : List Dto}

theorem outcome_memory (options : Options) (dtos : List Dto) :
    outcome MemoryStore.sink options dtos .empty =
      (.ok (reportOf options dtos), MemoryStore.empty.writeAll (dtos.map (moduleOf options))) :=
  outcome_of_accepts (MemoryStore.accepts_writeAll _ _)

/-- Of the data transfer objects with one name, the module of the last is kept. -/
theorem get?_writeAll_modules {file content : String} :
    (MemoryStore.empty.writeAll (dtos.map (moduleOf options))).get? file = some content ↔
      ∃ before dto after, dtos = before ++ dto :: after ∧
        (∀ later ∈ after, later.name ≠ dto.name) ∧ moduleOf options dto = (file, content) := by
  rw [MemoryStore.get?_writeAll_empty, Assoc.lookup_reverse_eq_some_iff]
  constructor
  · rintro ⟨front, back, hmodules, hback⟩
    obtain ⟨before, rest, rfl, -, hrest⟩ := List.map_eq_append_iff.mp hmodules
    obtain ⟨dto, after, rfl, hdto, rfl⟩ := List.map_eq_cons_iff.mp hrest
    refine ⟨before, dto, after, rfl, ?_, hdto⟩
    intro later hlater hname
    have hfile : (moduleOf options later).1 = (moduleOf options dto).1 :=
      moduleOf_fst_inj.mpr hname
    rw [hdto] at hfile
    exact hback _ (List.mem_map_of_mem hlater) hfile
  · rintro ⟨before, dto, after, rfl, hafter, hdto⟩
    refine ⟨before.map (moduleOf options), after.map (moduleOf options), ?_, ?_⟩
    · rw [List.map_append, List.map_cons, hdto]
    · intro e he heq
      obtain ⟨later, hlater, rfl⟩ := List.mem_map.mp he
      have hfile : (moduleOf options dto).1 = file := by rw [hdto]
      exact hafter later hlater (moduleOf_fst_inj.mp (heq.trans hfile.symm))

/-- A pass over the same data transfer objects in another order keeps the same modules. -/
theorem writeAll_eq_of_perm {other : List Dto} (hnames : (dtos.map Dto.name).Nodup)
    (hperm : dtos.Perm other) :
    MemoryStore.empty.writeAll (dtos.map (moduleOf options)) =
      MemoryStore.empty.writeAll (other.map (moduleOf options)) := by
  have hother : (other.map Dto.name).Nodup := (hperm.map Dto.name).nodup_iff.mp hnames
  have hfiles := MemoryStore.perm_writeAll (nodup_map_moduleOf options hnames)
  have hothers := MemoryStore.perm_writeAll (nodup_map_moduleOf options hother)
  exact (MemoryStore.ascending_empty.writeAll _).eq_of_perm
    (MemoryStore.ascending_empty.writeAll _)
    (hfiles.trans ((hperm.map (moduleOf options)).trans hothers.symm))

/-- A pass into an empty memory succeeds.  The memory then has a file for each name that occurs,
with the module of the last data transfer object of that name, while the report lists the file of
every object.  If the names differ, these are the modules of all objects, and a pass over the
objects in another order leaves the same memory, lists the files in that order and leaves out as
many fields. -/
theorem keeps_modules (options : Options) (dtos : List Dto) :
    ∃ report store, outcome MemoryStore.sink options dtos .empty = (.ok report, store) ∧
      report.files = dtos.map (fun dto => (Document.ofDto options dto).fileName) ∧
      store.Ascending ∧
      (∀ file content, store.get? file = some content ↔
        ∃ before dto after, dtos = before ++ dto :: after ∧
          (∀ later ∈ after, later.name ≠ dto.name) ∧
          file = (Document.ofDto options dto).fileName ∧
          content = (Document.ofDto options dto).content) ∧
      ((dtos.map Dto.name).Nodup →
        store.files.Perm (dtos.map (moduleOf options)) ∧
        (∀ dto ∈ dtos, store.get? (Document.ofDto options dto).fileName =
          some (Document.ofDto options dto).content) ∧
        ∀ other, dtos.Perm other →
          ∃ report', outcome MemoryStore.sink options other .empty = (.ok report', store) ∧
            report'.skippedFields = report.skippedFields ∧
            report'.files = other.map (fun dto => (Document.ofDto options dto).fileName) ∧
            report.files.Perm report'.files) := by
  have hascending := MemoryStore.ascending_empty.writeAll (dtos.map (moduleOf options))
  refine ⟨_, _, outcome_memory options dtos, rfl, hascending, ?_, ?_⟩
  · intro file content
    rw [get?_writeAll_modules]
    simp only [moduleOf, Prod.mk.injEq, eq_comm]
  · intro hnames
    have hfiles := MemoryStore.perm_writeAll (nodup_map_moduleOf options hnames)
    refine ⟨hfiles, ?_, ?_⟩
    · intro dto hdto
      exact (Assoc.lookup_eq_some_iff_mem hascending.nodup).mpr
        (hfiles.mem_iff.mpr (List.mem_map_of_mem hdto))
    · intro other hperm
      refine ⟨reportOf options other, ?_, ?_, rfl, hperm.map _⟩
      · rw [outcome_memory, writeAll_eq_of_perm hnames hperm]
      · exact (hperm.flatMap_right _).length_eq.symm

theorem keeps_modules_sample :
    ∃ store, (outcome MemoryStore.sink .standard [⟨"User", []⟩, ⟨"Tag", []⟩] .empty).2 = store ∧
      (outcome MemoryStore.sink .standard [⟨"Tag", []⟩, ⟨"User", []⟩] .empty).2 = store ∧
      store.files.length = 2 := by
  obtain ⟨report, store, hrun, -, -, -, hdistinct⟩ :=
    keeps_modules .standard [⟨"User", []⟩, ⟨"Tag", []⟩]
  obtain ⟨hfiles, -, hother⟩ := hdistinct (by decide)
  obtain ⟨report', hswapped, -⟩ := hother [⟨"Tag", []⟩, ⟨"User", []⟩] (.swap ..)
  exact ⟨store, by rw [hrun], by rw [hswapped], hfiles.length_eq⟩

end Pass

end SchemaGen
