import Mathlib.Data.Set.Card
import SchemaGen.Proofs.ByteOrder
import SchemaGen.Proofs.LinkedModules
import SchemaGen.Proofs.MappedFields

/-!
# Sets of imports and their histories

A set of imports is filled step by step: one import is inserted, or several, or the set is
collected from a list and forgets what it had.  At any time its members are those that have been
inserted since it was last collected, each once, in the order of their bytes.  So neither the order
in which they were inserted nor how often makes a difference to the statements, and modules that
begin with `../` come before those that begin with `./`.

* `Import.BytesBefore`: the order of imports by their bytes.
* `ImportSet.Step`, `ImportSet.after`: histories of a set.
* `ImportSet.Inserted`: what has been inserted and not been forgotten.
* `ImportSet.mem_after`: the members of a set are what has been inserted.
* `ImportSet.exists_split`: a set is split at any module.
* `ImportSet.keeps_inserted`: sets of imports after any history.
* `Document.shared_before_siblings`: the imports of a document, shared validators first.
-/

namespace SchemaGen

open Text

/-! ## The order of imports -/

/-- The bytes of the module come before those of the other, or the modules are the same and the
bytes of the symbol come before those of the other. -/
def Import.BytesBefore (a b : Import) : Prop :=
  bytes a.module < bytes b.module ∨
    bytes a.module = bytes b.module ∧ bytes a.symbol < bytes b.symbol

theorem Import.bytesBefore_iff {a b : Import} : a.BytesBefore b ↔ a.Before b := by
  rw [BytesBefore, Before, bytes_lt_iff, bytes_lt_iff, bytes_inj]

namespace Text

variable {text : String}

/-- No text comes before what it begins with. -/
theorem not_lt_of_prefix {start : String} (h : start.toList <+: text.toList) : ¬ text < start := by
  rw [String.lt_iff]
  exact h.le

/-- A text that begins with `../` comes before `./` and all that begins with it. -/
theorem lt_of_up_prefix (h : "../".toList <+: text.toList) : text < "./" := by
  obtain ⟨rest, hrest⟩ := h
  rw [String.lt_iff, ← hrest]
  -- The two differ at their second characters.
  exact List.Lex.cons (List.Lex.rel (by decide))

end Text

namespace ImportSet

/-! ## Histories -/

/-- A step that changes a set of imports. -/
inductive Step where
  /-- One import is inserted. -/
  | insert (i : Import)
  /-- Several imports are inserted. -/
  | extend (is : List Import)
  /-- The set is collected from a list, and what it had is forgotten. -/
  | collect (is : List Import)
  deriving DecidableEq, Repr

namespace Step

/-- What the step inserts. -/
def imports : Step → List Import
  | .insert i => [i]
  | .extend is | .collect is => is

/-- Whether the step collects the set. -/
def isCollect : Step → Bool
  | .insert _ | .extend _ => false
  | .collect _ => true

/-- The set after the step. -/
def apply (s : ImportSet) : Step → ImportSet
  | .insert i => (s.add i).2
  | .extend is => s.insertAll is
  | .collect is => ofList is

/-- A step adds what it inserts, and keeps what the set had unless it collects it. -/
theorem mem_apply {step : Step} {s : ImportSet} {i : Import} :
    i ∈ step.apply s ↔ i ∈ step.imports ∨ step.isCollect = false ∧ i ∈ s := by
  cases step with
  | insert j => simp [apply, imports, isCollect]
  | extend is => simp [apply, imports, isCollect, mem_insertAll, or_comm]
  | collect is => simp [apply, imports, isCollect, mem_ofList]

end Step

/-- The set after a history that began without imports. -/
def after (steps : List Step) : ImportSet :=
  steps.foldl Step.apply empty

/-- A step of the history inserts the import, and no later one collects the set. -/
def Inserted (steps : List Step) (i : Import) : Prop :=
  ∃ earlier step later, steps = earlier ++ step :: later ∧ i ∈ step.imports ∧
    ∀ next ∈ later, next.isCollect = false

variable {steps other : List Step} {step : Step} {i : Import}

theorem not_inserted_nil : ¬ Inserted [] i := by
  rintro ⟨earlier, step, later, hsteps, -⟩
  exact List.append_ne_nil_of_right_ne_nil earlier (List.cons_ne_nil step later) hsteps.symm

/-- What one more step changes: what it inserts is inserted, and the rest only if it does not
collect the set. -/
theorem inserted_concat : Inserted (steps ++ [step]) i ↔
    i ∈ step.imports ∨ step.isCollect = false ∧ Inserted steps i := by
  constructor
  · rintro ⟨earlier, found, later, hsteps, hmem, hlater⟩
    rcases List.eq_nil_or_concat later with rfl | ⟨later, last, rfl⟩
    · obtain ⟨-, rfl⟩ := List.append_singleton_inj.mp hsteps
      exact .inl hmem
    · rw [List.concat_eq_append] at hsteps hlater
      rw [← List.cons_append, ← List.append_assoc] at hsteps
      obtain ⟨rfl, rfl⟩ := List.append_singleton_inj.mp hsteps
      exact .inr ⟨hlater step (by simp), earlier, found, later, rfl, hmem,
        fun next hnext => hlater next (List.mem_append_left _ hnext)⟩
  · rintro (hmem | ⟨hkeeps, earlier, found, later, rfl, hmem, hlater⟩)
    · exact ⟨steps, step, [], rfl, hmem, fun _ hnext => absurd hnext List.not_mem_nil⟩
    · refine ⟨earlier, found, later ++ [step], ?_, hmem, fun next hnext => ?_⟩
      · rw [List.append_assoc, List.cons_append]
      · rcases List.mem_append.mp hnext with hnext | hnext
        · exact hlater next hnext
        · rw [List.mem_singleton.mp hnext]
          exact hkeeps

/-- The members of a set are what has been inserted since it was last collected. -/
theorem mem_after : i ∈ after steps ↔ Inserted steps i := by
  induction steps using List.reverseRecOn with
  | nil => exact iff_of_false List.not_mem_nil not_inserted_nil
  | append_singleton steps step ih =>
    have hstep : after (steps ++ [step]) = step.apply (after steps) := List.foldl_concat ..
    rw [hstep, Step.mem_apply, inserted_concat, ih]

/-- Histories that insert the same imports leave the same set. -/
theorem after_eq_of_inserted_iff (h : ∀ i, Inserted other i ↔ Inserted steps i) :
    after other = after steps := by
  refine ext_mem fun i => ?_
  rw [mem_after, mem_after, h i]

/-! ## Members -/

theorem size_eq_ncard (s : ImportSet) : s.size = {i | i ∈ s}.ncard := by
  have hmembers : {i | i ∈ s} = (s.toList.toFinset : Set Import) := by
    ext i
    rw [Finset.mem_coe, List.mem_toFinset]
    rfl
  rw [hmembers, Set.ncard_coe_finset, List.toFinset_card_of_nodup s.nodup, size]

/-- An ascending list is split at any module: those that come before it are in front. -/
theorem exists_split_list {l : List Import} (h : l.Pairwise Import.Before) (module : String) :
    ∃ front back, l = front ++ back ∧ (∀ i ∈ front, i.module < module) ∧
      ∀ i ∈ back, ¬ i.module < module := by
  induction l with
  | nil => exact ⟨[], [], rfl, by simp, by simp⟩
  | cons first l ih =>
    obtain ⟨hfirst, hl⟩ := List.pairwise_cons.mp h
    by_cases hlt : first.module < module
    · obtain ⟨front, back, rfl, hfront, hback⟩ := ih hl
      exact ⟨first :: front, back, rfl, List.forall_mem_cons.mpr ⟨hlt, hfront⟩, hback⟩
    · refine ⟨[], first :: l, rfl, by simp, List.forall_mem_cons.mpr ⟨hlt, fun i hi hi' => ?_⟩⟩
      rcases hfirst i hi with hbefore | ⟨hsame, -⟩
      · exact hlt (String.lt_trans hbefore hi')
      · exact hlt (hsame ▸ hi')

theorem exists_split (s : ImportSet) (module : String) :
    ∃ front back, s.toList = front ++ back ∧ (∀ i ∈ front, i.module < module) ∧
      ∀ i ∈ back, ¬ i.module < module :=
  exists_split_list s.ascending module

theorem render_of_split {s : ImportSet} {front back : List Import}
    (h : s.toList = front ++ back) : s.render =
      unlines (front.map Import.statement) ++ unlines (back.map Import.statement) := by
  rw [render, statements, h, List.map_append, unlines_append]

/-! ## The law -/

/-- A set of imports after any history.  Its members ascend by the bytes of their modules, then by
those of their symbols, and are those imports that have been inserted since the set was last
collected.  Its size is their number; looking for an import finds it iff it is one of them, and
inserting it answers that it is new iff it is none.  Its text is the lines of their statements in
this order, so histories that insert the same imports have the same text, in whatever order and
however often they insert them.  If the module of the shared validators begins with `../`, then the
text is in two parts: the first has no statement of a module that begins with `./`, and the second
has none of the shared validators. -/
theorem keeps_inserted (steps : List Step) :
    (after steps).toList.Pairwise Import.BytesBefore ∧
    (∀ i, i ∈ (after steps).toList ↔ Inserted steps i) ∧
    (after steps).size = {i | Inserted steps i}.ncard ∧
    (∀ i, ((after steps).contains i = true ↔ Inserted steps i) ∧
      (((after steps).add i).1 = true ↔ ¬ Inserted steps i)) ∧
    (after steps).render =
      String.join ((after steps).toList.map fun i => i.statement ++ "\n") ∧
    (∀ other, (∀ i, Inserted other i ↔ Inserted steps i) →
      (after other).render = (after steps).render) ∧
    ∀ helpers : String, "../".toList <+: helpers.toList →
      ∃ front back, (after steps).toList = front ++ back ∧
        (after steps).render =
          unlines (front.map Import.statement) ++ unlines (back.map Import.statement) ∧
        (∀ i ∈ front, ¬ "./".toList <+: i.module.toList) ∧
        ∀ i ∈ back, i.module ≠ helpers := by
  refine ⟨?_, fun i => mem_after, ?_, fun i => ⟨?_, ?_⟩, ?_, fun other h => ?_,
    fun helpers hhelpers => ?_⟩
  · exact (after steps).ascending.imp Import.bytesBefore_iff.mpr
  · rw [size_eq_ncard]
    simp only [mem_after]
  · rw [contains_iff, mem_after]
  · rw [add_fst_iff, mem_after]
  · rw [render, unlines, statements, List.map_map]
    rfl
  · rw [after_eq_of_inserted_iff h]
  · obtain ⟨front, back, hsplit, hfront, hback⟩ := (after steps).exists_split "./"
    refine ⟨front, back, hsplit, render_of_split hsplit, fun i hi hsibling => ?_,
      fun i hi hmodule => ?_⟩
    · exact not_lt_of_prefix hsibling (hfront i hi)
    · exact hback i hi (hmodule ▸ lt_of_up_prefix hhelpers)

/-- A history that collects the set once, and inserts one import twice. -/
def sampleHistory : List Step :=
  [.insert (.sibling "OldSchema"), .collect [.sibling "TagSchema"],
    .insert ⟨"zDayOfWeek", "../zod-mods"⟩, .extend [.sibling "AddressSchema", .sibling "TagSchema"]]

/-- A history that inserts the same imports in another order, each once. -/
def sampleReordered : List Step :=
  [.extend [.sibling "AddressSchema", ⟨"zDayOfWeek", "../zod-mods"⟩], .insert (.sibling "TagSchema")]

theorem keeps_inserted_sample :
    ¬ Inserted sampleHistory (.sibling "OldSchema") ∧
      {i | Inserted sampleHistory i}.ncard = 3 ∧
      (after sampleReordered).render = (after sampleHistory).render ∧
      "../".toList <+: "../zod-mods".toList ∧
      ∃ front back, (after sampleHistory).toList = front ++ back ∧
        (after sampleHistory).render =
          unlines (front.map Import.statement) ++ unlines (back.map Import.statement) ∧
        (∀ i ∈ front, ¬ "./".toList <+: i.module.toList) ∧
        ∀ i ∈ back, i.module ≠ "../zod-mods" := by
  obtain ⟨-, hmem, hsize, -, -, hsame, hsplit⟩ := keeps_inserted sampleHistory
  have hsets : after sampleReordered = after sampleHistory := by decide +kernel
  have hhelpers : "../".toList <+: "../zod-mods".toList := by decide
  refine ⟨?_, ?_, hsame sampleReordered fun i => ?_, hhelpers, hsplit _ hhelpers⟩
  · rw [← hmem]
    decide +kernel
  · rw [← hsize]
    decide +kernel
  · rw [← mem_after, ← mem_after, hsets]

end ImportSet

/-! ## Documents -/

namespace Document

/-- The text before the properties has the statements of the imports behind that of the validation
library. -/
theorem opening_eq (doc : Document) : doc.opening =
    unlines [Import.statement ⟨coreValidator, doc.library⟩] ++ doc.imports.render ++
      unlines ["export const " ++ doc.schema ++ " = z.object(\x7b"] := by
  rw [ImportSet.render, ← unlines_append, ← unlines_append]
  rfl

/-- If the module of the shared validators begins with `../`, then a document imports its shared
validators before the schemas of other types. -/
theorem shared_before_siblings {options : Options}
    (h : "../".toList <+: options.helpersModule.toList) (dto : Dto) :
    ∃ shared siblings : List Import,
      (ofDto options dto).opening =
        unlines [Import.statement ⟨coreValidator, options.library⟩] ++
          (unlines (shared.map Import.statement) ++ unlines (siblings.map Import.statement)) ++
          unlines ["export const " ++ options.schemaName dto.name ++ " = z.object(\x7b"] ∧
      (∀ i, i ∈ shared ↔ ImportsShared options dto i) ∧
      ∀ i, i ∈ siblings ↔ ∃ type, HasLeaf options dto (.reference type) ∧ type ≠ dto.name ∧
        i = .sibling (options.schemaName type) := by
  obtain ⟨front, back, hsplit, hfront, hback⟩ := (ofDto options dto).imports.exists_split "./"
  have hmem : ∀ i, i ∈ front ∨ i ∈ back ↔ ImportsShared options dto i ∨
      ∃ type, HasLeaf options dto (.reference type) ∧ type ≠ dto.name ∧
        i = .sibling (options.schemaName type) := by
    intro i
    rw [← mem_imports_iff_shared_or_sibling, ← List.mem_append, ← hsplit]
    rfl
  have hshared : ∀ i, ImportsShared options dto i → i.module < "./" := by
    intro i hi
    rw [hi.symbol_module.2]
    exact lt_of_up_prefix h
  have hsibling : ∀ schema, ¬ (Import.sibling schema).module < "./" := by
    intro schema
    refine not_lt_of_prefix ⟨schema.toList, ?_⟩
    exact String.toList_append.symm
  refine ⟨front, back, ?_, fun i => ⟨fun hi => ?_, fun hi => ?_⟩, fun i => ⟨fun hi => ?_, ?_⟩⟩
  · rw [opening_eq, ImportSet.render_of_split hsplit]
    rfl
  · rcases (hmem i).mp (.inl hi) with hi' | ⟨type, -, -, rfl⟩
    · exact hi'
    · exact absurd (hfront _ hi) (hsibling _)
  · exact ((hmem i).mpr (.inl hi)).resolve_right fun hi' => hback i hi' (hshared i hi)
  · exact ((hmem i).mp (.inr hi)).resolve_left fun hi' => hback i hi (hshared i hi')
  · rintro ⟨type, hleaf, hne, rfl⟩
    exact ((hmem _).mpr (.inr ⟨type, hleaf, hne, rfl⟩)).resolve_left
      fun hi => hsibling _ (hfront _ hi)

end Document

end SchemaGen
