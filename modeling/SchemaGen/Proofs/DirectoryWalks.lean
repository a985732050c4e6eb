import Mathlib.Data.List.Sort
import SchemaGen.Exclusion.Visibility
import SchemaGen.Proofs.DirectoryTrees

/-!
# Walks through directory trees

A walk goes through a directory depth first.  It takes what a directory holds by name, skips some
entries, and goes into the other directories before it goes on.  It never compares two entries of
different directories, and yet it passes all entries in the order of their locations, also where the
name of a directory is the beginning of the name of a file.  And it asks about each entry only once,
when it comes to it, but passes by everything below what it has skipped.

* `FileSystem.children`, with `mem_children` and `IsTree.pairwise_children`: what a directory holds.
* `FileSystem.walk`, with `mem_walk` and `pairwise_walk`: the walk.
* `FileSystem.walk_eq_filter_below`: it passes the entries that it reaches, in their order.
* `Walker.PassesAll`: a walker that leaves nothing out.
* `Exclusion.walk_walker`: what the walker that goes by the rules yields.
* `Exclusion.NoRuleExcludes`, with `NoRuleExcludes.passesAll`: where this walker leaves nothing out.
-/

namespace SchemaGen

namespace FileSystem

variable {fs : FileSystem}

/-! ## Locations in order -/

/-- Locations in one directory come in the order of what leads there from it. -/
theorem append_lt_append_iff (l : Location) {names names' : Location} :
    l ++ names < l ++ names' ↔ names < names' := by
  induction l with
  | nil => rfl
  | cons name l ih =>
    rw [List.cons_append, List.cons_append, List.cons_lt_cons_iff, ih]
    simp

/-- What is below a location comes in the order of the names that lead there. -/
theorem IsTree.pairwise_below (h : fs.IsTree) (l : Location) :
    (fs.below l).Pairwise fun a b => a.1 < b.1 := by
  unfold below
  rw [List.pairwise_filterMap]
  refine (List.pairwise_map.mp h.ascending).imp fun {e e'} hlt b hb b' hb' => ?_
  obtain ⟨-, hlocation, -⟩ := ite_below_eq_some.mp hb
  obtain ⟨-, hlocation', -⟩ := ite_below_eq_some.mp hb'
  rwa [hlocation, hlocation', append_lt_append_iff] at hlt

/-! ## What a directory holds -/

/-- What a directory holds, by name. -/
def children (fs : FileSystem) (directory : Location) : List (String × Entry) :=
  (fs.entries.filterMap fun (l, e) =>
    if l.dropLast = directory then l.getLast?.map (·, e) else none).mergeSort
      fun a b => a.1 ≤ b.1

theorem ite_child_eq_some {l directory : Location} {e : Entry} {child : String × Entry} :
    (if l.dropLast = directory then l.getLast?.map (·, e) else none) = some child ↔
      l = directory ++ [child.1] ∧ e = child.2 := by
  rw [Option.ite_none_right_eq_some]
  constructor
  · rintro ⟨rfl, h⟩
    obtain ⟨name, hname, rfl⟩ := Option.map_eq_some_iff.mp h
    exact ⟨(List.dropLast_append_getLast? name hname).symm, rfl⟩
  · rintro ⟨rfl, rfl⟩
    simp

theorem mem_children {directory : Location} {name : String} {e : Entry} :
    (name, e) ∈ fs.children directory ↔ (directory ++ [name], e) ∈ fs.entries := by
  unfold children
  rw [List.mem_mergeSort, List.mem_filterMap]
  constructor
  · rintro ⟨⟨l, e'⟩, hmem, hchild⟩
    obtain ⟨rfl, rfl⟩ := ite_child_eq_some.mp hchild
    exact hmem
  · intro hmem
    exact ⟨_, hmem, ite_child_eq_some.mpr ⟨rfl, rfl⟩⟩

/-- In a tree, no two entries of a directory have the same name. -/
theorem IsTree.pairwise_children (h : fs.IsTree) (directory : Location) :
    (fs.children directory).Pairwise fun a b => a.1 < b.1 := by
  have hpairwise : (fs.entries.filterMap fun (l, e) =>
      if l.dropLast = directory then l.getLast?.map (·, e) else none).Pairwise
        fun a b => a.1 < b.1 := by
    rw [List.pairwise_filterMap]
    refine (List.pairwise_map.mp h.ascending).imp fun {e e'} hlt b hb b' hb' => ?_
    obtain ⟨hl, -⟩ := ite_child_eq_some.mp hb
    obtain ⟨hl', -⟩ := ite_child_eq_some.mp hb'
    rw [hl, hl', append_lt_append_iff, List.cons_lt_cons_iff] at hlt
    exact hlt.resolve_right fun hlast => List.lt_irrefl _ hlast.2
  unfold children
  rw [List.mergeSort_of_pairwise (hpairwise.imp fun hlt => decide_eq_true (Std.le_of_lt hlt))]
  exact hpairwise

theorem length_below (l : Location) :
    (fs.below l).length =
      fs.entries.countP fun e => l.isPrefixOf e.1 && e.1 ≠ l := by
  unfold below
  rw [List.length_filterMap_eq_countP]
  refine List.countP_congr fun e _ => ?_
  rw [Option.isSome_ite]

/-- Less is below what a directory holds than below the directory. -/
theorem length_below_lt {directory : Location} {child : String × Entry}
    (h : child ∈ fs.children directory) :
    (fs.below (directory ++ [child.1])).length < (fs.below directory).length := by
  -- The thing itself is below the directory, and not below itself.
  obtain ⟨before, after, hentries⟩ := List.append_of_mem (mem_children.mp h)
  have hle : ∀ entries : List (Location × Entry),
      (entries.countP fun e => (directory ++ [child.1]).isPrefixOf e.1 &&
        e.1 ≠ directory ++ [child.1]) ≤
      entries.countP fun e => directory.isPrefixOf e.1 && e.1 ≠ directory := by
    refine fun entries => List.countP_mono_left fun e _ hbelow => ?_
    simp only [Bool.and_eq_true, List.isPrefixOf_iff_prefix, decide_eq_true_eq] at hbelow ⊢
    obtain ⟨⟨names, hnames⟩, -⟩ := hbelow
    refine ⟨⟨child.1 :: names, by rw [← hnames, List.append_cons]⟩, ?_⟩
    rw [← hnames, List.append_assoc]
    simp
  have hself : ((directory ++ [child.1]).isPrefixOf (directory ++ [child.1]) &&
      decide (directory ++ [child.1] ≠ directory ++ [child.1])) = false := by simp
  have hthere : (directory.isPrefixOf (directory ++ [child.1]) &&
      decide (directory ++ [child.1] ≠ directory)) = true := by simp
  have hbefore := hle before
  have hafter := hle after
  simp only [length_below, hentries, List.countP_append, List.countP_cons, hself, hthere, if_true,
    Bool.false_eq_true, if_false]
  omega

variable {skips : Location → Bool → Bool}

/-! ## Walks -/

/-- What a walk passes of one thing that a directory holds: the thing itself and, if that is a
directory, what it passes inside. -/
def passed (skips : Location → Bool → Bool) (here : Location) (child : String × Entry)
    (inside : List (Location × Entry)) : List (Location × Entry) :=
  if skips (here ++ [child.1]) (child.2 = .directory) then []
  else
    ([child.1], child.2) ::
      if child.2 = .directory then inside.map fun (names, e) => (child.1 :: names, e) else []

/-- What a walk through a directory passes that skips some entries, by the names that lead there
from the directory. -/
def walk (fs : FileSystem) (skips : Location → Bool → Bool) (here : Location) :
    List (Location × Entry) :=
  (fs.children here).attach.flatMap fun child =>
    passed skips here child.1 (fs.walk skips (here ++ [child.1.1]))
termination_by (fs.below here).length
decreasing_by exact length_below_lt child.2

theorem walk_eq (here : Location) :
    fs.walk skips here = (fs.children here).flatMap fun child =>
      passed skips here child (fs.walk skips (here ++ [child.1])) := by
  rw [walk]
  exact (List.flatMap_subtype fun _ _ => rfl).trans (by rw [List.unattach_attach])

/-- One thing in a directory is passed under its name, and what is inside it under that name and
others. -/
theorem mem_passed {here names : Location} {child : String × Entry}
    {inside : List (Location × Entry)} {e : Entry} :
    (names, e) ∈ passed skips here child inside ↔
      skips (here ++ [child.1]) (child.2 = .directory) = false ∧
        ∃ rest, names = child.1 :: rest ∧
          (rest = [] ∧ e = child.2 ∨ child.2 = .directory ∧ (rest, e) ∈ inside) := by
  unfold passed
  cases skips (here ++ [child.1]) (child.2 = .directory) with
  | true => simp
  | false =>
    by_cases hdirectory : child.2 = .directory
    · simp only [hdirectory, Bool.false_eq_true, if_false, if_true, List.mem_cons, Prod.mk.injEq,
        List.mem_map]
      constructor
      · rintro (⟨rfl, rfl⟩ | ⟨⟨rest, e'⟩, hmem, rfl, rfl⟩)
        · exact ⟨trivial, [], rfl, .inl ⟨rfl, rfl⟩⟩
        · exact ⟨trivial, rest, rfl, .inr ⟨trivial, hmem⟩⟩
      · rintro ⟨-, rest, rfl, ⟨rfl, rfl⟩ | ⟨-, hmem⟩⟩
        · exact .inl ⟨rfl, rfl⟩
        · exact .inr ⟨_, hmem, rfl, rfl⟩
    · simp [hdirectory]

theorem nil_notMem_walk {here : Location} {e : Entry} : ([], e) ∉ fs.walk skips here := by
  rw [walk_eq, List.mem_flatMap]
  rintro ⟨child, -, hmem⟩
  obtain ⟨-, rest, hrest, -⟩ := mem_passed.mp hmem
  exact List.cons_ne_nil _ _ hrest.symm

theorem mem_walk_cons {here names : Location} {name : String} {e : Entry} :
    (name :: names, e) ∈ fs.walk skips here ↔
      ∃ e', (name, e') ∈ fs.children here ∧
        skips (here ++ [name]) (e' = .directory) = false ∧
        (names = [] ∧ e = e' ∨
          e' = .directory ∧ (names, e) ∈ fs.walk skips (here ++ [name])) := by
  rw [walk_eq, List.mem_flatMap]
  constructor
  · rintro ⟨⟨name', e'⟩, hchild, hmem⟩
    obtain ⟨hskips, rest, hrest, hmem⟩ := mem_passed.mp hmem
    obtain ⟨rfl, rfl⟩ := List.cons.inj hrest
    exact ⟨e', hchild, hskips, hmem⟩
  · rintro ⟨e', hchild, hskips, hmem⟩
    exact ⟨_, hchild, mem_passed.mpr ⟨hskips, names, rfl, hmem⟩⟩

/-! ## What a walk passes -/

theorem reaches_nil (root : Location) : fs.reaches skips root [] = true :=
  rfl

/-- A walk reaches an entry below a directory iff it does not skip what its first name leads to, and
reaches it from there. -/
theorem reaches_cons (root names : Location) (name : String) :
    fs.reaches skips root (name :: names) =
      (!skips (root ++ [name]) (fs.entryAt? (root ++ [name]) = some .directory) &&
        fs.reaches skips (root ++ [name]) names) := by
  have htake : ∀ n, root ++ (name :: names).take (n + 1) = root ++ [name] ++ names.take n :=
    fun n => by rw [List.take_succ_cons, ← List.append_cons]
  unfold reaches
  simp only [htake]
  rw [List.length_cons, List.range_succ_eq_map, List.any_cons, List.any_map, Bool.not_or,
    List.take_zero, List.append_nil]
  rfl

/-- A walk through a tree passes what it reaches. -/
theorem mem_walk (h : fs.IsTree) {here names : Location} {e : Entry} :
    (names, e) ∈ fs.walk skips here ↔
      names ≠ [] ∧ fs.entryAt? (here ++ names) = some e ∧ fs.reaches skips here names = true := by
  induction names generalizing here with
  | nil => exact iff_of_false nil_notMem_walk fun hnil => hnil.1 rfl
  | cons name names ih =>
    have hchild : ∀ e', (name, e') ∈ fs.children here ↔
        fs.entryAt? (here ++ [name]) = some e' := fun e' =>
      mem_children.trans (h.entryAt?_eq_some_iff (List.concat_ne_nil _ _)).symm
    rw [mem_walk_cons, and_iff_right (List.cons_ne_nil _ _), reaches_cons,
      List.append_cons here name names]
    constructor
    · rintro ⟨e', hmem, hskips, hrest⟩
      have hentry := (hchild e').mp hmem
      have hhere : skips (here ++ [name])
          (fs.entryAt? (here ++ [name]) = some .directory) = false := by
        rw [hentry]
        simpa using hskips
      rw [hhere, Bool.not_false, Bool.true_and]
      rcases hrest with ⟨rfl, rfl⟩ | ⟨rfl, hrest⟩
      · exact ⟨by rwa [List.append_nil], reaches_nil _⟩
      · exact (ih.mp hrest).2
    · rintro ⟨hentry, hreaches⟩
      obtain ⟨hhere, hreaches⟩ := Bool.and_eq_true_iff.mp hreaches
      rw [Bool.not_eq_true'] at hhere
      by_cases hnames : names = []
      · subst hnames
        rw [List.append_nil] at hentry
        rw [hentry] at hhere
        exact ⟨e, (hchild e).mpr hentry, by simpa using hhere, .inl ⟨rfl, rfl⟩⟩
      · have hdirectory := h.directory_of_append hentry hnames
        rw [hdirectory] at hhere
        exact ⟨.directory, (hchild _).mpr hdirectory, by simpa using hhere,
          .inr ⟨rfl, ih.mpr ⟨hnames, hentry, hreaches⟩⟩⟩

/-- What is passed of one thing that a directory holds comes in order. -/
theorem pairwise_passed {here : Location} {child : String × Entry}
    {inside : List (Location × Entry)} (hinside : inside.Pairwise fun a b => a.1 < b.1)
    (hnil : ∀ e, ([], e) ∉ inside) :
    (passed skips here child inside).Pairwise fun a b => a.1 < b.1 := by
  unfold passed
  split
  · exact .nil
  · split
    · refine List.pairwise_cons.mpr ⟨fun x hx => ?_, ?_⟩
      · obtain ⟨⟨names, e⟩, hmem, rfl⟩ := List.mem_map.mp hx
        obtain ⟨first, rest, rfl⟩ := List.exists_cons_of_ne_nil fun hnames : names = [] =>
          hnil e (hnames ▸ hmem)
        exact List.cons_lt_cons_iff.mpr (.inr ⟨rfl, List.nil_lt_cons _ _⟩)
      · exact List.pairwise_map.mpr (hinside.imp fun hlt =>
          List.cons_lt_cons_iff.mpr (.inr ⟨rfl, hlt⟩))
    · exact List.pairwise_singleton _ _

/-- A walk through a tree passes entries in the order of their locations. -/
theorem pairwise_walk (h : fs.IsTree) (here : Location) :
    (fs.walk skips here).Pairwise fun a b => a.1 < b.1 := by
  rw [walk_eq, List.pairwise_flatMap]
  constructor
  · intro child hchild
    exact pairwise_passed (pairwise_walk h (here ++ [child.1])) fun e => nil_notMem_walk
  · -- What is in two things of one directory differs in the first name already.
    refine (h.pairwise_children here).imp fun {a b} hlt x hx y hy => ?_
    obtain ⟨-, rest, hrest, -⟩ := mem_passed.mp hx
    obtain ⟨-, rest', hrest', -⟩ := mem_passed.mp hy
    rw [hrest, hrest']
    exact List.cons_lt_cons_iff.mpr (.inl hlt)
termination_by (fs.below here).length
decreasing_by exact length_below_lt hchild

/-- A walk through a tree passes the entries below a directory that it reaches, each once, in
order. -/
theorem walk_eq_filter_below (h : fs.IsTree) (here : Location) :
    fs.walk skips here = (fs.below here).filter fun e => fs.reaches skips here e.1 := by
  have : Std.Antisymm fun a b : Location × Entry => a.1 < b.1 :=
    ⟨fun _ _ hlt hlt' => absurd hlt' (List.lt_asymm hlt)⟩
  have : Std.Irrefl fun a b : Location × Entry => a.1 < b.1 := ⟨fun _ => List.lt_irrefl _⟩
  refine (pairwise_walk h here).eq_of_mem_iff ((h.pairwise_below here).filter _)
    fun (names, e) => ?_
  rw [mem_walk h, List.mem_filter, mem_below, and_assoc]
  refine and_congr_right fun hnames => and_congr_left fun _ => h.entryAt?_eq_some_iff ?_
  simp [hnames]

/-- A walk reaches an entry of a tree if it skips nothing on the way. -/
theorem reaches_of_forall (h : fs.IsTree) {root names : Location} {e : Entry}
    (hentry : fs.entryAt? (root ++ names) = some e)
    (hskips : ∀ e ∈ fs.below root, skips (root ++ e.1) (e.2 = .directory) = false) :
    fs.reaches skips root names = true := by
  unfold reaches
  rw [Bool.not_eq_true', List.any_eq_false]
  intro n hn
  obtain ⟨e', hentry'⟩ : ∃ e', fs.entryAt? (root ++ names.take (n + 1)) = some e' := by
    by_cases hdrop : names.drop (n + 1) = []
    · rw [List.take_of_length_le (List.drop_eq_nil_iff.mp hdrop)]
      exact ⟨e, hentry⟩
    · refine ⟨.directory, h.directory_of_append (e := e) ?_ hdrop⟩
      rwa [List.append_assoc, List.take_append_drop]
  have hnames : names.take (n + 1) ≠ [] := by
    rw [Ne, List.take_eq_nil_iff, not_or]
    exact ⟨Nat.succ_ne_zero n, List.ne_nil_of_length_pos (by have := List.mem_range.mp hn; omega)⟩
  have hmem : (names.take (n + 1), e') ∈ fs.below root :=
    mem_below.mpr ⟨hnames, (h.entryAt?_eq_some_iff (by simp [hnames])).mp hentry'⟩
  have hskip := hskips _ hmem
  simp only [hentry', Bool.not_eq_true]
  simpa using hskip

end FileSystem

/-- A walker leaves nothing out of the directory at a path.  It comes to the directory first, and
then goes depth first, through what a directory holds by name. -/
def Walker.PassesAll (walker : Walker) (fs : FileSystem) (versionControl : Bool) (path : String)
    (root : Location) : Prop :=
  walker.walk fs versionControl path =
    ([] :: (fs.walk (fun _ _ => false) root).map Prod.fst).map .ok

/-! ## Where nothing is excluded -/

namespace Exclusion

variable {fs : FileSystem} {personal : Verdicts} {versionControl : Bool} {root : Location}

/-- The walker that goes by the rules tells what is wrong with those above a directory, and then
walks through the directory and skips what is excluded. -/
theorem walk_walker (h : fs.IsTree) {path : String} (hroot : fs.locate path = .ok root) :
    (walker personal).walk fs versionControl path = faultItems fs versionControl root ++
      ([] :: (fs.walk (isExcluded fs personal versionControl) root).map Prod.fst).map .ok := by
  simp only [walker, hroot, FileSystem.walk_eq_filter_below h]
  rfl

/-- A walk begins with a fault where a file of rules above the directory has a brace that is left
open, and goes on. -/
example : ((walker fun _ _ => none).walk
      ⟨[], [([".ignore"], .file "\x7ba".toUTF8), (["dtos"], .directory)]⟩ true "dtos").map
        Except.isOk = [false, true] := by
  decide +kernel

/-- Nothing is wrong with the rules above a directory, and no rule that counts says of an entry
below it that it is excluded. -/
structure NoRuleExcludes (fs : FileSystem) (personal : Verdicts) (versionControl : Bool)
    (root : Location) : Prop where
  faults : faults fs versionControl root = []
  rules : ∀ e ∈ fs.below root, ∀ kind ∈ RuleKind.counting versionControl,
    ∀ directory ∈ counting fs versionControl (root ++ e.1) kind,
      verdictAt? fs kind (root ++ e.1) (e.2 = .directory) directory ≠ some true
  personal : ∀ e ∈ fs.below root, counting fs versionControl (root ++ e.1) .shared ≠ [] →
    personal (root ++ e.1) (e.2 = .directory) ≠ some true

instance : Decidable (NoRuleExcludes fs personal versionControl root) :=
  decidable_of_iff
    (Exclusion.faults fs versionControl root = [] ∧
      (∀ e ∈ fs.below root, ∀ kind ∈ RuleKind.counting versionControl,
        ∀ directory ∈ counting fs versionControl (root ++ e.1) kind,
          verdictAt? fs kind (root ++ e.1) (e.2 = .directory) directory ≠ some true) ∧
      ∀ e ∈ fs.below root, counting fs versionControl (root ++ e.1) .shared ≠ [] →
        personal (root ++ e.1) (e.2 = .directory) ≠ some true)
    ⟨fun ⟨hfaults, hrules, hpersonal⟩ => ⟨hfaults, hrules, hpersonal⟩,
      fun ⟨hfaults, hrules, hpersonal⟩ => ⟨hfaults, hrules, hpersonal⟩⟩

/-- What is excluded by itself is excluded by a rule of some directory, or by one for all
repositories. -/
theorem exists_of_isExcluded {location : Location} {isDirectory : Bool}
    (h : isExcluded fs personal versionControl location isDirectory = true) :
    (∃ kind, ∃ directory ∈ counting fs versionControl location kind,
      verdictAt? fs kind location isDirectory directory = some true) ∨
    counting fs versionControl location .shared ≠ [] ∧
      personal location isDirectory = some true := by
  rcases Option.getD_eq_iff.mp h with hfind | ⟨-, hfind⟩
  · simp only [Option.orElse_eq_some] at hfind
    rcases hfind with hfind | ⟨-, hfind | ⟨-, hfind | ⟨-, hfind⟩⟩⟩
    · exact .inl ⟨.general, List.exists_of_findSome?_eq_some hfind⟩
    · exact .inl ⟨.shared, List.exists_of_findSome?_eq_some hfind⟩
    · exact .inl ⟨.own, List.exists_of_findSome?_eq_some hfind⟩
    · split at hfind
      · exact absurd hfind.symm (Option.some_ne_none true)
      · next hinside => exact .inr ⟨by simpa using hinside, hfind⟩
  · exact absurd hfind Bool.false_ne_true

/-- Only directories of the kinds that count have rules that count. -/
theorem mem_counting {location directory : Location} {kind : RuleKind}
    (h : directory ∈ counting fs versionControl location kind) :
    kind ∈ RuleKind.counting versionControl := by
  cases versionControl with
  | true => cases kind <;> decide
  | false =>
    cases kind with
    | general => decide
    | shared => exact absurd h List.not_mem_nil
    | own => exact absurd h List.not_mem_nil

/-- Where no rule excludes anything, the walker that goes by the rules leaves nothing out. -/
theorem NoRuleExcludes.passesAll (hrules : NoRuleExcludes fs personal versionControl root)
    (h : fs.IsTree) {path : String} (hroot : fs.locate path = .ok root) :
    (walker personal).PassesAll fs versionControl path root := by
  have hnot : ∀ e ∈ fs.below root,
      isExcluded fs personal versionControl (root ++ e.1) (e.2 = .directory) = false := by
    intro e he
    rw [Bool.eq_false_iff]
    intro hexcluded
    rcases exists_of_isExcluded hexcluded with ⟨kind, directory, hdirectory, hverdict⟩ |
      ⟨hinside, hverdict⟩
    · exact hrules.rules e he kind (mem_counting hdirectory) directory hdirectory hverdict
    · exact hrules.personal e he hinside hverdict
  have hreaches : ∀ skips : Location → Bool → Bool,
      (∀ e ∈ fs.below root, skips (root ++ e.1) (e.2 = .directory) = false) →
      fs.walk skips root = fs.below root := by
    intro skips hskips
    rw [FileSystem.walk_eq_filter_below h, List.filter_eq_self]
    intro e he
    obtain ⟨hnames, hmem⟩ := FileSystem.mem_below.mp he
    exact FileSystem.reaches_of_forall h
      ((h.entryAt?_eq_some_iff (by simp [hnames])).mpr hmem) hskips
  unfold Walker.PassesAll
  rw [walk_walker h hroot, faultItems, hrules.faults, hreaches _ hnot,
    hreaches _ fun _ _ => rfl]
  rfl

end Exclusion

end SchemaGen
