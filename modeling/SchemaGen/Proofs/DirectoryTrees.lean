import Mathlib.Data.List.Induction
import SchemaGen.Proofs.FileGrowth

/-!
# File systems that are trees of directories

A file system is a list of entries with their locations, and nothing in its type says that they
make up a tree.  They do if no location has two entries, if every entry stands in a directory, and
if it has a name that can stand there.  Making files and directories keeps this so, because a new
entry is put into a directory under a name that a path has between slashes, and because a file takes
no directory's place.

* `FileSystem.IsTree`: the file systems that are trees.
* `IsTree.entryAt?_eq_some_iff`, `IsTree.directory_of_append`, `IsTree.plain_of_entryAt?`: what is
  at a location of a tree, and what is above it.
* `FileSystem.mem_below`: what is below a location.
* `IsTree.locate_join`: the names that lead to an entry make up a path to it.
* `IsTree.putFile`, `IsTree.makeDirectory`, `IsTree.makeDirectories`: trees stay trees.
-/

namespace SchemaGen.FileSystem

variable {fs : FileSystem}

/-- The entries make up a tree: they are ordered by their locations without a repetition, each has
a name that can stand in a directory, and stands in a directory. -/
structure IsTree (fs : FileSystem) : Prop where
  ascending : (fs.entries.map Prod.fst).Pairwise (· < ·)
  plain : ∀ e ∈ fs.entries, ∀ name ∈ e.1, Path.Plain name
  parent : ∀ e ∈ fs.entries, fs.entryAt? e.1.dropLast = some .directory

instance (fs : FileSystem) : Decidable fs.IsTree :=
  decidable_of_iff ((fs.entries.map Prod.fst).Pairwise (· < ·) ∧
      (∀ e ∈ fs.entries, ∀ name ∈ e.1, Path.Plain name) ∧
      ∀ e ∈ fs.entries, fs.entryAt? e.1.dropLast = some .directory)
    ⟨fun ⟨ascending, plain, parent⟩ => ⟨ascending, plain, parent⟩,
      fun ⟨ascending, plain, parent⟩ => ⟨ascending, plain, parent⟩⟩

/-- An entry below the root is at a location iff it is listed with it. -/
theorem IsTree.entryAt?_eq_some_iff (h : fs.IsTree) {l : Location} (hl : l ≠ []) {e : Entry} :
    fs.entryAt? l = some e ↔ (l, e) ∈ fs.entries := by
  have hnodup : (fs.entries.map Prod.fst).Nodup := h.ascending.imp fun hlt heq => by
    subst heq
    exact List.lt_irrefl _ hlt
  unfold entryAt?
  rw [if_neg hl, Assoc.lookup_eq_some_iff_mem hnodup]

/-- Whatever is above an entry is a directory. -/
theorem IsTree.directory_of_append (h : fs.IsTree) {l names : Location} {e : Entry}
    (hentry : fs.entryAt? (l ++ names) = some e) (hnames : names ≠ []) :
    fs.entryAt? l = some .directory := by
  induction names using List.reverseRecOn generalizing e with
  | nil => exact absurd rfl hnames
  | append_singleton front last ih =>
    rw [← List.append_assoc] at hentry
    have hparent := h.parent _ ((h.entryAt?_eq_some_iff (by simp)).mp hentry)
    rw [List.dropLast_concat] at hparent
    cases front with
    | nil => rwa [List.append_nil] at hparent
    | cons first front => exact ih hparent (List.cons_ne_nil _ _)

/-- All names on the way to an entry can stand in directories. -/
theorem IsTree.plain_of_entryAt? (h : fs.IsTree) {l : Location} {e : Entry}
    (hentry : fs.entryAt? l = some e) : ∀ name ∈ l, Path.Plain name := by
  by_cases hl : l = []
  · simp [hl]
  · exact h.plain _ ((h.entryAt?_eq_some_iff hl).mp hentry)

theorem IsTree.plain_of_append (h : fs.IsTree) {l names : Location} {e : Entry}
    (hentry : fs.entryAt? (l ++ names) = some e) : ∀ name ∈ names, Path.Plain name :=
  fun name hname => h.plain_of_entryAt? hentry name (List.mem_append_right _ hname)

theorem ite_below_eq_some {l location : Location} {e : Entry} {b : Location × Entry} :
    (if l.isPrefixOf location && location ≠ l then some (location.drop l.length, e) else none) =
        some b ↔ b.1 ≠ [] ∧ location = l ++ b.1 ∧ e = b.2 := by
  obtain ⟨names, e'⟩ := b
  simp only [Bool.and_eq_true, List.isPrefixOf_iff_prefix, decide_eq_true_eq,
    Option.ite_none_right_eq_some, Option.some.injEq, Prod.mk.injEq]
  constructor
  · rintro ⟨⟨⟨names, rfl⟩, hne⟩, hnames, rfl⟩
    rw [List.drop_left] at hnames
    subst hnames
    exact ⟨by simpa using hne, rfl, rfl⟩
  · rintro ⟨hnames, rfl, rfl⟩
    exact ⟨⟨List.prefix_append _ _, by simpa using hnames⟩, List.drop_left, rfl⟩

/-- What is below a location, by the names that lead there. -/
theorem mem_below {l names : Location} {e : Entry} :
    (names, e) ∈ fs.below l ↔ names ≠ [] ∧ (l ++ names, e) ∈ fs.entries := by
  unfold below
  rw [List.mem_filterMap]
  constructor
  · rintro ⟨⟨location, e'⟩, hmem, hkept⟩
    obtain ⟨hnames, rfl, rfl⟩ := ite_below_eq_some.mp hkept
    exact ⟨hnames, hmem⟩
  · rintro ⟨hnames, hmem⟩
    exact ⟨_, hmem, ite_below_eq_some.mpr ⟨hnames, rfl, rfl⟩⟩

/-! ## The paths of what is below a directory -/

/-- Names that lead to an entry can be followed. -/
theorem IsTree.foldlM_follow (h : fs.IsTree) {l names : Location} {e : Entry}
    (hentry : fs.entryAt? (l ++ names) = some e) :
    names.foldlM fs.follow l = .ok (l ++ names) := by
  induction names generalizing l with
  | nil => rw [List.append_nil, List.foldlM_nil, pure_eq_ok]
  | cons name names ih =>
    have hname := h.plain_of_append hentry name (List.mem_cons_self ..)
    have hdirectory := h.directory_of_append hentry (List.cons_ne_nil _ _)
    rw [List.append_cons] at hentry ⊢
    refine foldlM_follow_cons.mpr ⟨hdirectory, ?_⟩
    rw [beyond_eq_concat hname.idle hname.up]
    exact ih hentry

/-- The names that lead from a directory to an entry make up a path to it. -/
theorem IsTree.locate_join (h : fs.IsTree) {dir : String} {l names : Location} {e : Entry}
    (hdir : fs.locate dir = .ok l) (hnames : names ≠ [])
    (hentry : fs.entryAt? (l ++ names) = some e) :
    fs.locate (Path.join dir ("/".intercalate names)) = .ok (l ++ names) := by
  have hplain := h.plain_of_append hentry
  have hpieces : Path.pieces ("/".intercalate names) = names :=
    Path.pieces_intercalate (fun name hname => (hplain name hname).slash) hnames
  have hrest : Path.isRooted ("/".intercalate names) = false := by
    obtain ⟨first, others, rfl⟩ := List.exists_cons_of_ne_nil hnames
    exact (hplain first (List.mem_cons_self ..)).isRooted_of_pieces hpieces
  have hne := (locate_eq_ok.mp hdir).1
  obtain ⟨before, hjoin, hbefore⟩ := exists_foldlM_join hrest hne
  refine locate_eq_ok.mpr ⟨fun hempty => ?_, ?_⟩
  · have hsplit := congrArg Path.pieces hempty
    rw [hjoin, hpieces, Path.pieces_empty] at hsplit
    rcases List.append_eq_singleton_iff.mp hsplit with ⟨-, hlast⟩ | ⟨-, hlast⟩
    · exact (hplain "" (by simp [hlast])).ne_empty rfl
    · exact hnames hlast
  · rw [hjoin, hpieces]
    exact foldlM_follow_append.mpr
      ⟨l, (hbefore l (h.directory_of_append hentry hnames)).mpr hdir, h.foldlM_follow hentry⟩

/-! ## Trees stay trees -/

theorem keys_put {l other : Location} {e : Entry} :
    other ∈ (fs.put l e).entries.map Prod.fst ↔ other = l ∨ other ∈ fs.entries.map Prod.fst :=
  Assoc.mem_keys_put l other e fs.entries

/-- A tree with another entry at a free place, or with another file in the place of a file, is a
tree. -/
theorem IsTree.put (h : fs.IsTree) {directory : Location} {name : String} {e : Entry}
    (hdirectory : fs.entryAt? directory = some .directory) (hname : Path.Plain name)
    (hentry : fs.entryAt? (directory ++ [name]) ≠ some .directory) :
    (fs.put (directory ++ [name]) e).IsTree := by
  -- Only the locations of entries matter, and nothing stands in what has been replaced.
  have hplain : ∀ l ∈ (fs.put (directory ++ [name]) e).entries.map Prod.fst,
      ∀ n ∈ l, Path.Plain n := by
    intro l hl n hn
    rcases keys_put.mp hl with rfl | hl
    · rcases List.mem_append.mp hn with hn | hn
      · exact h.plain_of_entryAt? hdirectory n hn
      · exact List.mem_singleton.mp hn ▸ hname
    · obtain ⟨entry, hmem, rfl⟩ := List.mem_map.mp hl
      exact h.plain entry hmem n hn
  have hparent : ∀ l ∈ (fs.put (directory ++ [name]) e).entries.map Prod.fst,
      (fs.put (directory ++ [name]) e).entryAt? l.dropLast = some .directory := by
    intro l hl
    have hold : fs.entryAt? l.dropLast = some .directory := by
      rcases keys_put.mp hl with rfl | hl
      · rwa [List.dropLast_concat]
      · obtain ⟨entry, hmem, rfl⟩ := List.mem_map.mp hl
        exact h.parent entry hmem
    rw [entryAt?_put (List.concat_ne_nil _ _), if_neg]
    · exact hold
    · rintro heq
      exact hentry (heq ▸ hold)
  exact
    { ascending := Assoc.ascending_put (fun _ _ _ => List.lt_trans)
        (fun _ _ hlt hne =>
          (Std.Trichotomous.rel_or_eq_or_rel_swap.resolve_left hlt).resolve_left hne) _ _ h.ascending
      plain := fun entry hmem => hplain _ (List.mem_map_of_mem hmem)
      parent := fun entry hmem => hparent _ (List.mem_map_of_mem hmem) }

theorem IsTree.putFile (h : fs.IsTree) {fs' : FileSystem} {path : String} {content : ByteArray}
    (hput : fs.putFile path content = .ok fs') : fs'.IsTree := by
  obtain ⟨l, hplaced, hentry, rfl⟩ := placed_of_putFile hput
  obtain ⟨slot, hslot, -, rfl⟩ := hplaced.slot
  obtain ⟨hname, hdirectory⟩ := plain_of_slot? hslot
  exact h.put hdirectory hname hentry

theorem IsTree.makeDirectory (h : fs.IsTree) {fs' : FileSystem} {path : String}
    (hmade : fs.makeDirectory path = .ok fs') : fs'.IsTree := by
  unfold FileSystem.makeDirectory at hmade
  obtain ⟨slot?, hslot, hmade⟩ := bind_eq_ok.mp hmade
  cases slot? with
  | none => simp at hmade
  | some slot =>
    obtain ⟨hname, hdirectory⟩ := plain_of_slot? hslot
    cases hentry : fs.entryAt? slot.location with
    | some e => simp [hentry] at hmade
    | none =>
      simp only [hentry, pure_eq_ok, Except.ok.injEq] at hmade
      subst hmade
      refine h.put hdirectory hname fun hthere => ?_
      exact Option.some_ne_none _ (hthere.symm.trans hentry)

/-- Trees stay trees where a directory is made with those above it, even if that fails at last. -/
theorem IsTree.makeDirectories (h : fs.IsTree) (path : String) :
    (fs.makeDirectories path).2.IsTree :=
  makeDirectoriesWithin_preserves _ h fun _ _ _ _ htree hmade => htree.makeDirectory hmade

end SchemaGen.FileSystem
