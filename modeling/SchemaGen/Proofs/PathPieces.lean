import SchemaGen.Path
import Mathlib.Data.List.Basic
import Mathlib.Data.List.TakeWhile

/-!
# Paths as lists of pieces

Everything that follows a path, and everything that takes one apart, goes by its pieces.  This
module tells the pieces of the paths that a run builds, so that the text of a path does not have
to be looked at again.

* `pieces_intercalate`, `intercalate_pieces`: a path is its pieces with slashes between them.
* `Plain`: a name that can stand in a directory.
* `pieces_join`: the pieces of a path seen from a directory.
* `parent?_of_pieces`: the pieces of the path above a plain name.
* `fileName?_eq_some_iff`, `fileName?_of_pieces`: the last name of a path by its pieces, with
  `fileName?_join` for a path that is seen from a directory.
* `isManifest_iff`: the names that are taken for those of manifests.
-/

namespace SchemaGen.Text

/-- The runs between separators are those of the list library. -/
theorem pieces_eq_splitOnP (sep : Char → Bool) (s : List Char) :
    pieces sep s = s.splitOnP sep := by
  induction s with
  | nil => rfl
  | cons c s ih =>
    rw [pieces, List.splitOnP_cons_eq_if_modifyHead, ← ih]
    split
    · rfl
    · cases hs : pieces sep s with
      | nil => exact absurd hs (pieces_ne_nil sep s)
      | cons p ps => rfl

end SchemaGen.Text

namespace SchemaGen.Path

theorem pieces_eq_splitOn (path : String) :
    pieces path = (path.toList.splitOn '/').map String.ofList := by
  rw [pieces, Text.pieces_eq_splitOnP, List.splitOn_eq_splitOnP]
  rfl

theorem pieces_ne_nil (path : String) : pieces path ≠ [] := by
  rw [pieces_eq_splitOn]
  exact fun h => List.splitOn_ne_nil _ _ (List.map_eq_nil_iff.mp h)

/-- A path is its pieces with slashes between them. -/
theorem intercalate_pieces (path : String) : "/".intercalate (pieces path) = path := by
  rw [← String.toList_inj, String.toList_intercalate, pieces_eq_splitOn, List.map_map]
  have hid : String.toList ∘ String.ofList = id := by
    funext s
    exact String.toList_ofList
  rw [hid, List.map_id]
  exact List.intercalate_splitOn '/'

/-- Names without slashes are the pieces of the path that they make. -/
theorem pieces_intercalate {names : List String} (h : ∀ n ∈ names, '/' ∉ n.toList)
    (hne : names ≠ []) : pieces ("/".intercalate names) = names := by
  have hsplit : (['/'].intercalate (names.map String.toList)).splitOn '/' =
      names.map String.toList := by
    refine List.splitOn_intercalate '/' (fun l hl => ?_) (by simpa using hne)
    obtain ⟨n, hn, rfl⟩ := List.mem_map.mp hl
    exact h n hn
  rw [pieces_eq_splitOn, String.toList_intercalate]
  have hsep : "/".toList = ['/'] := rfl
  rw [hsep, hsplit, List.map_map]
  have hid : String.ofList ∘ String.toList = id := by
    funext s
    exact String.ofList_toList
  rw [hid, List.map_id]

/-- A text without slashes is a single piece. -/
theorem pieces_of_notMem {name : String} (h : '/' ∉ name.toList) : pieces name = [name] := by
  have hnames : ∀ n ∈ [name], '/' ∉ n.toList := by simpa using h
  have hpieces := pieces_intercalate hnames (List.cons_ne_nil _ _)
  rwa [String.intercalate_singleton] at hpieces

theorem pieces_empty : pieces "" = [""] :=
  pieces_of_notMem (by simp)

/-- A slash divides the pieces before it from those after it. -/
theorem pieces_append_slash (before after : String) :
    pieces (before ++ "/" ++ after) = pieces before ++ pieces after := by
  have hlist : (before ++ "/" ++ after).toList = before.toList ++ '/' :: after.toList := by
    simp
  rw [pieces_eq_splitOn, hlist, List.splitOn_append_cons_self, List.map_append,
    ← pieces_eq_splitOn, ← pieces_eq_splitOn]

theorem notMem_of_mem_pieces {path piece : String} (h : piece ∈ pieces path) :
    '/' ∉ piece.toList := by
  suffices hmem : ∀ s : List Char, ∀ run ∈ s.splitOn '/', '/' ∉ run by
    rw [pieces_eq_splitOn] at h
    obtain ⟨run, hrun, rfl⟩ := List.mem_map.mp h
    rw [String.toList_ofList]
    exact hmem _ run hrun
  intro s
  induction s with
  | nil => simp
  | cons c s ih =>
    intro run hrun
    rw [List.splitOn_cons_eq_if_modifyHead] at hrun
    split at hrun
    · rcases List.mem_cons.mp hrun with rfl | hrun
      · exact List.not_mem_nil
      · exact ih run hrun
    · next hc =>
      cases hs : s.splitOn '/' with
      | nil => exact absurd hs (List.splitOn_ne_nil _ _)
      | cons p ps =>
        rw [hs] at hrun ih
        rcases List.mem_cons.mp hrun with rfl | hrun
        · have hp := ih p (List.mem_cons_self ..)
          simp only [List.mem_cons, not_or]
          exact ⟨fun h => hc (beq_iff_eq.mpr h.symm), hp⟩
        · exact ih run (List.mem_cons_of_mem _ hrun)

/-! ## Where a path begins -/

/-- A path that has a slash starts at the root iff its first piece is empty. -/
theorem isRooted_of_pieces {path first second : String} {rest : List String}
    (h : pieces path = first :: second :: rest) : isRooted path = decide (first = "") := by
  have hpath : path.toList = first.toList ++ '/' :: ("/".intercalate (second :: rest)).toList := by
    rw [← intercalate_pieces path, h, String.intercalate_cons_cons]
    simp
  have hslash : '/' ∉ first.toList := notMem_of_mem_pieces (by rw [h]; simp)
  unfold isRooted
  rw [hpath]
  cases hfirst : first.toList with
  | nil =>
    have hempty : first = "" := String.toList_inj.mp hfirst
    simp [hempty]
  | cons c s =>
    have hne : first ≠ "" := by
      rintro rfl
      simp at hfirst
    rw [hfirst] at hslash
    have hc : c ≠ '/' := fun hc => hslash (by simp [hc])
    simp [hc, hne]

theorem isRooted_of_pieces_eq_singleton {path piece : String} (h : pieces path = [piece]) :
    isRooted path = false := by
  have hpath : path = piece := by
    rw [← intercalate_pieces path, h, String.intercalate_singleton]
  have hslash : '/' ∉ piece.toList := notMem_of_mem_pieces (by rw [h]; simp)
  unfold isRooted
  rw [hpath]
  cases hpiece : piece.toList with
  | nil => simp
  | cons c s =>
    rw [hpiece] at hslash
    have hc : c ≠ '/' := fun hc => hslash (by simp [hc])
    simp [hc]

/-! ## Plain names -/

/-- A name that can stand in a directory: a single piece that leads somewhere, and not up. -/
structure Plain (name : String) : Prop where
  slash : '/' ∉ name.toList
  idle : isIdle name = false
  up : name ≠ ".."

instance (name : String) : Decidable (Plain name) :=
  decidable_of_iff ('/' ∉ name.toList ∧ isIdle name = false ∧ name ≠ "..")
    ⟨fun ⟨slash, idle, up⟩ => ⟨slash, idle, up⟩, fun ⟨slash, idle, up⟩ => ⟨slash, idle, up⟩⟩

theorem Plain.ne_empty {name : String} (h : Plain name) : name ≠ "" := by
  rintro rfl
  exact Bool.noConfusion h.idle

theorem Plain.isRooted {name : String} (h : Plain name) : isRooted name = false :=
  isRooted_of_pieces_eq_singleton (pieces_of_notMem h.slash)

/-- A path that begins with a plain name does not start at the root. -/
theorem Plain.isRooted_of_pieces {path name : String} {rest : List String} (h : Plain name)
    (hpieces : pieces path = name :: rest) : Path.isRooted path = false := by
  cases rest with
  | nil => exact isRooted_of_pieces_eq_singleton hpieces
  | cons second rest =>
    rw [Path.isRooted_of_pieces hpieces]
    exact decide_eq_false h.ne_empty

/-- A path whose last piece is not empty does not end in a slash. -/
theorem getLast?_ne_of_pieces {path name : String} {before : List String}
    (h : pieces path = before ++ [name]) (hname : name ≠ "") :
    path.toList.getLast? ≠ some '/' := by
  intro hlast
  obtain ⟨front, hfront⟩ := List.getLast?_eq_some_iff.mp hlast
  have hpath : path = String.ofList front ++ "/" ++ "" := by
    rw [← String.toList_inj, hfront]
    simp
  rw [hpath, pieces_append_slash, pieces_empty] at h
  exact hname (List.append_inj_right' h rfl |> List.singleton_inj.mp).symm

/-- A path whose last piece is empty, and not its only one, ends in a slash. -/
theorem getLast?_eq_of_pieces {path : String} {before : List String} (hne : before ≠ [])
    (h : pieces path = before ++ [""]) : path.toList.getLast? = some '/' := by
  have hbefore : pieces ("/".intercalate before) = before :=
    pieces_intercalate (fun n hn => notMem_of_mem_pieces (h ▸ List.mem_append_left _ hn)) hne
  have hpath : path = "/".intercalate before ++ "/" ++ "" := by
    have hslash := pieces_append_slash ("/".intercalate before) ""
    rw [hbefore, pieces_empty, ← h] at hslash
    rw [← intercalate_pieces path, ← hslash, intercalate_pieces]
  rw [hpath]
  simp

/-- What stands before the pieces of a path that is seen from a directory: those of the directory,
or all but an empty one at the end. -/
theorem pieces_join {dir rest : String} (hrest : isRooted rest = false) (hdir : dir ≠ "") :
    ∃ before, pieces (join dir rest) = before ++ pieces rest ∧
      (before = pieces dir ∨ before ++ [""] = pieces dir) := by
  unfold join
  rw [hrest]
  simp only [Bool.false_or, decide_eq_true_eq, hdir, if_false]
  split
  · next hlast =>
    obtain ⟨front, hfront⟩ := List.getLast?_eq_some_iff.mp hlast
    have hslash : dir = String.ofList front ++ "/" := by
      rw [← String.toList_inj, hfront]
      simp
    refine ⟨pieces (String.ofList front), ?_, .inr ?_⟩
    · rw [hslash, pieces_append_slash]
    · have h := pieces_append_slash (String.ofList front) ""
      rwa [String.append_empty, ← hslash, pieces_empty,
        eq_comm] at h
  · exact ⟨pieces dir, pieces_append_slash dir rest, .inl rfl⟩

theorem join_empty {rest : String} : join "" rest = rest := by
  simp [join]

theorem isRooted_join {dir rest : String} (hrest : isRooted rest = false) (hdir : dir ≠ "") :
    isRooted (join dir rest) = isRooted dir := by
  have hne : dir.toList ≠ [] := fun h => hdir (String.toList_inj.mp h)
  unfold join
  rw [hrest]
  simp only [Bool.false_or, decide_eq_true_eq, hdir, if_false]
  unfold isRooted
  split
  · rw [String.toList_append, List.head?_append_of_ne_nil _ hne]
  · rw [String.toList_append, String.toList_append, List.append_assoc,
      List.head?_append_of_ne_nil _ hne]

/-! ## The path above a name -/

/-- Pieces at the end that lead nowhere can be told from the others. -/
theorem exists_idle_tail (names : List String) :
    ∃ idle, names = (names.reverse.dropWhile isIdle).reverse ++ idle ∧
      ∀ n ∈ idle, isIdle n = true := by
  refine ⟨(names.reverse.takeWhile isIdle).reverse, ?_, ?_⟩
  · rw [← List.reverse_append, List.takeWhile_append_dropWhile, List.reverse_reverse]
  · intro n hn
    exact List.mem_takeWhile_imp (List.mem_reverse.mp hn)

theorem ends_of_pieces {path first name : String} {before : List String}
    (h : pieces path = first :: (before ++ [name])) (hname : isIdle name = false) :
    ends path = (first, name :: before.reverse) := by
  unfold ends
  rw [h]
  simp [hname]

/-- The path above a single name is empty. -/
theorem parent?_of_notMem {name : String} (h : Plain name) : parent? name = some "" := by
  unfold parent? ends
  rw [pieces_of_notMem h.slash]
  simp [h.ne_empty]

/-- The path above a name: its pieces are those before the name, without idle ones at the end; the
root has an empty piece more. -/
theorem parent?_of_pieces {path first name : String} {before : List String}
    (h : pieces path = first :: (before ++ [name])) (hname : isIdle name = false) :
    ∃ parent kept idle, parent? path = some parent ∧ parent ≠ "" ∧
      isRooted parent = isRooted path ∧ first :: before = kept ++ idle ∧
      (∀ n ∈ idle, isIdle n = true) ∧
      (pieces parent = kept ∨ kept = [""] ∧ pieces parent = ["", ""]) := by
  obtain ⟨idle, hbefore, hidle⟩ := exists_idle_tail before
  have hrooted : isRooted path = decide (first = "") := by
    cases before with
    | nil => exact isRooted_of_pieces h
    | cons second rest => exact isRooted_of_pieces h
  have hparent : parent? path =
      if first :: (before.reverse.dropWhile isIdle).reverse = [""] then some "/"
      else some ("/".intercalate (first :: (before.reverse.dropWhile isIdle).reverse)) := by
    unfold parent?
    rw [ends_of_pieces h hname]
  generalize hmid : (before.reverse.dropWhile isIdle).reverse = mid at hbefore hparent
  have hkept : first :: before = (first :: mid) ++ idle := by rw [hbefore, List.cons_append]
  by_cases hroot : first :: mid = [""]
  · rw [if_pos hroot] at hparent
    have hslash : pieces "/" = ["", ""] := pieces_append_slash "" ""
    have hfirst : first = "" := (List.cons.inj hroot).1
    refine ⟨"/", first :: mid, idle, hparent, by decide, ?_, hkept, hidle, .inr ⟨hroot, hslash⟩⟩
    rw [hrooted, hfirst]
    rfl
  · rw [if_neg hroot] at hparent
    have hpieces : pieces ("/".intercalate (first :: mid)) = first :: mid := by
      refine pieces_intercalate (fun n hn => ?_) (List.cons_ne_nil _ _)
      have hmem : n ∈ pieces path := by
        rw [h, ← List.cons_append, hkept]
        simp only [List.mem_append]
        exact .inl (.inl hn)
      exact notMem_of_mem_pieces hmem
    have hne : "/".intercalate (first :: mid) ≠ "" := by
      intro hempty
      rw [hempty, pieces_empty] at hpieces
      exact hroot hpieces.symm
    refine ⟨_, first :: mid, idle, hparent, hne, ?_, hkept, hidle, .inl hpieces⟩
    rw [hrooted]
    cases mid with
    | nil =>
      rw [isRooted_of_pieces_eq_singleton hpieces, eq_comm, decide_eq_false_iff_not]
      rintro rfl
      exact hroot rfl
    | cons second rest => exact isRooted_of_pieces hpieces

/-! ## The last name -/

/-- The pieces at and after the last name of a path. -/
theorem of_fileName?_eq_some {path name : String} (h : fileName? path = some name) :
    ∃ before idle, pieces path = before ++ name :: idle ∧ (∀ n ∈ idle, isIdle n = true) ∧
      isIdle name = false ∧ name ≠ ".." := by
  unfold fileName? ends at h
  cases hpieces : pieces path with
  | nil => exact absurd hpieces (pieces_ne_nil path)
  | cons first rest =>
    rw [hpieces] at h
    simp only at h
    obtain ⟨idle, hrest, hidle⟩ := exists_idle_tail rest
    cases hkept : rest.reverse.dropWhile isIdle with
    | nil =>
      rw [hkept] at h hrest
      simp only [Bool.or_eq_true, decide_eq_true_eq] at h
      split at h
      · simp at h
      · next hfirst =>
        obtain rfl := Option.some.inj h
        rw [not_or] at hfirst
        refine ⟨[], idle, ?_, hidle, by simpa using hfirst.1, hfirst.2⟩
        rw [hrest]
        rfl
    | cons last others =>
      have hlast := List.head?_dropWhile_not isIdle rest.reverse
      rw [hkept] at h hrest hlast
      simp only at h
      split at h
      · simp at h
      · next hup =>
        obtain rfl := Option.some.inj h
        refine ⟨first :: others.reverse, idle, ?_, hidle, by simpa using hlast, hup⟩
        rw [hrest]
        simp

/-- The last name of a path is the last of its pieces that leads somewhere, unless that one leads
up. -/
theorem fileName?_eq_some_iff {path name : String} :
    fileName? path = some name ↔
      ∃ before idle, pieces path = before ++ name :: idle ∧ (∀ n ∈ idle, isIdle n = true) ∧
        isIdle name = false ∧ name ≠ ".." := by
  refine ⟨of_fileName?_eq_some, ?_⟩
  rintro ⟨before, idle, hpieces, hidle, hname, hup⟩
  have hends : idle.reverse.dropWhile isIdle = [] :=
    List.dropWhile_eq_nil_iff.mpr fun n hn => hidle n (List.mem_reverse.mp hn)
  unfold fileName? ends
  rw [hpieces]
  cases before with
  | nil => simp [hends, hname, hup]
  | cons first before =>
    have hrest : (idle.reverse ++ name :: before.reverse).dropWhile isIdle =
        name :: before.reverse := by
      simp [List.dropWhile_append, hends, hname]
    simp [hrest, hup]

/-- The last name of a path whose last piece is plain. -/
theorem fileName?_of_pieces {path name : String} {before : List String}
    (h : pieces path = before ++ [name]) (hname : Plain name) : fileName? path = some name :=
  fileName?_eq_some_iff.mpr ⟨before, [], h, by simp, hname.idle, hname.up⟩

/-- A path that is seen from a directory has the last name that it had. -/
theorem fileName?_join {rest name : String} (h : fileName? rest = some name) (dir : String) :
    fileName? (join dir rest) = some name := by
  by_cases hroot : isRooted rest = true ∨ dir = ""
  · have hjoin : join dir rest = rest := if_pos (by simpa using hroot)
    rwa [hjoin]
  · rw [not_or] at hroot
    obtain ⟨before, hpieces, -⟩ := pieces_join (Bool.eq_false_iff.mpr hroot.1) hroot.2
    obtain ⟨front, idle, hrest, hidle⟩ := fileName?_eq_some_iff.mp h
    refine fileName?_eq_some_iff.mpr ⟨before ++ front, idle, ?_, hidle⟩
    rw [hpieces, hrest, List.append_assoc]

/-- A file is taken for a manifest iff its name has one of two endings. -/
theorem isManifest_iff {path : String} :
    isManifest path = true ↔ ∃ name, fileName? path = some name ∧
      (".dto.json".toList <:+ name.toList ∨ ".dto.toml".toList <:+ name.toList) := by
  unfold isManifest
  cases fileName? path with
  | none => simp
  | some name => simp [manifestSuffixes]

/-- A text without slashes at the end of a path belongs to its last piece. -/
theorem pieces_append_of_notMem {path last text : String} {before : List String}
    (h : pieces path = before ++ [last]) (htext : '/' ∉ text.toList) :
    pieces (path ++ text) = before ++ [last ++ text] := by
  have hjoin : path ++ text = "/".intercalate (before ++ [last ++ text]) := by
    rw [← intercalate_pieces path, h]
    cases before with
    | nil => simp
    | cons first before =>
      rw [String.intercalate_append_of_ne_nil (by simp) (by simp),
        String.intercalate_append_of_ne_nil (by simp) (by simp)]
      simp [String.append_assoc]
  rw [hjoin]
  refine pieces_intercalate (fun n hn => ?_) (by simp)
  rcases List.mem_append.mp hn with hn | hn
  · have hmem : n ∈ pieces path := by
      rw [h]
      exact List.mem_append_left _ hn
    exact notMem_of_mem_pieces hmem
  · have hmem : last ∈ pieces path := by
      rw [h]
      exact List.mem_append_right _ (List.mem_singleton_self last)
    rw [List.mem_singleton.mp hn, String.toList_append, List.mem_append, not_or]
    exact ⟨notMem_of_mem_pieces hmem, htext⟩

/-! ## Names that end like those of modules -/

theorem plain_append_ts {name : String} (h : '/' ∉ name.toList) : Plain (name ++ ".ts") := by
  have hlength : 3 ≤ (name ++ ".ts").toList.length := by simp
  refine ⟨by simpa using h, ?_, fun hup => ?_⟩
  · simp only [isIdle, Bool.or_eq_false_iff, decide_eq_false_iff_not]
    constructor
    · intro hname
      rw [hname] at hlength
      simp at hlength
    · intro hname
      rw [hname] at hlength
      simp at hlength
  · rw [hup] at hlength
    simp at hlength

/-- The last piece of a path that ends like that of a module. -/
theorem exists_pieces_append_ts (path : String) :
    ∃ before last, pieces (path ++ ".ts") = before ++ [last ++ ".ts"] ∧ Plain (last ++ ".ts") := by
  obtain ⟨before, last, hpieces⟩ : ∃ before last, pieces path = before ++ [last] :=
    ⟨_, _, (List.dropLast_append_getLast (pieces_ne_nil path)).symm⟩
  have hlast : '/' ∉ last.toList := notMem_of_mem_pieces (by rw [hpieces]; simp)
  exact ⟨before, last, pieces_append_of_notMem hpieces (by decide), plain_append_ts hlast⟩

theorem fileName?_append_ts (path : String) :
    ∃ name, fileName? (path ++ ".ts") = some (name ++ ".ts") := by
  obtain ⟨before, last, hpieces, hlast⟩ := exists_pieces_append_ts path
  exact ⟨last, fileName?_of_pieces hpieces hlast⟩

/-- A file that is named like a module is not taken for a manifest. -/
theorem isManifest_of_append_ts {path name : String}
    (h : fileName? path = some (name ++ ".ts")) : isManifest path = false := by
  have hlast : (name ++ ".ts").toList.reverse = 's' :: 't' :: '.' :: name.toList.reverse := by
    simp
  unfold isManifest
  rw [h]
  simp only [manifestSuffixes, List.any_cons, List.any_nil, Bool.or_false, List.isSuffixOf, hlast]
  rfl

/-- The extension of a file that is named like a module. -/
theorem extension?_of_append_ts {path name : String}
    (h : fileName? path = some (name ++ ".ts")) :
    extension? path = some "ts" ∨ extension? path = none := by
  have hending : Text.splitLast? (· = '.') (name ++ ".ts").toList =
      some (name.toList, '.', ['t', 's']) := by
    simp [Text.splitLast?, Text.afterLast]
  unfold extension?
  rw [h]
  simp only [bind, Option.bind, hending]
  split
  · exact .inr rfl
  · exact .inl rfl

end SchemaGen.Path
