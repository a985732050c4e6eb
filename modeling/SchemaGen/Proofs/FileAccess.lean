import SchemaGen.FileSystem.Access
import SchemaGen.Proofs.PathPieces
import SchemaGen.Proofs.Results

/-!
# Where paths lead

A path leads to a location if every piece that it passes leaves from a directory.  So only the
directories of a file system decide where paths lead, and a path keeps its location as long as
they stay.

* `foldlM_follow_mono`: following pieces in a file system that has the same directories and more.
* `Placed`: a path that names a place for a file in a directory that is there, with
  `placed_of_pieces`.
* `putFile_placed`, `stat_placed`: storing and looking at such a place.
* `placed_of_putFile`: files are only put at such places.
* `isDirectory_of_makeDirectories`: what has been made is a directory.
-/

namespace SchemaGen

namespace FileSystem

variable {fs fs' : FileSystem}

/-! ## Following pieces -/

/-- Where a piece leads from a directory. -/
def beyond (here : Location) (piece : String) : Location :=
  if Path.isIdle piece then here else if piece = ".." then here.dropLast else here ++ [piece]

/-- A name that is neither idle nor up leads to what has it. -/
theorem beyond_eq_concat {name : String} (hidle : Path.isIdle name = false) (hup : name ≠ "..")
    (here : Location) : beyond here name = here ++ [name] := by
  unfold beyond
  rw [hidle, if_neg Bool.false_ne_true, if_neg hup]

theorem follow_of_directory {here : Location} (h : fs.entryAt? here = some .directory)
    (piece : String) : fs.follow here piece = .ok (beyond here piece) := by
  simp only [follow, h, beyond]
  split
  · rfl
  · split <;> rfl

theorem follow_eq_ok {here there : Location} {piece : String} :
    fs.follow here piece = .ok there ↔
      fs.entryAt? here = some .directory ∧ there = beyond here piece := by
  constructor
  · intro h
    rcases hentry : fs.entryAt? here with _ | _ | content
    · simp [follow, hentry] at h
    · rw [follow_of_directory hentry, Except.ok.injEq] at h
      exact ⟨rfl, h.symm⟩
    · simp [follow, hentry] at h
  · rintro ⟨h, rfl⟩
    exact follow_of_directory h piece

theorem foldlM_follow_append {names more : List String} {here there : Location} :
    (names ++ more).foldlM fs.follow here = .ok there ↔
      ∃ between, names.foldlM fs.follow here = .ok between ∧
        more.foldlM fs.follow between = .ok there := by
  rw [List.foldlM_append, bind_eq_ok]

theorem foldlM_follow_cons {name : String} {more : List String} {here there : Location} :
    (name :: more).foldlM fs.follow here = .ok there ↔
      fs.entryAt? here = some .directory ∧
        more.foldlM fs.follow (beyond here name) = .ok there := by
  rw [List.foldlM_cons, bind_eq_ok]
  constructor
  · rintro ⟨between, hfollow, h⟩
    obtain ⟨hentry, rfl⟩ := follow_eq_ok.mp hfollow
    exact ⟨hentry, h⟩
  · rintro ⟨hentry, h⟩
    exact ⟨_, follow_of_directory hentry name, h⟩

/-- What leads to a location still does where all directories have stayed. -/
theorem foldlM_follow_mono
    (hdir : ∀ l, fs.entryAt? l = some .directory → fs'.entryAt? l = some .directory)
    {names : List String} {here there : Location} (h : names.foldlM fs.follow here = .ok there) :
    names.foldlM fs'.follow here = .ok there := by
  induction names generalizing here with
  | nil => exact h
  | cons name names ih =>
    obtain ⟨hentry, h⟩ := foldlM_follow_cons.mp h
    exact foldlM_follow_cons.mpr ⟨hdir here hentry, ih h⟩

/-- Idle pieces lead nowhere else. -/
theorem foldlM_follow_idle {names : List String} (hidle : ∀ n ∈ names, Path.isIdle n = true)
    {here there : Location} (h : names.foldlM fs.follow here = .ok there) : there = here := by
  induction names generalizing here with
  | nil => exact (Except.ok.inj h).symm
  | cons name names ih =>
    obtain ⟨-, h⟩ := foldlM_follow_cons.mp h
    have hname : beyond here name = here := if_pos (hidle name (List.mem_cons_self ..))
    rw [hname] at h
    exact ih (fun n hn => hidle n (List.mem_cons_of_mem _ hn)) h

theorem foldlM_follow_idle_of_directory {names : List String}
    (hidle : ∀ n ∈ names, Path.isIdle n = true) {here : Location}
    (h : fs.entryAt? here = some .directory) : names.foldlM fs.follow here = .ok here := by
  induction names with
  | nil => rfl
  | cons name names ih =>
    have hname : beyond here name = here := if_pos (hidle name (List.mem_cons_self ..))
    refine foldlM_follow_cons.mpr ⟨h, ?_⟩
    rw [hname]
    exact ih fun n hn => hidle n (List.mem_cons_of_mem _ hn)

/-! ## Paths -/

theorem start_eq (hdir : fs'.workingDirectory = fs.workingDirectory) (path : String) :
    fs'.start path = fs.start path := by
  unfold start
  rw [hdir]

theorem start_of_not_isRooted {path : String} (h : Path.isRooted path = false) :
    fs.start path = fs.workingDirectory := by
  unfold start
  rw [h, if_neg Bool.false_ne_true]

theorem start_of_isRooted_eq {path other : String} (h : Path.isRooted path = Path.isRooted other) :
    fs.start path = fs.start other := by
  unfold start
  rw [h]

theorem locate_eq_ok {path : String} {l : Location} :
    fs.locate path = .ok l ↔
      path ≠ "" ∧ (Path.pieces path).foldlM fs.follow (fs.start path) = .ok l := by
  unfold locate
  split
  · next h => simp [h]
  · next h => simp [h]

theorem stat_eq_ok {path : String} {e : Entry} :
    fs.stat path = .ok e ↔ ∃ l, fs.locate path = .ok l ∧ fs.entryAt? l = some e := by
  unfold stat
  cases fs.locate path with
  | error _ => simp
  | ok l =>
    cases hentry : fs.entryAt? l with
    | none => simp [hentry]
    | some e' => simp [hentry]

theorem exists_iff {path : String} : fs.exists path = true ↔ ∃ e, fs.stat path = .ok e := by
  unfold «exists»
  cases fs.stat path <;> simp

theorem isFile_iff {path : String} :
    fs.isFile path = true ↔ ∃ content, fs.stat path = .ok (.file content) := by
  unfold isFile
  rcases fs.stat path with _ | _ | _ <;> simp

theorem isDirectory_iff {path : String} :
    fs.isDirectory path = true ↔ fs.stat path = .ok .directory := by
  unfold isDirectory
  rcases fs.stat path with _ | _ | _ <;> simp

theorem isFile_of_isDirectory {path : String} (h : fs.isDirectory path = true) :
    fs.isFile path = false := by
  unfold isFile
  rw [isDirectory_iff.mp h]

theorem isDirectory_of_exists {path : String} (h : fs.exists path = true)
    (hfile : fs.isFile path = false) : fs.isDirectory path = true := by
  obtain ⟨e, hstat⟩ := exists_iff.mp h
  cases e with
  | directory => exact isDirectory_iff.mpr hstat
  | file content =>
    rw [isFile_iff.mpr ⟨content, hstat⟩] at hfile
    exact absurd hfile (by decide)

theorem readText_eq_ok {path text : String} :
    fs.readText path = .ok text ↔
      ∃ content, fs.stat path = .ok (.file content) ∧ String.fromUTF8? content = some text := by
  unfold readText read
  rcases fs.stat path with e | _ | content
  · simp
  · simp
  · cases htext : String.fromUTF8? content with
    | none =>
      simp [htext]
    | some text' => simp [htext]

/-- A file is read where its path leads. -/
theorem read_eq_ok {path : String} {bytes : ByteArray} :
    fs.read path = .ok bytes ↔
      ∃ l, fs.locate path = .ok l ∧ fs.entryAt? l = some (.file bytes) := by
  unfold read
  rw [bind_eq_ok]
  constructor
  · rintro ⟨entry, hstat, hentry⟩
    cases entry with
    | directory => simp at hentry
    | file content =>
      obtain rfl := Except.ok.inj hentry
      exact stat_eq_ok.mp hstat
  · rintro hfile
    exact ⟨_, stat_eq_ok.mpr hfile, rfl⟩

/-! ## Places for files -/

/-- A path that names a place for a file at a location: in a directory that is there, so that
nothing has to be made before the file. -/
structure Placed (fs : FileSystem) (path : String) (l : Location) : Prop where
  slot : ∃ slot, fs.slot? path = .ok (some slot) ∧ slot.slashed = false ∧ slot.location = l
  locate : fs.locate path = .ok l
  above : ∀ parent, Path.parent? path = some parent → parent = "" ∨ fs.exists parent = true

theorem Placed.ne_nil {path : String} {l : Location} (h : fs.Placed path l) : l ≠ [] := by
  obtain ⟨slot, -, -, rfl⟩ := h.slot
  exact List.concat_ne_nil _ _

theorem slot?_of_ne_empty {path : String} (hpath : path ≠ "") :
    fs.slot? path =
      match (Path.pieces path).reverse.dropWhile (· = "") with
      | [] => .ok none
      | name :: before =>
        match before.reverse.foldlM fs.follow (fs.start path) with
        | .error e => .error e
        | .ok directory =>
          match fs.entryAt? directory with
          | none => .error .notFound
          | some (.file _) => .error .notADirectory
          | some .directory =>
            if name = "." || name = ".." then .ok none
            else .ok (some ⟨directory, name, path.toList.getLast? = some '/'⟩) := by
  unfold slot?
  rw [if_neg hpath]
  rcases (Path.pieces path).reverse.dropWhile (· = "") with _ | ⟨name, before⟩
  · rfl
  · rcases hbefore : before.reverse.foldlM fs.follow (fs.start path) with e | directory
    · simp [hbefore]
    · rcases hentry : fs.entryAt? directory with _ | _ | content <;> simp [hbefore, hentry]

/-- The slot of a path whose last piece is plain. -/
theorem slot?_of_pieces {path name : String} {before : List String} {directory : Location}
    (h : Path.pieces path = before ++ [name]) (hname : Path.Plain name)
    (hbefore : before.foldlM fs.follow (fs.start path) = .ok directory)
    (hdir : fs.entryAt? directory = some .directory) :
    path ≠ "" ∧ fs.slot? path = .ok (some ⟨directory, name, false⟩) := by
  have hpath : path ≠ "" := by
    rintro rfl
    have hlast := congrArg List.getLast? (Path.pieces_empty.symm.trans h)
    simp only [List.getLast?_singleton, List.getLast?_concat, Option.some.injEq] at hlast
    exact hname.ne_empty hlast.symm
  have hslashed := Path.getLast?_ne_of_pieces h hname.ne_empty
  have hdrop : (Path.pieces path).reverse.dropWhile (· = "") = name :: before.reverse := by
    rw [h, List.reverse_append, List.reverse_singleton, List.singleton_append,
      List.dropWhile_cons_of_neg (by simpa using hname.ne_empty)]
  have hidle := hname.idle
  simp only [Path.isIdle, Bool.or_eq_false_iff, decide_eq_false_iff_not] at hidle
  refine ⟨hpath, ?_⟩
  rw [slot?_of_ne_empty hpath, hdrop]
  simp only [List.reverse_reverse, hbefore, hdir]
  simp [hidle.2, hname.up, hslashed]

/-- A plain name after pieces that lead to a directory is placed there. -/
theorem placed_of_pieces {path name : String} {before : List String} {directory : Location}
    (h : Path.pieces path = before ++ [name]) (hname : Path.Plain name)
    (hbefore : before.foldlM fs.follow (fs.start path) = .ok directory)
    (hdir : fs.entryAt? directory = some .directory) :
    fs.Placed path (directory ++ [name]) := by
  obtain ⟨hpath, hslot⟩ := slot?_of_pieces h hname hbefore hdir
  refine ⟨⟨_, hslot, rfl, rfl⟩, ?_, ?_⟩
  · refine locate_eq_ok.mpr ⟨hpath, ?_⟩
    rw [h]
    refine foldlM_follow_append.mpr ⟨directory, hbefore, foldlM_follow_cons.mpr ⟨hdir, ?_⟩⟩
    rw [beyond_eq_concat hname.idle hname.up]
    rfl
  · intro parent hparent
    cases before with
    | nil =>
      have hpath : path = name := by
        rw [← Path.intercalate_pieces path, h, List.nil_append, String.intercalate_singleton]
      rw [hpath, Path.parent?_of_notMem hname] at hparent
      exact .inl (Option.some.inj hparent).symm
    | cons first before =>
      right
      obtain ⟨parent', kept, idle, hparent', hne, hrooted, hkept, hidle, hpieces⟩ :=
        Path.parent?_of_pieces h hname.idle
      obtain rfl := Option.some.inj (hparent.symm.trans hparent')
      rw [hkept] at hbefore
      obtain ⟨between, hbetween, hrest⟩ := foldlM_follow_append.mp hbefore
      obtain rfl := foldlM_follow_idle hidle hrest
      refine exists_iff.mpr ⟨.directory, stat_eq_ok.mpr ⟨directory, ?_, hdir⟩⟩
      refine locate_eq_ok.mpr ⟨hne, ?_⟩
      rw [start_of_isRooted_eq hrooted]
      rcases hpieces with hpieces | ⟨hroot, hpieces⟩
      · rw [hpieces]
        exact hbetween
      · -- The path above is the root, whose text has an empty piece on either side.
        have hsplit : Path.pieces parent = kept ++ [""] := by rw [hpieces, hroot]; rfl
        rw [hsplit]
        exact foldlM_follow_append.mpr
          ⟨directory, hbetween, foldlM_follow_idle_of_directory (by simp [Path.isIdle]) hdir⟩

/-- A file is put at its place unless a directory is there. -/
theorem putFile_placed {path : String} {l : Location} (h : fs.Placed path l)
    (content : ByteArray) :
    fs.putFile path content =
      if fs.entryAt? l = some .directory then .error .isADirectory
      else .ok (fs.put l (.file content)) := by
  obtain ⟨slot, hslot, hslashed, rfl⟩ := h.slot
  unfold putFile
  rw [hslot]
  rcases hentry : fs.entryAt? slot.location with _ | _ | _ <;>
    simp [hslashed, hentry]

/-- What is at the place of a file. -/
theorem stat_placed {path : String} {l : Location} (h : fs.Placed path l) :
    fs.stat path = match fs.entryAt? l with
      | some e => .ok e
      | none => .error .notFound := by
  unfold stat
  rw [h.locate]
  cases hentry : fs.entryAt? l <;>
    simp [hentry]

/-- The file at a place is read there. -/
theorem read_placed {path : String} {l : Location} (h : fs.Placed path l) {bytes : ByteArray} :
    fs.read path = .ok bytes ↔ fs.entryAt? l = some (.file bytes) := by
  unfold read
  rw [stat_placed h]
  rcases hentry : fs.entryAt? l with _ | _ | _ <;>
    simp

/-! ## Made directories -/

/-- What the slot of a path says about its pieces. -/
theorem of_slot?_eq_some {path : String} {slot : Slot} (h : fs.slot? path = .ok (some slot)) :
    path ≠ "" ∧ slot.slashed = decide (path.toList.getLast? = some '/') ∧
      ∃ before empties, Path.pieces path = before ++ slot.name :: empties ∧
      (∀ n ∈ empties, n = "") ∧
      before.foldlM fs.follow (fs.start path) = .ok slot.directory ∧
      fs.entryAt? slot.directory = some .directory ∧ Path.isIdle slot.name = false ∧
      slot.name ≠ ".." := by
  have hpath : path ≠ "" := by
    rintro rfl
    simp [slot?] at h
  refine ⟨hpath, ?_⟩
  rw [slot?_of_ne_empty hpath] at h
  have hsplit := List.takeWhile_append_dropWhile (p := fun n : String => decide (n = ""))
    (l := (Path.pieces path).reverse)
  have hhead := List.head?_dropWhile_not (fun n : String => decide (n = ""))
    (Path.pieces path).reverse
  rcases hdrop : (Path.pieces path).reverse.dropWhile (· = "") with _ | ⟨name, before⟩
  · rw [hdrop] at h
    simp at h
  · rw [hdrop] at h hsplit hhead
    have hpieces := congrArg List.reverse hsplit
    rw [List.reverse_reverse, List.reverse_append, List.reverse_cons, List.append_assoc,
      List.singleton_append] at hpieces
    have hname : name ≠ "" := by simpa using hhead
    rcases hbefore : before.reverse.foldlM fs.follow (fs.start path) with e | directory
    · simp only [hbefore, reduceCtorEq] at h
    · rcases hentry : fs.entryAt? directory with _ | _ | content
      · simp only [hbefore, hentry, reduceCtorEq] at h
      · simp only [hbefore, hentry] at h
        split at h
        · simp at h
        · next hdots =>
          obtain rfl := Option.some.inj (Except.ok.inj h)
          simp only [Bool.or_eq_true, decide_eq_true_eq, not_or] at hdots
          refine ⟨rfl, _, _, hpieces.symm, fun n hn => ?_, hbefore, hentry, ?_, hdots.2⟩
          · have hn := List.mem_takeWhile_imp (List.mem_reverse.mp hn)
            simpa only [decide_eq_true_eq] using hn
          · simp [Path.isIdle, hname, hdots.1]
      · simp only [hbefore, hentry, reduceCtorEq] at h

/-- What a path names as new can stand in a directory, and the path leads to a directory before
it. -/
theorem plain_of_slot? {path : String} {slot : Slot} (h : fs.slot? path = .ok (some slot)) :
    Path.Plain slot.name ∧ fs.entryAt? slot.directory = some .directory := by
  obtain ⟨-, -, before, empties, hpieces, -, -, hdirectory, hidle, hup⟩ := of_slot?_eq_some h
  have hslash : '/' ∉ slot.name.toList := Path.notMem_of_mem_pieces (by rw [hpieces]; simp)
  exact ⟨⟨hslash, hidle, hup⟩, hdirectory⟩

/-- A file that is put somewhere is put where its path leads, which is in a directory and is not
one itself. -/
theorem placed_of_putFile {path : String} {content : ByteArray}
    (h : fs.putFile path content = .ok fs') :
    ∃ l, fs.Placed path l ∧ fs.entryAt? l ≠ some .directory ∧
      fs' = fs.put l (.file content) := by
  have hput := h
  unfold putFile at hput
  obtain ⟨slot?, hslot, hput⟩ := bind_eq_ok.mp hput
  cases slot? with
  | none => simp at hput
  | some slot =>
    obtain ⟨-, hslashed, before, empties, hpieces, hempties, hbefore, hdir, -, -⟩ :=
      of_slot?_eq_some hslot
    rcases List.eq_nil_or_concat' empties with rfl | ⟨front, last, rfl⟩
    · have hplaced := placed_of_pieces hpieces (plain_of_slot? hslot).1 hbefore hdir
      rw [putFile_placed hplaced] at h
      split at h
      · simp at h
      · next hnot => exact ⟨_, hplaced, hnot, (Except.ok.inj h).symm⟩
    · -- A path that goes on after the name ends in a slash, and no file is put there.
      have hlast : last = "" := hempties last (by simp)
      rw [hlast, ← List.cons_append, ← List.append_assoc] at hpieces
      rw [Path.getLast?_eq_of_pieces (by simp) hpieces] at hslashed
      simp [hslashed] at hput

/-- A directory is made where nothing was, and its path leads there. -/
theorem of_makeDirectory_eq_ok {path : String} (h : fs.makeDirectory path = .ok fs') :
    ∃ l, l ≠ [] ∧ fs.entryAt? l = none ∧ fs' = fs.put l .directory ∧ fs'.locate path = .ok l := by
  unfold makeDirectory at h
  obtain ⟨slot?, hslot, h⟩ := bind_eq_ok.mp h
  cases slot? with
  | none => simp at h
  | some slot =>
    cases hentry : fs.entryAt? slot.location with
    | some e => simp [hentry] at h
    | none =>
      simp only [hentry, pure_eq_ok, Except.ok.injEq] at h
      subst h
      obtain ⟨hpath, -, before, empties, hpieces, hempties, hbefore, hdir, hidle, hup⟩ :=
        of_slot?_eq_some hslot
      have hempties : ∀ n ∈ empties, Path.isIdle n = true := by
        intro n hn
        rw [hempties n hn]
        rfl
      have hne : slot.location ≠ [] := List.concat_ne_nil _ _
      have hput : (fs.put slot.location .directory).entryAt? slot.location = some .directory := by
        rw [entryAt?_put hne, if_pos rfl]
      have hkept : ∀ l, fs.entryAt? l = some .directory →
          (fs.put slot.location .directory).entryAt? l = some .directory := by
        intro l hl
        rw [entryAt?_put hne]
        split
        · rfl
        · exact hl
      have hbeyond : beyond slot.directory slot.name = slot.location :=
        beyond_eq_concat hidle hup slot.directory
      refine ⟨slot.location, hne, hentry, rfl, locate_eq_ok.mpr ⟨hpath, ?_⟩⟩
      rw [hpieces]
      refine foldlM_follow_append.mpr ⟨slot.directory, foldlM_follow_mono hkept hbefore, ?_⟩
      refine foldlM_follow_cons.mpr ⟨hkept _ hdir, ?_⟩
      rw [hbeyond]
      exact foldlM_follow_idle_of_directory hempties hput

/-- A directory that has been made is there. -/
theorem isDirectory_of_makeDirectory {path : String} (h : fs.makeDirectory path = .ok fs') :
    fs'.isDirectory path = true := by
  obtain ⟨l, hne, -, rfl, hlocate⟩ := of_makeDirectory_eq_ok h
  have hput : (fs.put l .directory).entryAt? l = some .directory := by
    rw [entryAt?_put hne, if_pos rfl]
  exact isDirectory_iff.mpr (stat_eq_ok.mpr ⟨l, hlocate, hput⟩)

/-- A directory that has been made with those above it is there.  For the empty path nothing is
made. -/
theorem isDirectory_of_makeDirectories {path : String}
    (h : fs.makeDirectories path = (.ok (), fs')) : path = "" ∨ fs'.isDirectory path = true := by
  unfold makeDirectories makeDirectoriesWithin at h
  simp only at h
  split at h
  · next hpath => exact .inl hpath
  · right
    split at h
    · next hmade =>
      obtain rfl := (Prod.mk.inj h).2
      exact isDirectory_of_makeDirectory hmade
    · split at h
      · simp at h
      · split at h
        · simp at h
        · split at h
          · next hmade =>
            obtain rfl := (Prod.mk.inj h).2
            exact isDirectory_of_makeDirectory hmade
          · split at h
            · next hthere =>
              obtain rfl := (Prod.mk.inj h).2
              exact hthere
            · simp at h
    · split at h
      · next hthere =>
        obtain rfl := (Prod.mk.inj h).2
        exact hthere
      · simp at h

end FileSystem

end SchemaGen
