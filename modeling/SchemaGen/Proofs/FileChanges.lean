import SchemaGen.Proofs.FileAccess

/-!
# Files that change while directories stay

A run that stores modules makes and replaces files, and once its folder is there it makes no
directory.  `SameBut p` is what can be said of the file systems before and after: they differ in
files at locations of the class `p` only.

* `SameBut`: the relation, with `sameBut_put` for a single file, `SameBut.refl` and
  `SameBut.trans`.
* `SameBut.locate_iff`, `SameBut.isDirectory_eq`: paths lead where they led.
* `SameBut.stat_iff`, `SameBut.readText`: what is not at a location of the class stays the same.
* `SameFiles`: file systems that have the same at every location.
-/

namespace SchemaGen

namespace Assoc

variable {κ ν : Type} [LT κ] [DecidableLT κ] [DecidableEq κ]

/-- A `put` does not show where its key is left out. -/
theorem filter_put {p : κ → Bool} {key : κ} (h : p key = true) (value : ν) (l : List (κ × ν)) :
    (put key value l).filter (fun e => !p e.1) = l.filter fun e => !p e.1 := by
  induction l with
  | nil => simp [put, h]
  | cons e l ih =>
    obtain ⟨k, v⟩ := e
    unfold put
    split
    · next hk =>
      subst hk
      simp [h]
    · split
      · simp [h]
      · rw [List.filter_cons, List.filter_cons, ih]

end Assoc

namespace FileSystem

/-- The file systems differ only in files at locations of the class `p`: there, a file may have
come to be where nothing was, or have another content. -/
structure SameBut (p : Location → Bool) (fs fs' : FileSystem) : Prop where
  workingDirectory : fs'.workingDirectory = fs.workingDirectory
  entry : ∀ l, fs'.entryAt? l = fs.entryAt? l ∨
    p l = true ∧ fs.entryAt? l ≠ some .directory ∧
      ∃ content, fs'.entryAt? l = some (.file content)
  entries : fs'.entries.filter (fun e => !p e.1) = fs.entries.filter fun e => !p e.1

variable {p : Location → Bool} {fs fs' fs'' : FileSystem}

namespace SameBut

theorem refl (p : Location → Bool) (fs : FileSystem) : SameBut p fs fs :=
  ⟨rfl, fun _ => .inl rfl, rfl⟩

theorem directory_iff (h : SameBut p fs fs') {l : Location} :
    fs'.entryAt? l = some .directory ↔ fs.entryAt? l = some .directory := by
  rcases h.entry l with hl | ⟨-, hdir, content, hl⟩
  · rw [hl]
  · rw [hl]
    simp [hdir]

theorem trans (h : SameBut p fs fs') (h' : SameBut p fs' fs'') : SameBut p fs fs'' := by
  refine ⟨h'.workingDirectory.trans h.workingDirectory, fun l => ?_, h'.entries.trans h.entries⟩
  rcases h'.entry l with hl | ⟨hp, hdir, content, hl⟩
  · rw [hl]
    exact h.entry l
  · exact .inr ⟨hp, fun hfs => hdir (h.directory_iff.mpr hfs), content, hl⟩

/-- Elsewhere nothing has changed. -/
theorem entryAt?_eq (h : SameBut p fs fs') {l : Location} (hl : p l = false) :
    fs'.entryAt? l = fs.entryAt? l := by
  rcases h.entry l with heq | ⟨hp, -⟩
  · exact heq
  · rw [hl] at hp
    exact Bool.noConfusion hp

/-- What was there is there. -/
theorem isSome_entryAt? (h : SameBut p fs fs') {l : Location} {e : Entry}
    (hl : fs.entryAt? l = some e) : ∃ e', fs'.entryAt? l = some e' := by
  rcases h.entry l with heq | ⟨-, -, content, hfile⟩
  · exact ⟨e, heq.trans hl⟩
  · exact ⟨_, hfile⟩

/-! ## Looking -/

theorem foldlM_follow_iff (h : SameBut p fs fs') {names : List String} {here there : Location} :
    names.foldlM fs'.follow here = .ok there ↔ names.foldlM fs.follow here = .ok there :=
  ⟨foldlM_follow_mono fun _ => h.directory_iff.mp, foldlM_follow_mono fun _ => h.directory_iff.mpr⟩

/-- Paths lead where they led. -/
theorem locate_iff (h : SameBut p fs fs') {path : String} {l : Location} :
    fs'.locate path = .ok l ↔ fs.locate path = .ok l := by
  rw [locate_eq_ok, locate_eq_ok, start_eq h.workingDirectory, h.foldlM_follow_iff]

theorem isDirectory_eq (h : SameBut p fs fs') (path : String) :
    fs'.isDirectory path = fs.isDirectory path := by
  rw [Bool.eq_iff_iff, isDirectory_iff, isDirectory_iff, stat_eq_ok, stat_eq_ok]
  constructor
  · rintro ⟨l, hl, hentry⟩
    exact ⟨l, h.locate_iff.mp hl, h.directory_iff.mp hentry⟩
  · rintro ⟨l, hl, hentry⟩
    exact ⟨l, h.locate_iff.mpr hl, h.directory_iff.mpr hentry⟩

theorem «exists» (h : SameBut p fs fs') {path : String} (hpath : fs.exists path = true) :
    fs'.exists path = true := by
  obtain ⟨e, he⟩ := exists_iff.mp hpath
  obtain ⟨l, hl, hentry⟩ := stat_eq_ok.mp he
  obtain ⟨e', he'⟩ := h.isSome_entryAt? hentry
  exact exists_iff.mpr ⟨e', stat_eq_ok.mpr ⟨l, h.locate_iff.mpr hl, he'⟩⟩

/-- A path that does not lead to a location of the class leads to what it led to. -/
theorem stat_iff (h : SameBut p fs fs') {path : String}
    (hp : ∀ l, fs.locate path = .ok l → p l = false) {e : Entry} :
    fs'.stat path = .ok e ↔ fs.stat path = .ok e := by
  rw [stat_eq_ok, stat_eq_ok]
  refine exists_congr fun l => ?_
  rw [h.locate_iff]
  refine and_congr_right fun hlocate => ?_
  rw [h.entryAt?_eq (hp l hlocate)]

/-- What a path that leads to something leads to, file or directory, is still of that kind. -/
theorem isFile_eq (h : SameBut p fs fs') {path : String} (hpath : fs.exists path = true) :
    fs'.isFile path = fs.isFile path := by
  obtain ⟨e, he⟩ := exists_iff.mp hpath
  obtain ⟨e', he'⟩ := exists_iff.mp (h.exists hpath)
  have hdir := h.isDirectory_eq path
  unfold isFile isDirectory at *
  rw [he, he'] at *
  cases e <;> cases e' <;> simp_all

/-- A text that is not at a location of the class stays the same. -/
theorem readText (h : SameBut p fs fs') {path text : String} {l : Location}
    (hlocate : fs.locate path = .ok l) (hl : p l = false) (htext : fs.readText path = .ok text) :
    fs'.readText path = .ok text := by
  obtain ⟨content, hstat, hdecode⟩ := readText_eq_ok.mp htext
  have hp : ∀ l', fs.locate path = .ok l' → p l' = false := by
    intro l' hlocate'
    rwa [← Except.ok.inj (hlocate.symm.trans hlocate')]
  exact readText_eq_ok.mpr ⟨content, (h.stat_iff hp).mpr hstat, hdecode⟩

end SameBut

/-! ## Storing one file -/

/-- Storing a file that takes no directory's place changes nothing else. -/
theorem sameBut_put {l : Location} (hp : p l = true) (hne : l ≠ [])
    (hdir : fs.entryAt? l ≠ some .directory) (content : ByteArray) :
    SameBut p fs (fs.put l (.file content)) := by
  refine ⟨rfl, fun other => ?_, Assoc.filter_put hp _ _⟩
  rw [entryAt?_put hne]
  by_cases hother : other = l
  · subst hother
    rw [if_pos rfl]
    exact .inr ⟨hp, hdir, content, rfl⟩
  · rw [if_neg hother]
    exact .inl rfl

/-- A place for a file stays one. -/
theorem Placed.mono {path : String} {l : Location} (hplaced : fs.Placed path l)
    (h : SameBut p fs fs') : fs'.Placed path l := by
  obtain ⟨slot, hslot, hslashed, hl⟩ := hplaced.slot
  refine ⟨⟨slot, ?_, hslashed, hl⟩, h.locate_iff.mpr hplaced.locate, fun parent hparent => ?_⟩
  · have hpath : path ≠ "" := (locate_eq_ok.mp hplaced.locate).1
    rw [slot?_of_ne_empty hpath] at hslot ⊢
    cases hdrop : (Path.pieces path).reverse.dropWhile (· = "") with
    | nil =>
      rw [hdrop] at hslot
      exact hslot
    | cons name before =>
      rw [hdrop] at hslot
      simp only at hslot ⊢
      rcases hbefore : before.reverse.foldlM fs.follow (fs.start path) with e | directory
      · simp only [hbefore, reduceCtorEq] at hslot
      · rw [start_eq h.workingDirectory, h.foldlM_follow_iff.mpr hbefore]
        rcases hentry : fs.entryAt? directory with _ | _ | content
        · simp only [hbefore, hentry, reduceCtorEq] at hslot
        · simp only [hbefore, hentry] at hslot
          simp only [h.directory_iff.mpr hentry]
          exact hslot
        · simp only [hbefore, hentry, reduceCtorEq] at hslot
  · rcases hplaced.above parent hparent with hempty | hexists
    · exact .inl hempty
    · exact .inr (h.exists hexists)

/-! ## File systems that cannot be told apart -/

/-- The file systems have the same at every location, and paths begin at the same one. -/
structure SameFiles (fs fs' : FileSystem) : Prop where
  workingDirectory : fs'.workingDirectory = fs.workingDirectory
  entryAt? : ∀ l, fs'.entryAt? l = fs.entryAt? l

theorem SameFiles.refl (fs : FileSystem) : SameFiles fs fs :=
  ⟨rfl, fun _ => rfl⟩

theorem SameFiles.trans (h : SameFiles fs fs') (h' : SameFiles fs' fs'') : SameFiles fs fs'' :=
  ⟨h'.workingDirectory.trans h.workingDirectory, fun l => (h'.entryAt? l).trans (h.entryAt? l)⟩

/-- Storing what is there already changes nothing. -/
theorem sameFiles_put {l : Location} {e : Entry} (hne : l ≠ []) (h : fs.entryAt? l = some e) :
    SameFiles fs (fs.put l e) := by
  refine ⟨rfl, fun other => ?_⟩
  rw [entryAt?_put hne]
  split
  · next hother => rw [hother, h]
  · rfl

end FileSystem

end SchemaGen
