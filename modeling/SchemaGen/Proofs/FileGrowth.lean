import Mathlib.Logic.Relation
import SchemaGen.Proofs.FolderNames

/-!
# File systems that grow

Whatever a run does, and wherever it stops, it makes directories where nothing was, and makes or
replaces files.  It removes nothing, and a directory stays one.  So paths keep leading where they
led, and what has been made can be told by the paths that lead to it afterwards.

* `Path.AtOrAbove`: a path and those above it.
* `FileSystem.Grown`: the relation, with `Grown.refl`, `Grown.trans` and `Grown.mono`.
* `FileSystem.Grown.locate`, `FileSystem.Grown.isDirectory`: paths lead where they led.
* `FileSystem.makeDirectoriesWithin_preserves`: what stays true while directories are made.
* `FileSystem.grown_makeDirectories`: directories are made at and above a path only.
* `FileSystem.grown_putFile`: a file is put where its path leads.
-/

namespace SchemaGen

/-- A path is reached from another by going up, any number of times. -/
def Path.AtOrAbove (above path : String) : Prop :=
  Relation.ReflTransGen (fun parent path => Path.parent? path = some parent) above path

theorem Path.AtOrAbove.up {above parent path : String} (h : AtOrAbove above parent)
    (hparent : Path.parent? path = some parent) : AtOrAbove above path :=
  Relation.ReflTransGen.tail h hparent

namespace FileSystem

/-- The file system has grown: directories have come to be where nothing was, at locations that
paths of the class `dirs` lead to, and files have been made or replaced at locations that paths of
the class `files` lead to. -/
structure Grown (dirs files : String → Prop) (fs fs' : FileSystem) : Prop where
  workingDirectory : fs'.workingDirectory = fs.workingDirectory
  entry : ∀ l, fs'.entryAt? l = fs.entryAt? l ∨
    (fs.entryAt? l = none ∧ fs'.entryAt? l = some .directory ∧
      ∃ path, dirs path ∧ fs'.locate path = .ok l) ∨
    (fs.entryAt? l ≠ some .directory ∧ (∃ content, fs'.entryAt? l = some (.file content)) ∧
      ∃ path, files path ∧ fs'.locate path = .ok l)

variable {dirs files dirs' files' : String → Prop} {fs fs' fs'' : FileSystem}

/-- No path. -/
def noPath (_ : String) : Prop :=
  False

namespace Grown

theorem refl (dirs files : String → Prop) (fs : FileSystem) : Grown dirs files fs fs :=
  ⟨rfl, fun _ => .inl rfl⟩

theorem mono (h : Grown dirs files fs fs') (hdirs : ∀ path, dirs path → dirs' path)
    (hfiles : ∀ path, files path → files' path) : Grown dirs' files' fs fs' := by
  refine ⟨h.workingDirectory, fun l => ?_⟩
  rcases h.entry l with hl | ⟨hnone, hmade, path, hpath, hlocate⟩ |
    ⟨hdir, hfile, path, hpath, hlocate⟩
  · exact .inl hl
  · exact .inr (.inl ⟨hnone, hmade, path, hdirs path hpath, hlocate⟩)
  · exact .inr (.inr ⟨hdir, hfile, path, hfiles path hpath, hlocate⟩)

/-! ## What stays -/

/-- A directory stays one. -/
theorem directory (h : Grown dirs files fs fs') {l : Location}
    (hl : fs.entryAt? l = some .directory) : fs'.entryAt? l = some .directory := by
  rcases h.entry l with heq | ⟨hnone, -, -⟩ | ⟨hdir, -, -⟩
  · exact heq.trans hl
  · rw [hl] at hnone
    simp at hnone
  · exact absurd hl hdir

/-- A file stays one. -/
theorem file (h : Grown dirs files fs fs') {l : Location} {content : ByteArray}
    (hl : fs.entryAt? l = some (.file content)) :
    ∃ content', fs'.entryAt? l = some (.file content') := by
  rcases h.entry l with heq | ⟨hnone, -, -⟩ | ⟨-, hfile, -⟩
  · exact ⟨content, heq.trans hl⟩
  · rw [hl] at hnone
    simp at hnone
  · exact hfile

/-- Paths lead where they led. -/
theorem locate (h : Grown dirs files fs fs') {path : String} {l : Location}
    (hl : fs.locate path = .ok l) : fs'.locate path = .ok l := by
  obtain ⟨hne, hpieces⟩ := locate_eq_ok.mp hl
  refine locate_eq_ok.mpr ⟨hne, ?_⟩
  rw [start_eq h.workingDirectory]
  exact foldlM_follow_mono (fun _ => h.directory) hpieces

theorem isDirectory (h : Grown dirs files fs fs') {path : String}
    (hpath : fs.isDirectory path = true) : fs'.isDirectory path = true := by
  obtain ⟨l, hlocate, hl⟩ := stat_eq_ok.mp (isDirectory_iff.mp hpath)
  exact isDirectory_iff.mpr (stat_eq_ok.mpr ⟨l, h.locate hlocate, h.directory hl⟩)

theorem trans (h : Grown dirs files fs fs') (h' : Grown dirs files fs' fs'') :
    Grown dirs files fs fs'' := by
  refine ⟨h'.workingDirectory.trans h.workingDirectory, fun l => ?_⟩
  rcases h'.entry l with hl | ⟨hnone, hmade, hpath⟩ | ⟨hdir, hfile, hpath⟩
  · rcases h.entry l with hl' | ⟨hnone, hmade, path, hpath, hlocate⟩ |
      ⟨hdir, hfile, path, hpath, hlocate⟩
    · exact .inl (hl.trans hl')
    · exact .inr (.inl ⟨hnone, hl.trans hmade, path, hpath, h'.locate hlocate⟩)
    · exact .inr (.inr ⟨hdir, hl ▸ hfile, path, hpath, h'.locate hlocate⟩)
  · -- What is made a directory last has not been there before either.
    refine .inr (.inl ⟨?_, hmade, hpath⟩)
    rcases h.entry l with hl' | ⟨-, hmade', -⟩ | ⟨-, ⟨content, hfile⟩, -⟩
    · exact hl'.symm.trans hnone
    · simp [hmade'] at hnone
    · simp [hfile] at hnone
  · exact .inr (.inr ⟨fun hfs => hdir (h.directory hfs), hfile, hpath⟩)

/-- Where no file is made or replaced, all files stay what they are. -/
theorem file_iff (h : Grown dirs noPath fs fs') {l : Location} {content : ByteArray} :
    fs'.entryAt? l = some (.file content) ↔ fs.entryAt? l = some (.file content) := by
  rcases h.entry l with heq | ⟨hnone, hmade, -⟩ | ⟨-, -, path, hpath, -⟩
  · rw [heq]
  · simp [hnone, hmade]
  · exact hpath.elim

end Grown

/-! ## Single steps -/

/-- A directory put where nothing was, at the end of a path. -/
theorem grown_put_directory {path : String} {l : Location} (hne : l ≠ [])
    (hnone : fs.entryAt? l = none) (hlocate : (fs.put l .directory).locate path = .ok l)
    (hpath : dirs path) : Grown dirs files fs (fs.put l .directory) := by
  refine ⟨rfl, fun other => ?_⟩
  rw [entryAt?_put hne]
  by_cases hother : other = l
  · subst hother
    rw [if_pos rfl]
    exact .inr (.inl ⟨hnone, rfl, path, hpath, hlocate⟩)
  · rw [if_neg hother]
    exact .inl rfl

/-- A file put where no directory is, at the end of a path. -/
theorem grown_put_file {path : String} {l : Location} (hplaced : fs.Placed path l)
    (hdir : fs.entryAt? l ≠ some .directory) (content : ByteArray) (hpath : files path) :
    Grown dirs files fs (fs.put l (.file content)) := by
  have hput := sameBut_put (p := fun _ => true) rfl hplaced.ne_nil hdir content
  refine ⟨rfl, fun other => ?_⟩
  by_cases hother : other = l
  · subst hother
    refine .inr (.inr ⟨hdir, ⟨content, ?_⟩, path, hpath, hput.locate_iff.mpr hplaced.locate⟩)
    rw [entryAt?_put hplaced.ne_nil, if_pos rfl]
  · rw [entryAt?_put hplaced.ne_nil, if_neg hother]
    exact .inl rfl

theorem grown_makeDirectory {path : String} (h : fs.makeDirectory path = .ok fs')
    (hpath : dirs path) : Grown dirs files fs fs' := by
  obtain ⟨l, hne, hnone, rfl, hlocate⟩ := of_makeDirectory_eq_ok h
  exact grown_put_directory hne hnone hlocate hpath

/-! ## Directories with those above them -/

/-- What stays true of the files whenever a directory at or above a path is made stays true when the
path is made with those above it, even if that fails at last. -/
theorem makeDirectoriesWithin_preserves {p : FileSystem → Prop} (depth : Nat) {path : String}
    (h : p fs) (hstep : ∀ above fs fs', Path.AtOrAbove above path → p fs →
      fs.makeDirectory above = .ok fs' → p fs') :
    p (makeDirectoriesWithin depth fs path).2 := by
  induction depth generalizing path with
  | zero => exact h
  | succ depth ih =>
    have hself : Path.AtOrAbove path path := .refl
    unfold makeDirectoriesWithin
    simp only
    split
    · exact h
    · split
      · next hmade => exact hstep path fs _ hself h hmade
      · split
        · exact h
        · next parent hparent =>
          -- The directories above have been made, all or some, before the path is tried again.
          have habove := ih fun above fs fs' hup => hstep above fs fs' (hup.up hparent)
          split
          · next hparents =>
            rw [hparents] at habove
            exact habove
          · next hparents =>
            rw [hparents] at habove
            split
            · next hmade => exact hstep path _ _ hself habove hmade
            · split <;> exact habove
      · split <;> exact h

/-- Making a directory with those above it makes no other, even if it fails at last. -/
theorem grown_makeDirectoriesWithin (depth : Nat) (fs : FileSystem) (path : String) :
    Grown (Path.AtOrAbove · path) noPath fs (makeDirectoriesWithin depth fs path).2 :=
  makeDirectoriesWithin_preserves depth (.refl _ _ fs)
    fun _ _ _ habove hgrown hmade => hgrown.trans (grown_makeDirectory hmade habove)

theorem grown_makeDirectories (fs : FileSystem) (path : String) :
    Grown (Path.AtOrAbove · path) noPath fs (fs.makeDirectories path).2 :=
  grown_makeDirectoriesWithin _ fs path

/-- A file that is put somewhere is put where its path leads. -/
theorem grown_putFile {path : String} {content : ByteArray}
    (h : fs.putFile path content = .ok fs') :
    Grown dirs (· = path) fs fs' := by
  obtain ⟨l, hplaced, hdir, rfl⟩ := placed_of_putFile h
  exact grown_put_file hplaced hdir content rfl

end FileSystem

end SchemaGen
