import SchemaGen.Proofs.FileGrowth

/-!
# How a folder grows

What the output folder does to the files, whether it succeeds or fails on the way: preparing it
makes the folder and those above it, and storing a module puts one file where its path leads, after
the directories above.  A name without slashes leads to a location directly in the folder, and
once the folder is there nothing is made above such a name.

* `OutputFolder.IsAt`: the location of a folder, with `OutputFolder.isAt_of_locate_join`.
* `OutputFolder.grown_prepared`, `OutputFolder.grown_stored`: preparing, and storing a module.
* `OutputFolder.exists_made_of_stored`: what storing one more module does to the files.
* `OutputFolder.Ready`: a folder that is there, with `OutputFolder.Ready.grown_stored`.
* `OutputFolder.grown_treatedAll`: storing modules, one after the other.
-/

namespace SchemaGen.OutputFolder

open FileSystem

variable {fs fs' : FileSystem} {dir : String} {dirs files : String → Prop}

/-! ## Names in a folder -/

/-- The location of a folder: where its path leads, or, for the empty path, where all paths
begin. -/
def IsAt (fs : FileSystem) (dir : String) (base : Location) : Prop :=
  if dir = "" then base = fs.workingDirectory else fs.locate dir = .ok base

theorem isAt_empty {base : Location} : IsAt fs "" base ↔ base = fs.workingDirectory := by
  unfold IsAt
  rw [if_pos rfl]

theorem isAt_of_ne_empty {base : Location} (hdir : dir ≠ "") :
    IsAt fs dir base ↔ fs.locate dir = .ok base := by
  unfold IsAt
  rw [if_neg hdir]

/-- A plain name in a folder leads to a location directly in it. -/
theorem isAt_of_locate_join {name : String} {l : Location} (hname : Path.Plain name)
    (h : fs.locate (Path.join dir name) = .ok l) :
    ∃ base, IsAt fs dir base ∧ l = base ++ [name] := by
  have hpieces : Path.pieces name = [name] := Path.pieces_of_notMem hname.slash
  obtain ⟨-, h⟩ := locate_eq_ok.mp h
  by_cases hdir : dir = ""
  · subst hdir
    rw [Path.join_empty, hpieces, start_of_not_isRooted hname.isRooted] at h
    obtain ⟨-, h⟩ := foldlM_follow_cons.mp h
    rw [beyond_eq_concat hname.idle hname.up] at h
    exact ⟨fs.workingDirectory, isAt_empty.mpr rfl, (Except.ok.inj h).symm⟩
  · obtain ⟨before, hjoin, hbefore⟩ := exists_foldlM_join hname.isRooted hdir
    rw [hjoin, hpieces] at h
    obtain ⟨base, hbase, h⟩ := foldlM_follow_append.mp h
    obtain ⟨hentry, h⟩ := foldlM_follow_cons.mp h
    rw [beyond_eq_concat hname.idle hname.up] at h
    exact ⟨base, (isAt_of_ne_empty hdir).mpr ((hbefore base hentry).mp hbase),
      (Except.ok.inj h).symm⟩

/-! ## Preparing and storing -/

/-- Preparing a folder makes it and those above it, in a mode that stores modules. -/
theorem grown_prepared (dir : String) (mode : Mode) (fs : FileSystem) :
    Grown (fun above => mode = .write ∧ Path.AtOrAbove above dir) noPath fs
      (prepared dir mode fs).2 := by
  unfold prepared
  split
  · next hwrite =>
    exact (grown_makeDirectories fs dir).mono (fun _ habove => ⟨hwrite.1, habove⟩) fun _ => id
  · exact .refl _ _ fs

/-- Storing a module makes at most directories above it before the file. -/
theorem grown_parentMade (path : String) (fs : FileSystem) :
    Grown (Path.AtOrAbove · path) noPath fs (parentMade path fs).2 := by
  unfold parentMade
  split
  · exact .refl _ _ fs
  · next parent hparent =>
    split
    · exact .refl _ _ fs
    · exact (grown_makeDirectories fs parent).mono (fun _ habove => habove.up hparent) fun _ => id

/-- Storing a module puts a file where its path leads, after whatever directories are made above,
even if it fails. -/
theorem grown_stored_of_parentMade {path : String}
    (hparent : Grown dirs noPath fs (parentMade path fs).2) (content : String) :
    Grown dirs (· = path) fs (stored path content fs).2 := by
  have habove : Grown dirs (· = path) fs (parentMade path fs).2 :=
    hparent.mono (fun _ => id) fun _ => False.elim
  rcases hstored : stored path content fs with ⟨_ | t, files⟩
  · rw [of_stored_eq_error hstored]
    exact habove
  · obtain ⟨-, made, hmade, hput⟩ := of_stored_eq_ok hstored
    rw [hmade] at habove
    exact habove.trans (grown_putFile hput)

theorem grown_stored (path content : String) (fs : FileSystem) :
    Grown (Path.AtOrAbove · path) (· = path) fs (stored path content fs).2 :=
  grown_stored_of_parentMade (grown_parentMade _ fs) content

/-- A module is stored by making directories at most and then putting its file where its path
leads. -/
theorem exists_made_of_stored {path content : String} {t : Treatment}
    (h : stored path content fs = (.ok t, fs')) :
    t = .written path content.utf8ByteSize ∧
      ∃ made l, Grown (Path.AtOrAbove · path) noPath fs made ∧ made.Placed path l ∧
        made.entryAt? l ≠ some .directory ∧ fs' = made.put l (.file content.toUTF8) := by
  obtain ⟨ht, made, hmade, hput⟩ := of_stored_eq_ok h
  obtain ⟨l, hplaced, hdir, hfiles⟩ := placed_of_putFile hput
  have hgrown := grown_parentMade path fs
  rw [hmade] at hgrown
  exact ⟨ht, made, l, hgrown, hplaced, hdir, hfiles⟩

/-! ## Folders that are there -/

/-- A folder that modules can be put into as it is. -/
def Ready (fs : FileSystem) (dir : String) : Prop :=
  dir = "" ∨ fs.isDirectory dir = true

theorem Ready.grown (h : Ready fs dir) (hgrown : Grown dirs files fs fs') : Ready fs' dir :=
  h.imp_right hgrown.isDirectory

/-- Nothing is made above a plain name in a folder that is ready. -/
theorem Ready.parentMade {name : String} (h : Ready fs dir) (hname : Path.Plain name) :
    (parentMade (Path.join dir name) fs).2 = fs := by
  rcases h with rfl | hdir
  · rw [Path.join_empty]
    exact parentMade_of_plain hname
  · obtain ⟨base, hbased, hentry⟩ := based_of_isDirectory hdir
    obtain ⟨before, hpieces, hbefore, -⟩ := hbased name hname.isRooted
    rw [Path.pieces_of_notMem hname.slash] at hpieces
    rw [parentMade_of_above (placed_of_pieces hpieces hname hbefore hentry).above]

/-- Storing a module with a plain name in a folder that is ready makes no directory. -/
theorem Ready.grown_stored {stem : String} (h : Ready fs dir) (hstem : '/' ∉ stem.toList)
    (content : String) :
    Grown noPath (· = Path.join dir (stem ++ ".ts")) fs
      (stored (Path.join dir (stem ++ ".ts")) content fs).2 := by
  refine grown_stored_of_parentMade ?_ content
  rw [h.parentMade (Path.plain_append_ts hstem)]
  exact .refl _ _ fs

/-- What storing each module does, storing all of them does, up to the first that fails. -/
theorem grown_treatedAll {modules : List (String × String)}
    (hstep : ∀ m ∈ modules, ∀ fs, Ready fs dir →
      Grown dirs files fs (stored (Path.join dir m.1) m.2 fs).2)
    (hready : Ready fs dir) : Grown dirs files fs (treatedAll dir .write modules fs).2.2 := by
  -- The folder stays ready, since whatever a module does to the files, directories stay.
  induction modules generalizing fs with
  | nil => exact .refl _ _ fs
  | cons m modules ih =>
    have hfirst : Grown dirs files fs (treated (Path.join dir m.1) m.2 .write fs).2 :=
      hstep m (List.mem_cons_self ..) fs hready
    rcases htreated : treated (Path.join dir m.1) m.2 .write fs with ⟨_ | t, files⟩
    · rw [htreated] at hfirst
      rw [treatedAll_cons_error _ htreated]
      exact hfirst
    · rw [htreated] at hfirst
      rw [treatedAll_cons_ok _ htreated]
      exact hfirst.trans (ih (fun n hn => hstep n (List.mem_cons_of_mem _ hn))
        (hready.grown hfirst))

end SchemaGen.OutputFolder
