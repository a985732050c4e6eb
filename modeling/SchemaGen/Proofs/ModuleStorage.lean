import SchemaGen.Proofs.Effect
import SchemaGen.Proofs.FileChanges

/-!
# Storing, previewing and comparing modules

What the output folder does with modules, as functions of the files.

* `OutputFolder.prepared`, `OutputFolder.treated`, `OutputFolder.treatedAll`: the effects.
* `OutputFolder.of_stored_eq_ok`, `OutputFolder.of_stored_eq_error`: what storing a module does.
* `OutputFolder.treatedAll_cons_eq_ok`: what it is to treat one more module.
* `OutputFolder.ends_prepare`, `OutputFolder.ends_treat`, `OutputFolder.ends_put`: the folder has
  these effects.
-/

namespace SchemaGen

open FileSystem

/-- The bytes of a text are read as that text. -/
theorem fromUTF8?_toUTF8 (text : String) : String.fromUTF8? text.toUTF8 = some text := by
  unfold String.fromUTF8?
  rw [String.toUTF8_eq_toByteArray, dif_pos text.isValidUTF8]
  rfl

/-- Only the bytes of a text are read as it. -/
theorem fromUTF8?_eq_some {bytes : ByteArray} {text : String} :
    String.fromUTF8? bytes = some text ↔ bytes = text.toUTF8 := by
  constructor
  · intro h
    unfold String.fromUTF8? at h
    split at h
    · obtain rfl := Option.some.inj h
      rfl
    · simp at h
  · rintro rfl
    exact fromUTF8?_toUTF8 text

namespace OutputFolder

/-! ## Effects -/

/-- The folder made, if something is going to be stored and it is not there. -/
def prepared (dir : String) (mode : Mode) (fs : FileSystem) : Except WriteError Unit × FileSystem :=
  if mode = .write ∧ fs.isDirectory dir = false then
    ((fs.makeDirectories dir).1.mapError (.notMade dir), (fs.makeDirectories dir).2)
  else (.ok (), fs)

theorem prepared_of_ne_write {dir : String} {mode : Mode} (hmode : mode ≠ .write)
    (fs : FileSystem) : prepared dir mode fs = (.ok (), fs) := by
  unfold prepared
  rw [if_neg fun h => hmode h.1]

theorem prepared_of_isDirectory {dir : String} {fs : FileSystem}
    (hdir : fs.isDirectory dir = true) (mode : Mode) :
    prepared dir mode fs = (.ok (), fs) := by
  unfold prepared
  rw [if_neg fun h => Bool.false_ne_true (h.2.symm.trans hdir)]

/-- The directory above a path made, if it is not there. -/
def parentMade (path : String) (fs : FileSystem) : Except WriteError Unit × FileSystem :=
  match Path.parent? path with
  | none => (.ok (), fs)
  | some parent =>
    if fs.exists parent then (.ok (), fs)
    else ((fs.makeDirectories parent).1.mapError (.notMade parent), (fs.makeDirectories parent).2)

/-- A module stored. -/
def stored (path content : String) (fs : FileSystem) :
    Except WriteError Treatment × FileSystem :=
  match parentMade path fs with
  | (.error e, fs) => (.error e, fs)
  | (.ok (), fs) =>
    match fs.putFile path content.toUTF8 with
    | .error e => (.error (.notWritten path e), fs)
    | .ok fs => (.ok (.written path content.utf8ByteSize), fs)

/-- A module is stored if the directory above its file can be made, and then the file. -/
theorem of_stored_eq_ok {path content : String} {t : Treatment} {fs fs' : FileSystem}
    (h : stored path content fs = (.ok t, fs')) :
    t = .written path content.utf8ByteSize ∧ ∃ made, parentMade path fs = (.ok (), made) ∧
      made.putFile path content.toUTF8 = .ok fs' := by
  unfold stored at h
  rcases hmade : parentMade path fs with ⟨_ | _, made⟩
  · simp [hmade] at h
  · rw [hmade] at h
    simp only at h
    cases hput : made.putFile path content.toUTF8 with
    | error e =>
      rw [hput] at h
      exact nomatch h
    | ok files =>
      rw [hput] at h
      obtain ⟨ht, rfl⟩ := Prod.mk.inj h
      exact ⟨(Except.ok.inj ht).symm, made, rfl, hput⟩

/-- If a module is not stored, nothing more than the directory above its file has been made. -/
theorem of_stored_eq_error {path content : String} {e : WriteError} {fs fs' : FileSystem}
    (h : stored path content fs = (.error e, fs')) : fs' = (parentMade path fs).2 := by
  unfold stored at h
  rcases hmade : parentMade path fs with ⟨_ | _, made⟩
  · rw [hmade] at h
    exact (Prod.mk.inj h).2.symm
  · rw [hmade] at h
    simp only at h
    cases hput : made.putFile path content.toUTF8 with
    | error e =>
      rw [hput] at h
      exact (Prod.mk.inj h).2.symm
    | ok files =>
      rw [hput] at h
      exact nomatch h

/-- A module compared with the file that belongs to it. -/
def compared (path content : String) (fs : FileSystem) : Except WriteError Treatment :=
  if fs.exists path then
    match fs.readText path with
    | .error e => .error (.notRead path e)
    | .ok text => .ok (if text = content then .unchanged path else .stale path .outdated)
  else .ok (.stale path .missing)

/-- A module treated as the mode says. -/
def treated (path content : String) (mode : Mode) (fs : FileSystem) :
    Except WriteError Treatment × FileSystem :=
  match mode with
  | .write => stored path content fs
  | .dryRun => (.ok (.previewed path content), fs)
  | .check => (compared path content fs, fs)

/-- A treatment tells the path that has been treated. -/
theorem path_of_treated {path content : String} {mode : Mode} {t : Treatment}
    {fs fs' : FileSystem} (h : treated path content mode fs = (.ok t, fs')) : t.path = path := by
  cases mode with
  | write =>
    obtain ⟨rfl, -⟩ := of_stored_eq_ok h
    rfl
  | dryRun =>
    obtain rfl := Except.ok.inj (Prod.mk.inj h).1
    rfl
  | check =>
    have h := (Prod.mk.inj h).1
    unfold compared at h
    split at h
    · split at h
      · simp at h
      · obtain rfl := Except.ok.inj h
        split <;> rfl
    · obtain rfl := Except.ok.inj h
      rfl

/-- Modules treated one after the other, up to the first that fails: whether all succeeded, what
was done, and the files. -/
def treatedAll (dir : String) (mode : Mode) : List (String × String) → FileSystem →
    Except WriteError Unit × List Treatment × FileSystem
  | [], fs => (.ok (), [], fs)
  | (name, content) :: rest, fs =>
    match treated (Path.join dir name) content mode fs with
    | (.error e, fs) => (.error e, [], fs)
    | (.ok t, fs) =>
      ((treatedAll dir mode rest fs).1, t :: (treatedAll dir mode rest fs).2.1,
        (treatedAll dir mode rest fs).2.2)

theorem treatedAll_cons_ok {dir : String} {mode : Mode} {m : String × String} {t : Treatment}
    {fs files : FileSystem} (modules : List (String × String))
    (h : treated (Path.join dir m.1) m.2 mode fs = (.ok t, files)) :
    treatedAll dir mode (m :: modules) fs =
      ((treatedAll dir mode modules files).1, t :: (treatedAll dir mode modules files).2.1,
        (treatedAll dir mode modules files).2.2) := by
  rw [treatedAll, h]

theorem treatedAll_cons_error {dir : String} {mode : Mode} {m : String × String} {e : WriteError}
    {fs files : FileSystem} (modules : List (String × String))
    (h : treated (Path.join dir m.1) m.2 mode fs = (.error e, files)) :
    treatedAll dir mode (m :: modules) fs = (.error e, [], files) := by
  rw [treatedAll, h]

/-- Modules are treated if the first is treated and then the others. -/
theorem treatedAll_cons_eq_ok {dir : String} {mode : Mode} {m : String × String}
    {modules : List (String × String)} {fs fs' : FileSystem} {results : List Treatment} :
    treatedAll dir mode (m :: modules) fs = (.ok (), results, fs') ↔
      ∃ t files rest, treated (Path.join dir m.1) m.2 mode fs = (.ok t, files) ∧
        treatedAll dir mode modules files = (.ok (), rest, fs') ∧ results = t :: rest := by
  constructor
  · intro h
    rcases htreated : treated (Path.join dir m.1) m.2 mode fs with ⟨_ | t, files⟩
    · simp [treatedAll_cons_error _ htreated] at h
    · rw [treatedAll_cons_ok _ htreated] at h
      obtain ⟨hok, h⟩ := Prod.mk.inj h
      obtain ⟨hresults, hfs⟩ := Prod.mk.inj h
      exact ⟨t, files, _, rfl, Prod.ext hok (Prod.ext rfl hfs), hresults.symm⟩
  · rintro ⟨t, files, rest, htreated, hrest, rfl⟩
    rw [treatedAll_cons_ok _ htreated, hrest]

/-- Without storing, treating modules leaves the files alone. -/
theorem treatedAll_of_ne_write {dir : String} {mode : Mode} (hmode : mode ≠ .write)
    (modules : List (String × String)) (fs : FileSystem) :
    (treatedAll dir mode modules fs).2.2 = fs := by
  induction modules with
  | nil => rfl
  | cons m modules ih =>
    have hfirst : (treated (Path.join dir m.1) m.2 mode fs).2 = fs := by
      cases mode with
      | write => exact absurd rfl hmode
      | dryRun => rfl
      | check => rfl
    rcases htreated : treated (Path.join dir m.1) m.2 mode fs with ⟨_ | t, files⟩
    · rw [htreated] at hfirst
      rw [treatedAll_cons_error _ htreated]
      exact hfirst
    · rw [htreated] at hfirst
      obtain rfl : files = fs := hfirst
      rw [treatedAll_cons_ok _ htreated]
      exact ih

theorem ends_prepare (dir : String) (mode : Mode) (fs : FileSystem) :
    (prepare dir mode).Ends fs (prepared dir mode fs) := by
  unfold prepare prepared
  refine (Job.ends_inspect _ fs).bind ?_
  by_cases hmode : mode = .write
  · cases hdir : fs.isDirectory dir with
    | true => simpa [hmode, hdir] using Job.ends_pure () fs
    | false =>
      have hmake := Job.ends_makeDirectories (WriteError.notMade dir) dir fs
      simp only [hmode, decide_true, Bool.true_and, Bool.not_false, if_true, and_self]
      rcases hmade : fs.makeDirectories dir with ⟨_ | _, files⟩
      · rw [hmade] at hmake
        exact hmake.bind_error
      · rw [hmade] at hmake
        exact hmake.bind (Job.ends_report _ files)
  · simpa [hmode] using Job.ends_pure () fs

theorem ends_store (path content : String) (fs : FileSystem) :
    (store path content).Ends fs (stored path content fs) := by
  have hput : ∀ fs : FileSystem, Job.Ends (do
      Job.change (WriteError.notWritten path) fun fs => fs.putFile path content.toUTF8
      pure (Treatment.written path content.utf8ByteSize)) fs
      (match fs.putFile path content.toUTF8 with
        | .error e => (.error (.notWritten path e), fs)
        | .ok fs => (.ok (.written path content.utf8ByteSize), fs)) := by
    intro fs
    have hchange := Job.ends_change (WriteError.notWritten path)
      (fun fs => fs.putFile path content.toUTF8) fs
    cases hfile : fs.putFile path content.toUTF8 with
    | error e =>
      rw [hfile] at hchange
      exact hchange.bind_error
    | ok files =>
      rw [hfile] at hchange
      exact hchange.bind (Job.ends_pure _ files)
  unfold store stored parentMade
  cases Path.parent? path with
  | none => exact hput fs
  | some parent =>
    refine (Job.ends_inspect _ fs).bind ?_
    cases hexists : fs.exists parent with
    | true => simpa [hexists] using hput fs
    | false =>
      have hmake := Job.ends_makeDirectories (WriteError.notMade parent) parent fs
      simp only [Bool.not_false, if_true, hexists, Bool.false_eq_true, if_false]
      rcases hmade : fs.makeDirectories parent with ⟨_ | _, files⟩
      · rw [hmade] at hmake
        exact hmake.bind_error
      · rw [hmade] at hmake
        exact hmake.bind (hput files)

theorem ends_compare (path content : String) (fs : FileSystem) :
    (compare path content).Ends fs (compared path content fs, fs) := by
  unfold compare compared
  refine (Job.ends_inspect _ fs).bind ?_
  cases hexists : fs.exists path with
  | false => simpa [hexists] using Job.ends_pure (Treatment.stale path .missing) fs
  | true =>
    have haccess := Job.ends_access (WriteError.notRead path) (fun fs => fs.readText path) fs
    simp only [Bool.not_true, Bool.false_eq_true, if_false, if_true]
    cases htext : fs.readText path with
    | error e =>
      rw [htext] at haccess
      exact haccess.bind_error
    | ok text =>
      rw [htext] at haccess
      exact haccess.bind (Job.ends_pure _ fs)

theorem ends_treat (path content : String) (mode : Mode) (fs : FileSystem) :
    (treat path content mode).Ends fs (treated path content mode fs) := by
  cases mode with
  | write => exact ends_store path content fs
  | dryRun => exact Job.ends_pure _ fs
  | check => exact ends_compare path content fs

/-- A module that is put into the folder. -/
theorem ends_put (name content : String) (folder : OutputFolder) (fs : FileSystem) :
    (put name content).Ends folder fs
      (match treated (Path.join folder.dir name) content folder.mode fs with
        | (.error e, fs) => (.error e, folder, fs)
        | (.ok t, fs) => (.ok t, { folder with results := folder.results ++ [t] }, fs)) := by
  have htreat := Storing.ends_storing
    (ends_treat (Path.join folder.dir name) content folder.mode fs) folder
  unfold put
  refine (Storing.ends_getThe folder fs).bind ?_
  rcases htreated : treated (Path.join folder.dir name) content folder.mode fs with ⟨_ | t, files⟩
  · rw [htreated] at htreat
    exact htreat.bind_error
  · rw [htreated] at htreat
    refine htreat.bind ((Storing.ends_report _ folder files).bind ?_)
    exact (Storing.ends_modifyThe _ folder files).bind (Storing.ends_pure t _ files)

end OutputFolder

end SchemaGen
