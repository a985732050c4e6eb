import SchemaGen.Manifest.Loading
import SchemaGen.Proofs.Effect
import SchemaGen.Proofs.FileChanges

/-!
# The manifests of a run and what they hold

Loading manifests looks at the file system and leaves it as it is.  What is loaded depends on the
directories and on the contents of the manifests.  None of them has a name that ends like that of a
generated module, so a run that stores modules does not change what the next run loads.

* `Manifest.loaded`: the objects of manifests, as a function of the files; `ends_loadAll`.
* `isModuleLocation`, with `isModuleLocation_of_locate` and `isModuleLocation_of_isManifest`: where a
  module could be, and which paths do not lead there.
* `Manifest.loaded_of_sameBut`: what has been loaded once is loaded again.
-/

namespace SchemaGen

namespace Job

/-- A loop of jobs that leave the files is a loop of functions of the files. -/
theorem ends_foldlM {ε α β : Type} {fs : FileSystem} {step : β → α → Job ε β}
    {step' : β → α → Except ε β} (h : ∀ b a, (step b a).Ends fs (step' b a, fs)) (l : List α)
    (init : β) : Job.Ends (l.foldlM step init) fs (l.foldlM step' init, fs) := by
  induction l generalizing init with
  | nil => exact ends_pure init fs
  | cons a l ih =>
    rw [List.foldlM_cons, List.foldlM_cons]
    have hstep := h init a
    cases hb : step' init a with
    | ok b =>
      rw [hb] at hstep
      exact hstep.bind (ih b)
    | error e =>
      rw [hb] at hstep
      exact hstep.bind_error

end Job

namespace Manifest

variable {fs fs' : FileSystem}

/-! ## Loading as a function of the files -/

/-- The objects of one file. -/
def loadedFrom (fs : FileSystem) (path : String) : Except ManifestError (List Dto) :=
  match Format.ofPath? path with
  | none => .error (.unsupportedFormat path)
  | some format => do
    let text ← (fs.readText path).mapError (.unreadable path)
    parse path text format

/-- The objects of a file after those of earlier ones. -/
def loadedNext (fs : FileSystem) (known : List Entry) (path : String) :
    Except ManifestError (List Entry) := do
  (← loadedFrom fs path).foldlM (addDto path) known

/-- The objects of all manifests. -/
def loaded (fs : FileSystem) (paths : List String) : Except ManifestError (List Dto) :=
  (paths.foldlM (loadedNext fs) []).map fun entries => entries.map Entry.dto

theorem ends_load (path : String) (fs : FileSystem) :
    (load path).Ends fs (loadedFrom fs path, fs) := by
  unfold load loadedFrom
  cases Format.ofPath? path with
  | none => exact Job.ends_throw _ fs
  | some format =>
    have haccess := Job.ends_access (ManifestError.unreadable path)
      (fun fs => fs.readText path) fs
    cases htext : fs.readText path with
    | error e =>
      rw [htext] at haccess
      exact haccess.bind_error
    | ok text =>
      rw [htext] at haccess
      exact haccess.bind (Job.ends_ofExcept (parse path text format) fs)

theorem ends_loadNext (known : List Entry) (path : String) (fs : FileSystem) :
    (loadNext known path).Ends fs (loadedNext fs known path, fs) := by
  have hload := ends_load path fs
  unfold loadNext loadedNext
  cases hdtos : loadedFrom fs path with
  | error e =>
    rw [hdtos] at hload
    exact hload.bind_error
  | ok dtos =>
    rw [hdtos] at hload
    exact hload.bind ((Job.ends_report _ fs).bind (Job.ends_ofExcept _ fs))

/-- Loading leaves the files as they are. -/
theorem ends_loadAll (paths : List String) (fs : FileSystem) :
    (loadAll paths).Ends fs (loaded fs paths, fs) := by
  have hfold := Job.ends_foldlM (fun known path => ends_loadNext known path fs) paths []
  unfold loadAll loaded
  cases hentries : paths.foldlM (loadedNext fs) [] with
  | error e =>
    rw [hentries] at hfold
    exact hfold.bind_error
  | ok entries =>
    rw [hentries] at hfold
    exact hfold.bind (Job.ends_pure _ fs)

end Manifest

/-! ## Stored modules do not change what is loaded -/

/-- Whether the last name on the way to a location ends like that of a generated module. -/
def isModuleLocation (l : Location) : Bool :=
  match l.getLast? with
  | some name => ".ts".toList.isSuffixOf name.toList
  | none => false

theorem isModuleLocation_concat (directory : Location) (name : String) :
    isModuleLocation (directory ++ [name]) = ".ts".toList.isSuffixOf name.toList := by
  unfold isModuleLocation
  rw [List.getLast?_concat]

theorem isModuleLocation_iff {l : Location} :
    isModuleLocation l = true ↔ ∃ directory name, l = directory ++ [name ++ ".ts"] := by
  unfold isModuleLocation
  cases hlast : l.getLast? with
  | none =>
    rw [List.getLast?_eq_none_iff] at hlast
    subst hlast
    simp
  | some last =>
    obtain ⟨directory, rfl⟩ := List.getLast?_eq_some_iff.mp hlast
    constructor
    · intro h
      obtain ⟨front, hfront⟩ := List.isSuffixOf_iff_suffix.mp h
      refine ⟨directory, String.ofList front, ?_⟩
      have htext : last = String.ofList front ++ ".ts" := by
        rw [← String.toList_inj, ← hfront]
        simp
      rw [htext]
    · rintro ⟨directory', name, h⟩
      have htext : last = name ++ ".ts" :=
        List.singleton_inj.mp (List.append_inj_right' h rfl)
      rw [htext, List.isSuffixOf_iff_suffix, String.toList_append]
      exact List.suffix_append _ _

namespace FileSystem

/-- A path with a file name leads to a location whose last name it is. -/
theorem exists_of_locate {fs : FileSystem} {path name : String} {l : Location}
    (hname : Path.fileName? path = some name) (h : fs.locate path = .ok l) :
    ∃ directory, l = directory ++ [name] := by
  obtain ⟨before, idle, hpieces, hidle, hnidle, hup⟩ := Path.of_fileName?_eq_some hname
  obtain ⟨-, h⟩ := locate_eq_ok.mp h
  rw [hpieces] at h
  obtain ⟨directory, -, h⟩ := foldlM_follow_append.mp h
  obtain ⟨-, h⟩ := foldlM_follow_cons.mp h
  exact ⟨directory, (foldlM_follow_idle hidle h).trans (beyond_eq_concat hnidle hup directory)⟩

end FileSystem

variable {fs fs' : FileSystem}

/-- Only the last name of a path tells whether it leads to where a module could be. -/
theorem isModuleLocation_of_locate {path name : String} {l : Location}
    (hname : Path.fileName? path = some name) (h : fs.locate path = .ok l) :
    isModuleLocation l = ".ts".toList.isSuffixOf name.toList := by
  obtain ⟨directory, rfl⟩ := FileSystem.exists_of_locate hname h
  exact isModuleLocation_concat directory name

/-- A path that leads to where a module could be has the last name of a module, if it has one. -/
theorem fileName?_of_isModuleLocation {path name : String} {l : Location}
    (hname : Path.fileName? path = some name) (h : fs.locate path = .ok l)
    (hmodule : isModuleLocation l = true) :
    ∃ stem, Path.fileName? path = some (stem ++ ".ts") := by
  obtain ⟨directory, rfl⟩ := FileSystem.exists_of_locate hname h
  obtain ⟨directory', stem, hl⟩ := isModuleLocation_iff.mp hmodule
  exact ⟨stem, hname.trans (congrArg some (List.singleton_inj.mp (List.append_inj_right' hl rfl)))⟩

/-- A path that is taken for that of a manifest does not lead to where a module could be. -/
theorem isModuleLocation_of_isManifest {path : String} {l : Location}
    (hmanifest : Path.isManifest path = true) (h : fs.locate path = .ok l) :
    isModuleLocation l = false := by
  obtain ⟨name, hname, -⟩ := Path.isManifest_iff.mp hmanifest
  by_contra hmodule
  rw [Bool.not_eq_false] at hmodule
  obtain ⟨stem, hstem⟩ := fileName?_of_isModuleLocation hname h hmodule
  rw [Path.isManifest_of_append_ts hstem] at hmanifest
  exact Bool.false_ne_true hmanifest

namespace Manifest

/-- A path with the extension of a manifest does not lead to where a module could be. -/
theorem isModuleLocation_of_ofPath? {path : String} {format : Format} {l : Location}
    (hformat : Format.ofPath? path = some format) (h : fs.locate path = .ok l) :
    isModuleLocation l = false := by
  have hextension : ∃ ending, Path.extension? path = some ending ∧ ending ≠ "ts" := by
    unfold Format.ofPath? at hformat
    split at hformat
    · exact ⟨_, by assumption, by decide⟩
    · exact ⟨_, by assumption, by decide⟩
    · simp at hformat
  obtain ⟨ending, hending, hne⟩ := hextension
  cases hname : Path.fileName? path with
  | none => simp [Path.extension?, hname] at hending
  | some name =>
    by_contra hmodule
    rw [Bool.not_eq_false] at hmodule
    obtain ⟨stem, hstem⟩ := fileName?_of_isModuleLocation hname h hmodule
    rcases Path.extension?_of_append_ts hstem with hts | hnone
    · exact hne (Option.some.inj (hending.symm.trans hts))
    · rw [hnone] at hending
      simp at hending

theorem loadedFrom_of_sameBut (h : FileSystem.SameBut isModuleLocation fs fs') {path : String}
    {dtos : List Dto} (hdtos : loadedFrom fs path = .ok dtos) :
    loadedFrom fs' path = .ok dtos := by
  unfold loadedFrom at hdtos ⊢
  cases hformat : Format.ofPath? path with
  | none => simp [hformat] at hdtos
  | some format =>
    rw [hformat] at hdtos
    obtain ⟨text, htext, hparse⟩ := bind_eq_ok.mp hdtos
    cases hread : fs.readText path with
    | error e => simp [hread, Except.mapError] at htext
    | ok text' =>
      rw [hread] at htext
      obtain rfl : text' = text := Except.ok.inj htext
      obtain ⟨content, hstat, -⟩ := FileSystem.readText_eq_ok.mp hread
      obtain ⟨l, hlocate, -⟩ := FileSystem.stat_eq_ok.mp hstat
      have hread' := h.readText hlocate (isModuleLocation_of_ofPath? hformat hlocate) hread
      refine bind_eq_ok.mpr ⟨text', ?_, hparse⟩
      rw [hread']
      rfl

/-- What has been loaded once is loaded again after modules have been stored. -/
theorem loaded_of_sameBut (h : FileSystem.SameBut isModuleLocation fs fs') {paths : List String}
    {dtos : List Dto} (hdtos : loaded fs paths = .ok dtos) : loaded fs' paths = .ok dtos := by
  suffices hfold : ∀ known entries : List Entry, paths.foldlM (loadedNext fs) known = .ok entries →
      paths.foldlM (loadedNext fs') known = .ok entries by
    unfold loaded at hdtos ⊢
    cases hentries : paths.foldlM (loadedNext fs) [] with
    | error e => simp [hentries, Except.map] at hdtos
    | ok entries =>
      rw [hfold [] entries hentries]
      rwa [hentries] at hdtos
  clear hdtos
  induction paths with
  | nil => exact fun known entries hentries => hentries
  | cons path paths ih =>
    intro known entries hentries
    rw [List.foldlM_cons] at hentries ⊢
    obtain ⟨next, hnext, hentries⟩ := bind_eq_ok.mp hentries
    obtain ⟨objects, hobjects, hnext⟩ := bind_eq_ok.mp hnext
    exact bind_eq_ok.mpr ⟨next, bind_eq_ok.mpr ⟨objects, loadedFrom_of_sameBut h hobjects, hnext⟩,
      ih next entries hentries⟩

end Manifest

end SchemaGen
