import SchemaGen.Proofs.FolderGrowth
import SchemaGen.Proofs.RunModes

/-!
# Runs that load nothing

A run loads all of its input before it stores a module.  So if the input is missing, the filter is
no pattern, the walker has a fault, or a manifest is at fault, whichever of them it is, no module is
stored: the run has prepared its folder and that is all.  The folder itself comes first: where it
cannot be made, that is the error of the run, and the input is not looked at.

* `Run.Unloadable`: an input that cannot be loaded, with `Run.unloaded_of_unloadable`.
* `Run.OnlyFolderMade`: what may have changed when nothing has been stored.
* `Run.load_fails_first`: a run whose input cannot be loaded, or whose folder cannot be made.
-/

namespace SchemaGen.Run

open FileSystem OutputFolder

variable {walker : Walker} {config : Config} {mode : Mode} {fs files : FileSystem} {s : Session}

/-! ## Inputs that cannot be loaded -/

/-- The input of a run cannot be loaded in a session. -/
inductive Unloadable (walker : Walker) (config : Config) (s : Session) : Prop
  /-- There is nothing at the path of the input. -/
  | missing : s.files.exists config.input = false → Unloadable walker config s
  /-- The filter is no pattern. -/
  | invalidFilter {filter : String} {e : PathPattern.Error} : config.filter = some filter →
      PathPattern.parse filter = .error e → Unloadable walker config s
  /-- The walker has a fault. -/
  | faultyWalk {fault : String} {s' : Session} :
      (findManifests walker config).run.run s = (.error (.walk fault), s') →
      Unloadable walker config s
  /-- The manifests that are found have a fault. -/
  | faulty {manifests : List String} {s' : Session} :
      (findManifests walker config).run.run s = (.ok manifests, s') →
      Manifest.Faulty s'.files manifests → Unloadable walker config s

theorem sought_of_missing (h : fs.exists config.input = false) :
    ∃ e, sought walker config fs = .error e := by
  have hsearched : ∀ filter, Discovery.searched walker { input := config.input, filter } fs =
      .error (.notFound config.input) := by
    intro filter
    unfold Discovery.searched
    rw [h]
    rfl
  unfold sought
  cases config.filter with
  | none => exact ⟨_, hsearched none⟩
  | some filter =>
    cases hcompile : Discovery.compileFilter filter with
    | error e => exact ⟨e, by simp [hcompile]⟩
    | ok pattern => exact ⟨.notFound config.input, by simp [hcompile, hsearched (some pattern)]⟩

theorem sought_of_invalidFilter {filter : String} {e : PathPattern.Error}
    (hfilter : config.filter = some filter) (hparse : PathPattern.parse filter = .error e)
    (fs : FileSystem) : sought walker config fs = .error (.invalidFilter filter e) := by
  have hcompile : Discovery.compileFilter filter = .error (.invalidFilter filter e) := by
    unfold Discovery.compileFilter
    rw [hparse]
  unfold sought
  simp [hfilter, hcompile]

/-- An input that cannot be loaded is not found, or is found and not loaded. -/
theorem unloaded_of_unloadable (h : Unloadable walker config s) :
    (∃ e, sought walker config s.files = .error e) ∨
      ∃ manifests e, sought walker config s.files = .ok manifests ∧
        Manifest.loaded s.files manifests = .error e := by
  cases h with
  | missing hmissing => exact .inl (sought_of_missing hmissing)
  | invalidFilter hfilter hparse => exact .inl ⟨_, sought_of_invalidFilter hfilter hparse _⟩
  | @faultyWalk fault s' hfind =>
    exact .inl ⟨_, (Prod.mk.inj ((ends_findManifests walker config s.files).of_run hfind)).1⟩
  | @faulty manifests s' hfind hfaulty =>
    have hends := (ends_findManifests walker config s.files).of_run hfind
    obtain ⟨hsought, hfiles⟩ := Prod.mk.inj hends
    rw [← hfiles] at hfaulty
    obtain ⟨e, he⟩ := Manifest.loaded_eq_error_iff.mpr hfaulty
    exact .inr ⟨manifests, e, hsought, he⟩

/-- A run whose input cannot be loaded stops there, with the files as they are when its folder has
been prepared. -/
theorem effect_of_unloadable (hprepared : prepared config.outputDir mode fs = (.ok (), s.files))
    (h : Unloadable walker config s) :
    ∃ error, effect walker config mode fs = (.error error, s.files) ∧
      ((∃ e, error = .search e) ∨ ∃ e, error = .manifest e) := by
  rcases unloaded_of_unloadable h with ⟨e, hsought⟩ | ⟨manifests, e, hsought, hloaded⟩
  · refine ⟨.search e, ?_, .inl ⟨e, rfl⟩⟩
    unfold effect
    simp only [hprepared, hsought]
  · refine ⟨.manifest e, ?_, .inr ⟨e, rfl⟩⟩
    unfold effect
    simp only [hprepared, hsought, hloaded]

/-- A run whose folder cannot be made stops there. -/
theorem effect_of_notMade {e : IoError} (hdir : fs.isDirectory config.outputDir = false)
    (hmade : (fs.makeDirectories config.outputDir).1 = .error e) :
    effect walker config .write fs = (.error (.write (.notMade config.outputDir e)),
      (prepared config.outputDir .write fs).2) := by
  have hprepared : prepared config.outputDir .write fs =
      (.error (.notMade config.outputDir e), (prepared config.outputDir .write fs).2) := by
    refine Prod.ext ?_ rfl
    unfold prepared
    rw [if_pos ⟨rfl, hdir⟩, hmade]
    rfl
  unfold effect
  rw [hprepared]

/-! ## What may have changed -/

/-- No file has been made or changed.  At most a folder has been made, with missing ones above it,
and only in the mode that stores modules. -/
structure OnlyFolderMade (dir : String) (mode : Mode) (fs fs' : FileSystem) : Prop where
  same : mode ≠ .write → fs' = fs
  file_iff : ∀ l content,
    fs'.entryAt? l = some (.file content) ↔ fs.entryAt? l = some (.file content)
  change : ∀ l, fs'.entryAt? l ≠ fs.entryAt? l →
    fs.entryAt? l = none ∧ fs'.entryAt? l = some .directory ∧
      ∃ above, Path.AtOrAbove above dir ∧ fs'.locate above = .ok l

theorem onlyFolderMade_prepared (dir : String) (mode : Mode) (fs : FileSystem) :
    OnlyFolderMade dir mode fs (prepared dir mode fs).2 := by
  have hgrown := grown_prepared dir mode fs
  refine ⟨fun hmode => ?_, fun l content => hgrown.file_iff, fun l hl => ?_⟩
  · rw [prepared_of_ne_write hmode]
  · rcases hgrown.entry l with heq | ⟨hnone, hmade, above, ⟨-, habove⟩, hlocate⟩ |
      ⟨-, -, path, hpath, -⟩
    · exact absurd heq hl
    · exact ⟨hnone, hmade, above, habove, hlocate⟩
    · exact hpath.elim

/-- If the input of a run cannot be loaded once the folder has been prepared, the run fails.  No
file has been made or changed then, wherever in the input the fault is; at most the folder and
missing ones above it have been made.  If the folder itself cannot be made, that is the error of
the run, whatever the input is. -/
theorem load_fails_first (walker : Walker) (config : Config) (mode : Mode) (s : Session) :
    (∀ s₁, (prepare config.outputDir mode).run.run s = (.ok (), s₁) → Unloadable walker config s₁ →
      ∃ error s', (run walker config mode).run.run s = (.error error, s') ∧
        ((∃ e, error = .search e) ∨ ∃ e, error = .manifest e) ∧
        OnlyFolderMade config.outputDir mode s.files s'.files) ∧
    ∀ e, mode = .write → s.files.isDirectory config.outputDir = false →
      (s.files.makeDirectories config.outputDir).1 = .error e →
      ∃ s', (run walker config mode).run.run s =
          (.error (.write (.notMade config.outputDir e)), s') ∧
        OnlyFolderMade config.outputDir mode s.files s'.files := by
  have honly := onlyFolderMade_prepared config.outputDir mode s.files
  constructor
  · intro s₁ hprepare hunloadable
    have hprepared := (ends_prepare config.outputDir mode s.files).of_run hprepare
    rw [hprepared] at honly
    obtain ⟨error, heffect, herror⟩ := effect_of_unloadable hprepared hunloadable
    obtain ⟨s', hrun, hfiles⟩ := exists_run_of_effect rfl heffect
    exact ⟨error, s', hrun, herror, hfiles ▸ honly⟩
  · rintro e rfl hdir hmade
    obtain ⟨s', hrun, hfiles⟩ := exists_run_of_effect rfl (effect_of_notMade hdir hmade)
    exact ⟨s', hrun, hfiles ▸ honly⟩

/-! ## Runs to look at -/

/-- Files with two manifests of the same data transfer object, and without a folder for modules. -/
def repeatedFiles : FileSystem where
  workingDirectory := []
  entries := [(["dtos"], .directory), (["dtos", "a.dto.json"], .file sampleManifest.toUTF8),
    (["dtos", "b.dto.json"], .file sampleManifest.toUTF8)]

/-- Files with a file where the folder should be, and nothing else. -/
def blockedFiles : FileSystem where
  workingDirectory := []
  entries := [(["out"], .file ByteArray.empty)]

theorem holds_sampleManifest {path : String} (hformat : Manifest.Format.ofPath? path = some .json)
    (htext : fs.readText path = .ok sampleManifest) : Manifest.Holds fs path [sampleDto] :=
  ⟨.json, sampleManifest, hformat, htext,
    (Manifest.parse_eq_ok.mp (parse_sampleManifest path)).1⟩

theorem unloadable_repeatedFiles {s : Session}
    (hfiles : s.files = repeatedFiles.put ["out"] .directory) :
    Unloadable sampleWalker sampleConfig s := by
  have hsought : sought sampleWalker sampleConfig s.files =
      .ok ["./dtos/a.dto.json", "./dtos/b.dto.json"] := by
    rw [hfiles]
    rfl
  have hends := ends_findManifests sampleWalker sampleConfig s.files
  rw [hsought] at hends
  obtain ⟨s', hfind, hfiles'⟩ := hends.exists_run
  refine .faulty hfind ?_
  rw [hfiles', hfiles]
  have hpaths : ["./dtos/a.dto.json", "./dtos/b.dto.json"] =
      ["./dtos/a.dto.json"] ++ ["./dtos/b.dto.json"] := rfl
  have hfirst : Manifest.Holds (repeatedFiles.put ["out"] .directory) "./dtos/a.dto.json"
      [sampleDto] :=
    holds_sampleManifest rfl (readText_eq_ok.mpr ⟨_, rfl, fromUTF8?_toUTF8 _⟩)
  have hsecond : Manifest.Holds (repeatedFiles.put ["out"] .directory) "./dtos/b.dto.json"
      [sampleDto] :=
    holds_sampleManifest rfl (readText_eq_ok.mpr ⟨_, rfl, fromUTF8?_toUTF8 _⟩)
  exact .repeatedAcross hpaths (List.mem_singleton_self _) (List.mem_singleton_self _) hfirst
    hsecond (List.mem_singleton_self _) (List.mem_singleton_self _) rfl

theorem load_fails_first_sample :
    (∃ error s', (run sampleWalker sampleConfig .write).run.run ⟨repeatedFiles, []⟩ =
        (.error error, s') ∧
      ∀ content, s'.files.entryAt? ["out", "UserSchema.ts"] ≠ some (.file content)) ∧
    ∃ s', (run sampleWalker sampleConfig .write).run.run ⟨blockedFiles, []⟩ =
        (.error (.write (.notMade "out" .alreadyExists)), s') ∧
      s'.files.entryAt? ["out"] = some (.file ByteArray.empty) := by
  constructor
  · have hprepared : prepared sampleConfig.outputDir .write repeatedFiles =
        (.ok (), repeatedFiles.put ["out"] .directory) := rfl
    have hends := ends_prepare sampleConfig.outputDir .write repeatedFiles
    rw [hprepared] at hends
    obtain ⟨s₁, hprepare, hfiles⟩ := hends.exists_run (s := ⟨repeatedFiles, []⟩)
    obtain ⟨error, s', hrun, -, honly⟩ :=
      (load_fails_first sampleWalker sampleConfig .write ⟨repeatedFiles, []⟩).1 s₁ hprepare
        (unloadable_repeatedFiles hfiles)
    refine ⟨error, s', hrun, fun content hcontent => ?_⟩
    have habsent : repeatedFiles.entryAt? ["out", "UserSchema.ts"] = none := rfl
    have hbefore := (honly.file_iff _ content).mp hcontent
    rw [habsent] at hbefore
    simp at hbefore
  · obtain ⟨s', hrun, honly⟩ :=
      (load_fails_first sampleWalker sampleConfig .write ⟨blockedFiles, []⟩).2 .alreadyExists rfl rfl
        rfl
    exact ⟨s', hrun, (honly.file_iff _ _).mpr rfl⟩

end SchemaGen.Run
