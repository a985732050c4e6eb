import SchemaGen.Proofs.FolderGrowth
import SchemaGen.Proofs.RunModes

/-!
# The outputs of a run

A run touches nothing but its outputs.  Without storing it leaves the files alone, and a run that
stores modules removes nothing, whether it succeeds or fails halfway.  What it makes or changes is
the modules of its data transfer objects, each directly in the output folder, and the module of the
shared validators.  That a module stays in its folder is due to two checks that are far from each
other: manifests are refused unless the names of their objects are identifiers, and configurations
unless the suffix of schema names has nothing but characters of identifiers.  The command line
changes neither.

* `Config.helpersFileName?_eq_some`: when the shared validators have a file, and its name.
* `Run.Loads`: the data transfer objects that a run loads.
* `Run.touches_only_outputs`: what a run leaves alone, and what it may have made or changed.
-/

namespace SchemaGen

open FileSystem

/-! ## The modules of a run -/

/-- The module of the shared validators is told by a path that starts in the folder or above
it. -/
def Config.RelativeHelpers (config : Config) : Prop :=
  ∃ rest, config.helpersModule = "./" ++ rest ∨ config.helpersModule = "../" ++ rest

/-- The shared validators have a file iff their module is told by such a path. -/
theorem Config.helpersFileName?_eq_some {config : Config} {name : String} :
    config.helpersFileName? = some name ↔
      config.RelativeHelpers ∧ name = config.helpersModule ++ ".ts" := by
  have hprefix : ∀ start : String, start.toList <+: config.helpersModule.toList ↔
      ∃ rest, config.helpersModule = start ++ rest := by
    intro start
    constructor
    · rintro ⟨rest, hrest⟩
      refine ⟨String.ofList rest, String.toList_inj.mp ?_⟩
      rw [← hrest, String.toList_append, String.toList_ofList]
    · rintro ⟨rest, hrest⟩
      rw [hrest, String.toList_append]
      exact List.prefix_append _ _
  have hstart : (["./", "../"].any fun start =>
      start.toList.isPrefixOf config.helpersModule.toList) = true ↔ config.RelativeHelpers := by
    simp only [List.any_cons, List.any_nil, Bool.or_false, Bool.or_eq_true,
      List.isPrefixOf_iff_prefix, hprefix, RelativeHelpers, exists_or]
  unfold helpersFileName?
  by_cases hrelative : config.RelativeHelpers
  · rw [if_pos (hstart.mpr hrelative), Option.some.injEq, and_iff_right hrelative, eq_comm]
  · rw [if_neg (mt hstart.mp hrelative)]
    simp [hrelative]

namespace Run

open OutputFolder

variable {walker : Walker} {config : Config} {mode : Mode} {fs files : FileSystem}
  {dtos : List Dto}

/-- The path of the module of a data transfer object. -/
def modulePath (config : Config) (dto : Dto) : String :=
  Path.join config.outputDir (dto.name ++ config.suffix ++ ".ts")

/-- The path of the module of the shared validators. -/
def helpersPath (config : Config) : String :=
  Path.join config.outputDir (config.helpersModule ++ ".ts")

/-- The shared validators are wanted, and their module belongs to the output. -/
def PutsHelpers (config : Config) : Prop :=
  config.emitHelpers = true ∧ config.RelativeHelpers

theorem of_mem_helperModules {m : String × String} (h : m ∈ helperModules config) :
    PutsHelpers config ∧ m.1 = config.helpersModule ++ ".ts" := by
  unfold helperModules at h
  split at h
  · next hemit =>
    cases hfile : config.helpersFileName? with
    | none => simp [hfile] at h
    | some name =>
      rw [hfile] at h
      obtain rfl := List.mem_singleton.mp h
      obtain ⟨hrelative, hname⟩ := Config.helpersFileName?_eq_some.mp hfile
      exact ⟨⟨hemit, hrelative⟩, hname⟩
  · exact absurd h List.not_mem_nil

theorem schemaName_options (config : Config) (name : String) :
    config.options.schemaName name = name ++ config.suffix := by
  rw [← Config.suffix_options]
  rfl

/-- Storing the modules of a run makes or changes them only, and makes at most directories above
the shared validators. -/
theorem grown_modules (hconfig : config.Obtained) (hdtos : Manifest.Distinct dtos)
    (hready : Ready fs config.outputDir) :
    Grown (fun above => PutsHelpers config ∧ Path.AtOrAbove above (helpersPath config))
      (fun path => (∃ dto ∈ dtos, path = modulePath config dto) ∨
        PutsHelpers config ∧ path = helpersPath config)
      fs (treatedAll config.outputDir .write (modules config dtos) fs).2.2 := by
  refine grown_treatedAll (fun m hm fs hready => ?_) hready
  rcases List.mem_append.mp hm with hm | hm
  · obtain ⟨dto, hdto, rfl⟩ := List.mem_map.mp hm
    have hstem := Options.slash_notMem_schemaName hconfig.suffix (hdtos.identifier dto hdto)
    have hgrown := hready.grown_stored hstem (moduleOf config.options dto).2
    refine hgrown.mono (fun _ => False.elim) fun path hpath => .inl ⟨dto, hdto, ?_⟩
    rwa [modulePath, ← schemaName_options]
  · obtain ⟨hputs, hname⟩ := of_mem_helperModules hm
    rw [hname]
    exact (grown_stored _ m.2 fs).mono (fun above habove => ⟨hputs, habove⟩)
      fun other hother => .inr ⟨hputs, hother⟩

/-! ## What a run loads -/

/-- The data transfer objects that a run loads in a session: those of the manifests that it finds
when its folder has been prepared. -/
def Loads (walker : Walker) (config : Config) (mode : Mode) (s : Session) (dtos : List Dto) :
    Prop :=
  ∃ s₁ s₂ s₃ manifests, (prepare config.outputDir mode).run.run s = (.ok (), s₁) ∧
    (findManifests walker config).run.run s₁ = (.ok manifests, s₂) ∧
    (Manifest.loadAll manifests).run.run s₂ = (.ok dtos, s₃)

theorem loads_iff {s : Session} :
    Loads walker config mode s dtos ↔
      ∃ files manifests, prepared config.outputDir mode s.files = (.ok (), files) ∧
        sought walker config files = .ok manifests ∧
        Manifest.loaded files manifests = .ok dtos := by
  constructor
  · rintro ⟨s₁, s₂, s₃, manifests, hprepare, hfind, hload⟩
    have hprepared := (ends_prepare config.outputDir mode s.files).of_run hprepare
    obtain ⟨hsought, hfiles⟩ :=
      Prod.mk.inj ((ends_findManifests walker config s₁.files).of_run hfind)
    obtain ⟨hloaded, -⟩ := Prod.mk.inj ((Manifest.ends_loadAll manifests s₂.files).of_run hload)
    exact ⟨s₁.files, manifests, hprepared, hsought, hfiles ▸ hloaded⟩
  · rintro ⟨files, manifests, hprepared, hsought, hloaded⟩
    have hprepare := ends_prepare config.outputDir mode s.files
    rw [hprepared] at hprepare
    obtain ⟨s₁, hprepare, rfl⟩ := hprepare.exists_run
    have hfind := ends_findManifests walker config s₁.files
    rw [hsought] at hfind
    obtain ⟨s₂, hfind, hfiles⟩ := hfind.exists_run
    have hload := Manifest.ends_loadAll manifests s₂.files
    rw [hfiles, hloaded] at hload
    obtain ⟨s₃, hload, -⟩ := Job.Ends.exists_run (hfiles ▸ hload)
    exact ⟨s₁, s₂, s₃, manifests, hprepare, hfind, hload⟩

/-- A run leaves the files as they are when its folder has been prepared, or it loads data transfer
objects and leaves the files as they are when their modules have been treated. -/
theorem files_of_effect (walker : Walker) (config : Config) (mode : Mode) (s : Session) :
    (effect walker config mode s.files).2 = (prepared config.outputDir mode s.files).2 ∨
      ∃ files dtos, prepared config.outputDir mode s.files = (.ok (), files) ∧
        Loads walker config mode s dtos ∧ Manifest.Distinct dtos ∧
        (effect walker config mode s.files).2 =
          (treatedAll config.outputDir mode (modules config dtos) files).2.2 := by
  unfold effect
  rcases hprepared : prepared config.outputDir mode s.files with ⟨_ | _, files⟩
  · exact .inl rfl
  rcases hsought : sought walker config files with _ | manifests
  · simp only [hsought]
    exact .inl trivial
  rcases hloaded : Manifest.loaded files manifests with _ | dtos
  · simp only [hsought, hloaded]
    exact .inl trivial
  refine .inr ⟨files, dtos, rfl, loads_iff.mpr ⟨files, manifests, hprepared, hsought, hloaded⟩,
    Manifest.distinct_of_loaded hloaded, ?_⟩
  simp only [hsought, hloaded]
  rcases treatedAll config.outputDir mode (modules config dtos) files with ⟨_ | _, _, _⟩
  · rfl
  · rfl

/-! ## What a run leaves alone -/

theorem files_of_effect_of_ne_write (hmode : mode ≠ .write) (s : Session) :
    (effect walker config mode s.files).2 = s.files := by
  rcases files_of_effect walker config mode s with heq | ⟨files, dtos, hprepared, -, -, heq⟩
  · rw [heq, prepared_of_ne_write hmode]
  · rw [prepared_of_ne_write hmode] at hprepared
    rw [heq, treatedAll_of_ne_write hmode]
    exact (Prod.mk.inj hprepared).2.symm

/-- A run that stores modules makes or changes them only, whether it succeeds or not, and makes at
most directories that it needs for them. -/
theorem grown_effect (walker : Walker) (hconfig : config.Obtained) (s : Session) :
    Grown
      (fun above => Path.AtOrAbove above config.outputDir ∨
        PutsHelpers config ∧ Path.AtOrAbove above (helpersPath config))
      (fun path => (∃ dtos dto, Loads walker config .write s dtos ∧ dto ∈ dtos ∧
          path = modulePath config dto) ∨
        PutsHelpers config ∧ path = helpersPath config)
      s.files (effect walker config .write s.files).2 := by
  have hprepare := grown_prepared config.outputDir .write s.files
  rcases files_of_effect walker config .write s with heq |
    ⟨files, dtos, hprepared, hloads, hdtos, heq⟩
  · rw [heq]
    exact hprepare.mono (fun _ habove => .inl habove.2) fun _ => False.elim
  · rw [hprepared] at hprepare
    have hmodules := grown_modules hconfig hdtos (isDirectory_of_prepared hprepared)
    rw [heq]
    refine (hprepare.mono (fun _ habove => .inl habove.2) fun _ => False.elim).trans
      (hmodules.mono (fun _ => .inr) fun path hpath => ?_)
    exact hpath.imp_left fun ⟨dto, hdto, hpath⟩ => ⟨dtos, dto, hloads, hdto, hpath⟩

/-- The module of a loaded data transfer object belongs directly in the output folder. -/
theorem isAt_of_locate_modulePath (hconfig : config.Obtained) {s : Session}
    (hloads : Loads walker config mode s dtos) {dto : Dto} (hdto : dto ∈ dtos) {l : Location}
    (h : fs.locate (modulePath config dto) = .ok l) :
    ∃ base, IsAt fs config.outputDir base ∧ l = base ++ [dto.name ++ config.suffix ++ ".ts"] := by
  obtain ⟨_, _, -, -, hloaded⟩ := loads_iff.mp hloads
  have hname := (Manifest.distinct_of_loaded hloaded).identifier dto hdto
  have hslash := Options.slash_notMem_schemaName hconfig.suffix hname
  rw [schemaName_options] at hslash
  exact isAt_of_locate_join (Path.plain_append_ts hslash) h

/-- A run touches nothing but its outputs, whatever becomes of it.  Without storing it leaves the
files as they are.  When it stores, directories and files stay what they are, but for the contents
of files.  A file that is made or changed is the module of a loaded data transfer object, directly
in the output folder, or that of the shared validators; a directory that is made is the folder or
one on the way to these.  And the module of a loaded object never leads out of the folder. -/
theorem touches_only_outputs (hconfig : config.Obtained) {s s' : Session}
    {r : Except RunError Outcome} (hrun : (run walker config mode).run.run s = (r, s')) :
    (mode ≠ .write → s'.files = s.files) ∧
    (∀ l, s.files.entryAt? l = some .directory → s'.files.entryAt? l = some .directory) ∧
    (∀ l content, s.files.entryAt? l = some (.file content) →
      ∃ content', s'.files.entryAt? l = some (.file content')) ∧
    (∀ l content, s'.files.entryAt? l = some (.file content) →
      s.files.entryAt? l ≠ some (.file content) →
      (∃ dtos dto base, Loads walker config mode s dtos ∧ dto ∈ dtos ∧
        IsAt s'.files config.outputDir base ∧
        l = base ++ [dto.name ++ config.suffix ++ ".ts"]) ∨
      PutsHelpers config ∧ s'.files.locate (helpersPath config) = .ok l) ∧
    (∀ l, s'.files.entryAt? l = some .directory → s.files.entryAt? l ≠ some .directory →
      ∃ above, (Path.AtOrAbove above config.outputDir ∨
          PutsHelpers config ∧ Path.AtOrAbove above (helpersPath config)) ∧
        s'.files.locate above = .ok l) ∧
    ∀ dtos dto, Loads walker config mode s dtos → dto ∈ dtos → ∀ fs l,
      fs.locate (modulePath config dto) = .ok l →
      ∃ base, IsAt fs config.outputDir base ∧
        l = base ++ [dto.name ++ config.suffix ++ ".ts"] := by
  have hfiles : (effect walker config mode s.files).2 = s'.files :=
    congrArg Prod.snd ((ends_run walker config mode s.files).of_run hrun)
  have hcontained : ∀ dtos dto, Loads walker config mode s dtos → dto ∈ dtos → ∀ fs l,
      FileSystem.locate fs (modulePath config dto) = .ok l →
      ∃ base, IsAt fs config.outputDir base ∧
        l = base ++ [dto.name ++ config.suffix ++ ".ts"] :=
    fun _ _ hloads hdto _ _ h => isAt_of_locate_modulePath hconfig hloads hdto h
  by_cases hmode : mode = .write
  · subst hmode
    have hgrown := grown_effect walker hconfig s
    rw [hfiles] at hgrown
    refine ⟨fun h => absurd rfl h, fun l => hgrown.directory, fun l content => hgrown.file,
      fun l content hnow hbefore => ?_, fun l hnow hbefore => ?_, hcontained⟩
    · rcases hgrown.entry l with heq | ⟨-, hmade, -⟩ | ⟨-, -, path, hpath, hlocate⟩
      · exact absurd (heq.symm.trans hnow) hbefore
      · simp [hnow] at hmade
      · rcases hpath with ⟨dtos, dto, hloads, hdto, rfl⟩ | ⟨hputs, rfl⟩
        · obtain ⟨base, hbase, hl⟩ := hcontained dtos dto hloads hdto _ l hlocate
          exact .inl ⟨dtos, dto, base, hloads, hdto, hbase, hl⟩
        · exact .inr ⟨hputs, hlocate⟩
    · rcases hgrown.entry l with heq | ⟨-, -, above, habove, hlocate⟩ | ⟨-, ⟨_, hfile⟩, -⟩
      · exact absurd (heq.symm.trans hnow) hbefore
      · exact ⟨above, habove, hlocate⟩
      · simp [hnow] at hfile
  · have hsame : s'.files = s.files := hfiles.symm.trans (files_of_effect_of_ne_write hmode s)
    refine ⟨fun _ => hsame, fun l hl => hsame ▸ hl, fun l content hl => ⟨content, hsame ▸ hl⟩,
      fun l content hnow hbefore => absurd (hsame ▸ hnow) hbefore,
      fun l hnow hbefore => absurd (hsame ▸ hnow) hbefore, hcontained⟩

theorem touches_only_outputs_sample :
    ∃ written s', (run sampleWalker sampleConfig .write).run.run ⟨sampleFiles, []⟩ =
        (.ok written, s') ∧
      s'.files.entryAt? ["dtos", "a.dto.json"] = some (.file sampleManifest.toUTF8) := by
  obtain ⟨files, heffect⟩ := effect_sampleFiles
  obtain ⟨s', hrun, -⟩ := exists_run_of_effect (s := ⟨sampleFiles, []⟩) rfl heffect
  obtain ⟨-, -, hfile, hchanged, -⟩ := touches_only_outputs obtained_sampleConfig hrun
  obtain ⟨content, hcontent⟩ := hfile ["dtos", "a.dto.json"] sampleManifest.toUTF8 rfl
  refine ⟨_, s', hrun, ?_⟩
  by_contra hne
  have hbefore : sampleFiles.entryAt? ["dtos", "a.dto.json"] ≠ some (.file content) :=
    fun hbefore => hne (hcontent.trans hbefore.symm)
  have hnot : isModuleLocation ["dtos", "a.dto.json"] = false := rfl
  rcases hchanged _ content hcontent hbefore with ⟨-, dto, base, -, -, -, hl⟩ | ⟨-, hlocate⟩
  · rw [isModuleLocation_iff.mpr ⟨base, _, hl⟩] at hnot
    simp at hnot
  · have hname : Path.fileName? (helpersPath sampleConfig) = some ("zod-mods" ++ ".ts") := rfl
    obtain ⟨directory, hl⟩ := exists_of_locate hname hlocate
    rw [isModuleLocation_iff.mpr ⟨directory, _, hl⟩] at hnot
    simp at hnot

end Run

end SchemaGen
