import SchemaGen.Proofs.ManifestSearch
import SchemaGen.Proofs.ModuleStorage

/-!
# What a run does

A run as a function of the files: the modules that it makes from its data transfer objects, and
what becomes of them.  Which objects these are depends on the files that the run finds, and
nothing of it on the mode.

* `Run.modules`: the modules of a run.
* `Run.effect`: the effect of a run, with `Run.ends_run`.
* `Run.effect_eq_ok`: when a run succeeds, and with what outcome.
-/

namespace SchemaGen

open OutputFolder

/-! ## Putting modules into a folder -/

/-- Modules that are treated after others. -/
theorem OutputFolder.treatedAll_append (dir : String) (mode : Mode)
    (modules more : List (String × String)) (fs : FileSystem) :
    treatedAll dir mode (modules ++ more) fs =
      match treatedAll dir mode modules fs with
      | (.error e, results, fs) => (.error e, results, fs)
      | (.ok (), results, fs) =>
        ((treatedAll dir mode more fs).1, results ++ (treatedAll dir mode more fs).2.1,
          (treatedAll dir mode more fs).2.2) := by
  induction modules generalizing fs with
  | nil => rfl
  | cons m modules ih =>
    rw [List.cons_append]
    rcases htreated : treated (Path.join dir m.1) m.2 mode fs with ⟨_ | t, files⟩
    · rw [treatedAll_cons_error _ htreated, treatedAll_cons_error _ htreated]
    · rw [treatedAll_cons_ok _ htreated, treatedAll_cons_ok _ htreated, ih]
      rcases treatedAll dir mode modules files with ⟨_ | _, _, _⟩
      · rfl
      · simp only [List.cons_append]

namespace Run

/-- The module of a data transfer object: the name of its file and its text. -/
def moduleOf (options : Options) (dto : Dto) : String × String :=
  ((Document.ofDto options dto).fileName, (Document.ofDto options dto).content)

/-- The modules of two data transfer objects have the same name iff the objects have. -/
theorem moduleOf_fst_inj {options : Options} {dto other : Dto} :
    (moduleOf options dto).1 = (moduleOf options other).1 ↔ dto.name = other.name := by
  show dto.name ++ options.suffix ++ ".ts" = other.name ++ options.suffix ++ ".ts" ↔ _
  rw [String.append_left_inj, String.append_left_inj]

/-- Modules of data transfer objects with different names have different names. -/
theorem nodup_map_moduleOf (options : Options) {dtos : List Dto}
    (h : (dtos.map Dto.name).Nodup) : ((dtos.map (moduleOf options)).map Prod.fst).Nodup := by
  unfold List.Nodup at h ⊢
  rw [List.pairwise_map] at h
  rw [List.pairwise_map, List.pairwise_map]
  exact h.imp fun hne heq => hne (moduleOf_fst_inj.mp heq)

/-- The module of the shared validators, if a run puts it into the folder. -/
def helperModules (config : Config) : List (String × String) :=
  if config.emitHelpers then
    match config.helpersFileName? with
    | some name => [(name, SharedValidators.content config.options)]
    | none => []
  else []

/-- The modules of a run. -/
def modules (config : Config) (dtos : List Dto) : List (String × String) :=
  dtos.map (moduleOf config.options) ++ helperModules config

/-- What a pass over data transfer objects reports. -/
def reportOf (options : Options) (dtos : List Dto) : PassReport :=
  ⟨dtos.map fun dto => (Document.ofDto options dto).fileName,
    (dtos.flatMap fun dto => (Document.ofDto options dto).skipped).length⟩

/-- The path of the shared validators, if a run puts them into the folder. -/
def helpersPath? (config : Config) : Option String :=
  if config.emitHelpers then config.helpersFileName?.map (Path.join config.outputDir) else none

/-- Handing a document to the folder. -/
theorem ends_step (options : Options) (done : PassReport) (dto : Dto) (folder : OutputFolder)
    (fs : FileSystem) :
    Storing.Ends (Pass.step (fun name content => discard (put name content)) options done dto)
      folder fs
      (match treated (Path.join folder.dir (moduleOf options dto).1) (moduleOf options dto).2
          folder.mode fs with
        | (.error e, fs) => (.error e, folder, fs)
        | (.ok t, fs) =>
          (.ok ⟨done.files ++ [(moduleOf options dto).1],
            done.skippedFields + (Document.ofDto options dto).skipped.length⟩,
            { folder with results := folder.results ++ [t] }, fs)) := by
  have hput := ends_put (moduleOf options dto).1 (moduleOf options dto).2 folder fs
  unfold Pass.step
  refine (Storing.ends_forM_report _ folder fs).bind ?_
  rcases htreated : treated (Path.join folder.dir (moduleOf options dto).1)
    (moduleOf options dto).2 folder.mode fs with ⟨_ | t, files⟩
  · rw [htreated] at hput
    have hwrite := hput.map fun _ => PUnit.unit
    exact hwrite.bind_error
  · rw [htreated] at hput
    have hwrite := hput.map fun _ => PUnit.unit
    exact hwrite.bind ((Storing.ends_report _ _ files).bind (Storing.ends_pure _ _ files))

/-- How a computation ends that has put modules into a folder for a value. -/
def ending {α : Type} (folder : OutputFolder) (value : α)
    (all : Except WriteError Unit × List Treatment × FileSystem) :
    Except WriteError α × OutputFolder × FileSystem :=
  (all.1.map fun _ => value, { folder with results := folder.results ++ all.2.1 }, all.2.2)

/-- Handing several documents to the folder. -/
theorem ends_steps (options : Options) (dtos : List Dto) (done : PassReport)
    (folder : OutputFolder) (fs : FileSystem) :
    Storing.Ends
      (dtos.foldlM (Pass.step (fun name content => discard (put name content)) options) done)
      folder fs
      (ending folder ⟨done.files ++ (reportOf options dtos).files,
          done.skippedFields + (reportOf options dtos).skippedFields⟩
        (treatedAll folder.dir folder.mode (dtos.map (moduleOf options)) fs)) := by
  induction dtos generalizing done folder fs with
  | nil => simpa [treatedAll, reportOf, ending, Except.map] using Storing.ends_pure done folder fs
  | cons dto dtos ih =>
    have hstep := ends_step options done dto folder fs
    rw [List.foldlM_cons, List.map_cons]
    rcases htreated : treated (Path.join folder.dir (moduleOf options dto).1)
      (moduleOf options dto).2 folder.mode fs with ⟨_ | t, files⟩
    · rw [htreated] at hstep
      rw [treatedAll_cons_error _ htreated, ending, List.append_nil]
      exact hstep.bind_error
    · rw [htreated] at hstep
      rw [treatedAll_cons_ok _ htreated]
      refine hstep.bind ?_
      have hrest := ih ⟨done.files ++ [(moduleOf options dto).1],
        done.skippedFields + (Document.ofDto options dto).skipped.length⟩
        { folder with results := folder.results ++ [t] } files
      simpa [ending, reportOf, moduleOf, Nat.add_assoc] using hrest

/-- A pass over data transfer objects into the folder. -/
theorem ends_pass (options : Options) (dtos : List Dto) (folder : OutputFolder)
    (fs : FileSystem) :
    Storing.Ends (Pass.run (fun name content => discard (put name content)) options dtos)
      folder fs
      (ending folder (reportOf options dtos)
        (treatedAll folder.dir folder.mode (dtos.map (moduleOf options)) fs)) := by
  have hsteps := ends_steps options dtos ⟨[], 0⟩ folder fs
  simp only [List.nil_append, Nat.zero_add] at hsteps
  unfold Pass.run
  rcases hall : treatedAll folder.dir folder.mode (dtos.map (moduleOf options)) fs with
    ⟨_ | _, results, files⟩
  · rw [hall] at hsteps
    exact hsteps.bind_error
  · rw [hall] at hsteps
    exact hsteps.bind ((Storing.ends_report _ _ files).bind (Storing.ends_pure _ _ files))

/-- Putting the shared validators into the folder. -/
theorem ends_putHelpers (config : Config) (folder : OutputFolder) (fs : FileSystem)
    (hdir : folder.dir = config.outputDir) :
    (putHelpers config).Ends folder fs
      (ending folder (helpersPath? config)
        (treatedAll folder.dir folder.mode (helperModules config) fs)) := by
  have hnone : Storing.Ends (pure none : Storing WriteError (Option String)) folder fs
      (ending folder none (treatedAll folder.dir folder.mode [] fs)) := by
    simpa [treatedAll, ending, Except.map] using
      Storing.ends_pure (none : Option String) folder fs
  unfold putHelpers helperModules helpersPath?
  cases config.emitHelpers with
  | false => exact hnone
  | true =>
    cases config.helpersFileName? with
    | none => exact (Storing.ends_report _ folder fs).bind hnone
    | some name =>
      obtain ⟨m, hm⟩ : ∃ m, m = (name, SharedValidators.content config.options) := ⟨_, rfl⟩
      have hput := ends_put m.1 m.2 folder fs
      simp only [if_true, Option.map_some, ← hm]
      rcases htreated : treated (Path.join folder.dir m.1) m.2 folder.mode fs with ⟨_ | t, files⟩
      · rw [htreated] at hput
        rw [treatedAll_cons_error _ htreated, ending, List.append_nil]
        subst hm
        exact hput.bind_error
      · rw [htreated] at hput
        rw [treatedAll_cons_ok _ htreated]
        have hpath : t.path = Path.join config.outputDir name := by
          rw [path_of_treated htreated, hdir, hm]
        subst hm
        rw [← hpath]
        exact hput.bind (Storing.ends_pure _ _ files)

/-- Putting all modules into the folder. -/
theorem ends_putModules (config : Config) (dtos : List Dto) (folder : OutputFolder)
    (fs : FileSystem) (hdir : folder.dir = config.outputDir) :
    (putModules config dtos).Ends folder fs
      (ending folder (reportOf config.options dtos, helpersPath? config)
        (treatedAll folder.dir folder.mode (modules config dtos) fs)) := by
  have hpass := ends_pass config.options dtos folder fs
  unfold putModules modules
  rw [treatedAll_append]
  rcases hall : treatedAll folder.dir folder.mode (dtos.map (moduleOf config.options)) fs with
    ⟨_ | _, results, files⟩
  · rw [hall] at hpass
    exact hpass.bind_error
  · rw [hall] at hpass
    refine hpass.bind ?_
    have hhelpers := ends_putHelpers config
      { folder with results := folder.results ++ results } files hdir
    have hdone := hhelpers.map (Prod.mk (reportOf config.options dtos))
    rw [bind_pure_comp]
    rcases hmore : treatedAll folder.dir folder.mode (helperModules config) files with
      ⟨_ | _, _, _⟩
    · simpa [ending, hmore, Except.map] using hdone
    · simpa [ending, hmore, Except.map] using hdone

/-! ## Runs -/

/-- The outcome of a run and the files that it leaves. -/
def effect (walker : Walker) (config : Config) (mode : Mode) (fs : FileSystem) :
    Except RunError Outcome × FileSystem :=
  match prepared config.outputDir mode fs with
  | (.error e, fs) => (.error (.write e), fs)
  | (.ok (), fs) =>
    match sought walker config fs with
    | .error e => (.error (.search e), fs)
    | .ok manifests =>
      match Manifest.loaded fs manifests with
      | .error e => (.error (.manifest e), fs)
      | .ok dtos =>
        match treatedAll config.outputDir mode (modules config dtos) fs with
        | (.error e, _, fs) => (.error (.write e), fs)
        | (.ok (), results, fs) =>
          (.ok ⟨manifests, reportOf config.options dtos, results, helpersPath? config⟩, fs)

theorem ends_run (walker : Walker) (config : Config) (mode : Mode) (fs : FileSystem) :
    (run walker config mode).Ends fs (effect walker config mode fs) := by
  have hprepare := (ends_prepare config.outputDir mode fs).adapt RunError.write
  unfold run effect
  rcases hprepared : prepared config.outputDir mode fs with ⟨_ | _, fs₁⟩
  · rw [hprepared] at hprepare
    exact hprepare.bind_error
  rw [hprepared] at hprepare
  refine hprepare.bind ?_
  have hfind := (ends_findManifests walker config fs₁).adapt RunError.search
  simp only
  rcases hsought : sought walker config fs₁ with _ | manifests
  · rw [hsought] at hfind
    exact hfind.bind_error
  rw [hsought] at hfind
  refine hfind.bind ?_
  have hload := (Manifest.ends_loadAll manifests fs₁).adapt RunError.manifest
  simp only
  rcases hloaded : Manifest.loaded fs₁ manifests with _ | dtos
  · rw [hloaded] at hload
    exact hload.bind_error
  rw [hloaded] at hload
  refine hload.bind ?_
  have hput := (ends_putModules config dtos (OutputFolder.new config.outputDir mode) fs₁
    rfl).collect.adapt RunError.write
  simp only [OutputFolder.new] at hput ⊢
  rcases hall : treatedAll config.outputDir mode (modules config dtos) fs₁ with
    ⟨_ | _, results, fs₂⟩
  · rw [hall] at hput
    exact hput.bind_error
  · rw [hall] at hput
    exact hput.bind ((Job.ends_report _ fs₂).bind (Job.ends_pure _ fs₂))

/-- When a run succeeds, and with what outcome. -/
theorem effect_eq_ok {walker : Walker} {config : Config} {mode : Mode} {fs fs' : FileSystem}
    {outcome : Outcome} :
    effect walker config mode fs = (.ok outcome, fs') ↔
      ∃ files manifests dtos results, prepared config.outputDir mode fs = (.ok (), files) ∧
        sought walker config files = .ok manifests ∧ Manifest.loaded files manifests = .ok dtos ∧
        treatedAll config.outputDir mode (modules config dtos) files = (.ok (), results, fs') ∧
        outcome = ⟨manifests, reportOf config.options dtos, results, helpersPath? config⟩ := by
  constructor
  · intro h
    unfold effect at h
    rcases hprepared : prepared config.outputDir mode fs with ⟨_ | _, files⟩
    · simp [hprepared] at h
    rcases hsought : sought walker config files with _ | manifests
    · simp [hprepared, hsought] at h
    rcases hloaded : Manifest.loaded files manifests with _ | dtos
    · simp [hprepared, hsought, hloaded] at h
    rcases hall : treatedAll config.outputDir mode (modules config dtos) files with
      ⟨_ | _, results, fs''⟩
    · simp [hprepared, hsought, hloaded, hall] at h
    simp only [hprepared, hsought, hloaded, hall, Prod.mk.injEq, Except.ok.injEq] at h
    obtain ⟨rfl, rfl⟩ := h
    exact ⟨files, manifests, dtos, results, rfl, hsought, hloaded, hall, rfl⟩
  · rintro ⟨files, manifests, dtos, results, hprepared, hsought, hloaded, hall, rfl⟩
    unfold effect
    simp only [hprepared, hsought, hloaded, hall]

end Run

end SchemaGen
