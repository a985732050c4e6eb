import SchemaGen.CommandLine.Command
import SchemaGen.Proofs.ModuleNames
import SchemaGen.Proofs.OverlookedModules

/-!
# The modes of a run

What one mode of a run tells about another.  A run that stores its modules finds the same
manifests and makes the same modules as a preview or a check, and the modules that it stores
change nothing that a later run looks for.

* `Run.Written`: a run that has stored its modules, with `Run.exists_written`.
* `Run.check_after_write`: a check after it finds every module unchanged, and storing them once
  more changes nothing.
* `Run.modes_agree`: what a preview tells is what is stored, and what a check finds is how it
  differs from what was there.
-/

namespace SchemaGen.Run

open FileSystem OutputFolder

variable {walker : Walker} {config : Config} {fs fs' files : FileSystem} {written : Outcome}
  {dtos : List Dto} {place : String → Location}

/-! ## Runs that have stored their modules -/

/-- A run that has stored its modules, from when its folder is there. -/
structure Written (walker : Walker) (config : Config) (files fs' : FileSystem)
    (written : Outcome) (dtos : List Dto) (place : String → Location) : Prop where
  sought : sought walker config files = .ok written.manifests
  loaded : Manifest.loaded files written.manifests = .ok dtos
  places : Places isModuleLocation config.outputDir place (modules config dtos) files
  treated : treatedAll config.outputDir .write (modules config dtos) files =
    (.ok (), written.results, fs')
  report : written.report = reportOf config.options dtos
  helpers : written.helpers = helpersPath? config

/-- A run that succeeds in storing its modules has a place for each. -/
theorem exists_written (hconfig : config.Obtained)
    (hhelpers : config.emitHelpers = false ∨
      config.helpersModule = Options.defaultHelpersModule)
    (h : effect walker config .write fs = (.ok written, fs')) :
    ∃ files dtos place, prepared config.outputDir .write fs = (.ok (), files) ∧
      Written walker config files fs' written dtos place := by
  obtain ⟨files, manifests, dtos, results, hprepared, hsought, hloaded, htreated, rfl⟩ :=
    effect_eq_ok.mp h
  obtain ⟨base, hbased⟩ := exists_based_of_prepared hprepared
  have hdtos := Manifest.distinct_of_loaded hloaded
  have hplaces := hbased.places_of_treatedAll (moduleName_of_mem hconfig hhelpers hdtos)
    (nodup_modules hconfig hhelpers hdtos) htreated
  exact ⟨files, dtos, _, hprepared, hsought, hloaded, hplaces, htreated, rfl, rfl⟩

namespace Written

variable (h : Written walker config files fs' written dtos place)
include h

/-- Nothing but modules has changed. -/
theorem sameBut : SameBut isModuleLocation files fs' :=
  (h.places.stored h.treated).1

theorem results_eq : written.results = (modules config dtos).map (writtenModule config.outputDir) :=
  (h.places.stored h.treated).2.1

/-- Every module is at its place. -/
theorem held : ∀ m ∈ modules config dtos, Held place fs' m :=
  (h.places.stored h.treated).2.2.1

/-- The outcome of the run, but for what was done with the modules. -/
theorem outcome_eq (results : List Treatment) :
    (⟨written.manifests, reportOf config.options dtos, results, helpersPath? config⟩ : Outcome) =
      { written with results } := by
  rw [← h.report, ← h.helpers]

/-- A run of any mode whose folder needs no preparation makes the same modules, if at most modules
have changed and it finds the same manifests. -/
theorem effect_eq {mode : Mode} {start later : FileSystem} {results : List Treatment}
    (hstart : SameBut isModuleLocation files start)
    (hsought : Run.sought walker config start = .ok written.manifests)
    (hprepared : prepared config.outputDir mode start = (.ok (), start))
    (htreated : treatedAll config.outputDir mode (modules config dtos) start =
      (.ok (), results, later)) :
    effect walker config mode start = (.ok { written with results }, later) :=
  effect_eq_ok.mpr ⟨start, written.manifests, dtos, results, hprepared, hsought,
    Manifest.loaded_of_sameBut hstart h.loaded, htreated, (h.outcome_eq results).symm⟩

end Written

/-- A run whose effect is known runs from every session with these files. -/
theorem exists_run_of_effect {mode : Mode} {r : Except RunError Outcome} {s : Session}
    (hfiles : s.files = fs) (h : effect walker config mode fs = (r, fs')) :
    ∃ s', (run walker config mode).run.run s = (r, s') ∧ s'.files = fs' := by
  subst hfiles
  have hends := ends_run walker config mode s.files
  rw [h] at hends
  exact hends.exists_run

/-- A folder that has been prepared needs no preparation after modules have been stored. -/
theorem prepared_again {dir : String} {p : Location → Bool}
    (hprepared : prepared dir .write fs = (.ok (), files)) (h : SameBut p files fs') :
    prepared dir .write fs' = (.ok (), fs') := by
  rcases isDirectory_of_prepared hprepared with rfl | hdir
  · unfold prepared
    rw [makeDirectories_empty]
    split <;> rfl
  · exact prepared_of_isDirectory ((h.isDirectory_eq dir).trans hdir) .write

/-! ## A run to look at -/

/-- The walker that goes by the rules, where there are none for all repositories. -/
def sampleWalker : Walker :=
  Exclusion.walker fun _ _ => none

/-- A manifest of one data transfer object. -/
def sampleManifest : String :=
  "[[[\"User\",[[\"id\",\"int\"]]]]]"

/-- The data transfer object. -/
def sampleDto : Dto :=
  ⟨"User", [Field.ofType "id" "int"]⟩

/-- Files with the manifest and with a folder for modules. -/
def sampleFiles : FileSystem where
  workingDirectory := []
  entries := [(["dtos"], .directory), (["dtos", "a.dto.json"], .file sampleManifest.toUTF8),
    (["out"], .directory)]

/-- A configuration for these files. -/
def sampleConfig : Config :=
  Config.standard.withArguments { output := some "out", emitHelpers := some true }

theorem obtained_sampleConfig : sampleConfig.Obtained :=
  ⟨none, _, ⟨⟨[], []⟩, []⟩, _, Config.standard, rfl, rfl⟩

theorem parse_sampleManifest (path : String) :
    Manifest.parse path sampleManifest .json = .ok [sampleDto] := by
  have htokens : Json.tokens sampleManifest.toList =
      [.openList, .openList, .openList, .text ⟨"User".toList.map .plain, .closed⟩, .comma,
        .openList, .openList, .text ⟨"id".toList.map .plain, .closed⟩, .comma,
        .text ⟨"int".toList.map .plain, .closed⟩, .closeList, .closeList, .closeList, .closeList,
        .closeList] := by
    simp [sampleManifest, Json.tokens, Json.isSpace, Json.Token.first, Json.Literal.read,
      Json.Literal.cons]
  unfold Manifest.parse Manifest.decode Json.decode Json.Node.ofText
  rw [htokens]
  rfl

theorem loaded_sampleFiles : Manifest.loaded sampleFiles ["./dtos/a.dto.json"] =
    .ok [sampleDto] := by
  have hformat : Manifest.Format.ofPath? "./dtos/a.dto.json" = some .json := rfl
  have htext : sampleFiles.readText "./dtos/a.dto.json" = .ok sampleManifest :=
    readText_eq_ok.mpr ⟨_, rfl, fromUTF8?_toUTF8 _⟩
  have hfrom : Manifest.loadedFrom sampleFiles "./dtos/a.dto.json" = .ok [sampleDto] := by
    unfold Manifest.loadedFrom
    rw [hformat, htext]
    exact parse_sampleManifest _
  unfold Manifest.loaded Manifest.loadedNext
  rw [List.foldlM_cons, hfrom]
  rfl

/-- What a run on these files stores. -/
theorem effect_sampleFiles : ∃ fs', effect sampleWalker sampleConfig .write sampleFiles =
    (.ok ⟨["./dtos/a.dto.json"], ⟨["UserSchema.ts"], 0⟩,
      [.written "out/UserSchema.ts" 131, .written "out/../zod-mods.ts" 739],
      some "out/../zod-mods.ts"⟩, fs') := by
  have hsought : sought sampleWalker sampleConfig sampleFiles = .ok ["./dtos/a.dto.json"] := rfl
  have htreated : treatedAll sampleConfig.outputDir .write (modules sampleConfig [sampleDto])
      sampleFiles = (.ok (), [.written "out/UserSchema.ts" 131, .written "out/../zod-mods.ts" 739],
        (treatedAll sampleConfig.outputDir .write (modules sampleConfig [sampleDto])
          sampleFiles).2.2) :=
    Prod.ext rfl (Prod.ext (by decide +kernel) rfl)
  exact ⟨_, effect_eq_ok.mpr ⟨sampleFiles, _, _, _, prepared_of_isDirectory rfl .write, hsought,
    loaded_sampleFiles, htreated, rfl⟩⟩

/-! ## A check after storing -/

/-- Storing the modules of a run and then checking them, or storing them again, comes to rest:
whatever was there before, the check succeeds and finds every module unchanged, and nothing is
changed by storing them once more. -/
theorem check_after_write (personal : Exclusion.Verdicts) (hconfig : config.Obtained)
    (hhelpers : config.emitHelpers = false ∨
      config.helpersModule = Options.defaultHelpersModule)
    {s s' t : Session}
    (hwrite : (run (Exclusion.walker personal) config .write).run.run s = (.ok written, s'))
    (ht : t.files = s'.files) :
    (∃ checked t', (run (Exclusion.walker personal) config .check).run.run t = (.ok checked, t') ∧
      t'.files = s'.files ∧
      checked.manifests = written.manifests ∧ checked.report = written.report ∧
      checked.helpers = written.helpers ∧
      checked.results.map Treatment.path = written.results.map Treatment.path ∧
      (∀ result ∈ checked.results, result = .unchanged result.path) ∧
      (CommandLine.outputOf .check checked).status = 0) ∧
    ∃ again t', (run (Exclusion.walker personal) config .write).run.run t = (.ok again, t') ∧
      again = written ∧ SameFiles s'.files t'.files := by
  have heffect := (ends_run (Exclusion.walker personal) config .write s.files).of_run hwrite
  obtain ⟨files, dtos, place, hprepared, h⟩ := exists_written hconfig hhelpers heffect
  have hplaces := h.places.mono h.sameBut
  have hsought := sought_of_sameBut (Exclusion.overlooksModules_walker personal) h.sameBut h.sought
  constructor
  · obtain ⟨t', hrun, hfiles⟩ := exists_run_of_effect ht
      (h.effect_eq h.sameBut hsought (prepared_of_ne_write (by decide) _)
        (hplaces.compared_held h.held))
    refine ⟨_, t', hrun, hfiles, rfl, rfl, rfl, ?_, ?_, ?_⟩
    · rw [h.results_eq, List.map_map, List.map_map]
      rfl
    · intro result hresult
      obtain ⟨m, -, rfl⟩ := List.mem_map.mp hresult
      rfl
    · have hstale : Outcome.stale { written with
          results := (modules config dtos).map (unchangedModule config.outputDir) } = [] := by
        refine List.filter_eq_nil_iff.mpr fun result hresult => ?_
        obtain ⟨m, -, rfl⟩ := List.mem_map.mp hresult
        exact Bool.false_ne_true
      unfold CommandLine.outputOf
      rw [hstale]
      rfl
  · obtain ⟨later, htreated, hsame⟩ := hplaces.stored_again h.held
    obtain ⟨t', hrun, hfiles⟩ := exists_run_of_effect ht
      (h.effect_eq h.sameBut hsought (prepared_again hprepared h.sameBut) htreated)
    refine ⟨_, t', hrun, ?_, ?_⟩
    · rw [← h.results_eq]
    · rw [hfiles]
      exact hsame

theorem check_after_write_sample :
    ∃ written s' checked t', (run sampleWalker sampleConfig .write).run.run ⟨sampleFiles, []⟩ =
        (.ok written, s') ∧
      written.report.files = ["UserSchema.ts"] ∧
      (run sampleWalker sampleConfig .check).run.run s' = (.ok checked, t') ∧
      checked.results.map Treatment.path = ["out/UserSchema.ts", "out/../zod-mods.ts"] ∧
      (CommandLine.outputOf .check checked).status = 0 := by
  obtain ⟨files, heffect⟩ := effect_sampleFiles
  obtain ⟨s', hrun, -⟩ := exists_run_of_effect (s := ⟨sampleFiles, []⟩) rfl heffect
  obtain ⟨⟨checked, t', hcheck, -, -, -, -, hpaths, -, hstatus⟩, -⟩ :=
    check_after_write _ obtained_sampleConfig (.inr rfl) hrun (t := s') rfl
  exact ⟨_, s', checked, t', hrun, rfl, hcheck, hpaths, hstatus⟩

/-! ## A preview, a check and a run that stores -/

/-- The paths of the modules of a run: that of each file that is reported, then that of the
shared validators. -/
theorem map_path_modules (config : Config) (dtos : List Dto) :
    (modules config dtos).map (fun m => Path.join config.outputDir m.1) =
      (reportOf config.options dtos).files.map (Path.join config.outputDir) ++
        (helpersPath? config).toList := by
  have hhelpers : (helperModules config).map (fun m => Path.join config.outputDir m.1) =
      (helpersPath? config).toList := by
    unfold helperModules helpersPath?
    cases config.emitHelpers with
    | false => rfl
    | true => cases config.helpersFileName? <;> rfl
  unfold modules reportOf
  rw [List.map_append, hhelpers, List.map_map, List.map_map]
  rfl

/-- A comparison finds nothing stale iff every module is as it should be. -/
theorem filter_isStale_eq_nil {P : String × String → Prop} {modules : List (String × String)}
    {results : List Treatment}
    (h : List.Forall₂ (fun m t => t.isStale = true ↔ ¬ P m) modules results) :
    results.filter Treatment.isStale = [] ↔ ∀ m ∈ modules, P m := by
  induction h with
  | nil => simp
  | @cons m t modules results hstale _ ih =>
    rw [List.forall_mem_cons, ← ih, List.filter_eq_nil_iff, List.filter_eq_nil_iff,
      List.forall_mem_cons, hstale, not_not]

/-- A check that succeeds before the modules are stored compares the same modules with what is
there. -/
theorem Written.compared (h : Written walker config fs fs' written dtos place) {checked : Outcome}
    {later : FileSystem} (hcheck : effect walker config .check fs = (.ok checked, later)) :
    List.Forall₂ (fun m t => t.path = Path.join config.outputDir m.1 ∧
      (t = unchangedModule config.outputDir m ↔ Held place fs m) ∧
      (t.isStale = true ↔ ¬ Held place fs m)) (modules config dtos) checked.results := by
  obtain ⟨files, manifests, dtos', results, hprepared, hsought, hloaded, htreated, rfl⟩ :=
    effect_eq_ok.mp hcheck
  obtain rfl : fs = files := (Prod.mk.inj ((prepared_of_ne_write (by decide) _).symm.trans
    hprepared)).2
  obtain rfl := Except.ok.inj (h.sought.symm.trans hsought)
  obtain rfl := Except.ok.inj (h.loaded.symm.trans hloaded)
  exact h.places.compared htreated

/-- Storing the modules changes nothing iff each is there already. -/
theorem Written.sameFiles_iff (h : Written walker config fs fs' written dtos place) :
    SameFiles fs fs' ↔ ∀ m ∈ modules config dtos, Held place fs m := by
  constructor
  · intro hsame m hm
    exact (hsame.entryAt? _).symm.trans (h.held m hm)
  · intro hheld
    obtain ⟨later, htreated, hsame⟩ := h.places.stored_again hheld
    have heq := (Prod.mk.inj (Prod.mk.inj (htreated.symm.trans h.treated)).2).2
    rw [← heq]
    exact hsame

/-- From the same files, a preview tells what a run stores that stores its modules, and a check
tells how that differs from what is there. -/
theorem modes_agree (hconfig : config.Obtained)
    (hhelpers : config.emitHelpers = false ∨
      config.helpersModule = Options.defaultHelpersModule)
    {s s' : Session} (hdir : s.files.isDirectory config.outputDir = true)
    (hwrite : (run walker config .write).run.run s = (.ok written, s')) {t : Session}
    (ht : t.files = s.files) :
    ∃ previewed t', (run walker config .dryRun).run.run t = (.ok previewed, t') ∧
      t'.files = s.files ∧
      previewed.manifests = written.manifests ∧ previewed.report = written.report ∧
      previewed.helpers = written.helpers ∧
      previewed.results.map Treatment.path =
        written.report.files.map (Path.join config.outputDir) ++ written.helpers.toList ∧
      (∀ result ∈ previewed.results, ∃ content : String,
        result = .previewed result.path content ∧
        s'.files.read result.path = .ok content.toUTF8) ∧
      ∀ checked t', (run walker config .check).run.run t = (.ok checked, t') →
        checked.results.map Treatment.path = previewed.results.map Treatment.path ∧
        (∀ (i : Nat) (path content : String),
          previewed.results[i]? = some (.previewed path content) →
          (checked.results[i]? = some (.unchanged path) ↔
            s.files.read path = .ok content.toUTF8)) ∧
        (checked.stale = [] ↔ SameFiles s.files s'.files) := by
  have heffect := (ends_run walker config .write s.files).of_run hwrite
  obtain ⟨files, dtos, place, hprepared, h⟩ := exists_written hconfig hhelpers heffect
  obtain rfl : s.files = files :=
    (Prod.mk.inj ((prepared_of_isDirectory hdir .write).symm.trans hprepared)).2
  obtain ⟨t', hrun, hfiles⟩ := exists_run_of_effect ht
    (h.effect_eq (SameBut.refl _ _) h.sought (prepared_of_ne_write (by decide) _)
      (treatedAll_dryRun _ _ _))
  refine ⟨_, t', hrun, hfiles, rfl, rfl, rfl, ?_, ?_, ?_⟩
  · rw [h.report, h.helpers, ← map_path_modules, List.map_map]
    rfl
  · intro result hresult
    obtain ⟨m, hm, rfl⟩ := List.mem_map.mp hresult
    have hplaced := (h.places.mono h.sameBut).placed m hm
    exact ⟨m.2, rfl, (read_placed hplaced).mpr (h.held m hm)⟩
  · intro checked u hcheck
    have hends := (ends_run walker config .check t.files).of_run hcheck
    rw [ht] at hends
    have hcompared := h.compared hends
    refine ⟨?_, fun i path content hi => ?_, ?_⟩
    · rw [List.map_map, ← List.forall₂_eq_eq_eq, List.forall₂_map_left_iff,
        List.forall₂_map_right_iff]
      exact (hcompared.imp fun _ _ hm => hm.1).flip
    · obtain ⟨hlength, hget⟩ := List.forall₂_iff_get.mp hcompared
      rw [List.getElem?_map, Option.map_eq_some_iff] at hi
      obtain ⟨m, hm, hpreviewed⟩ := hi
      obtain ⟨rfl, rfl⟩ := Treatment.previewed.inj hpreviewed
      obtain ⟨hi, rfl⟩ := List.getElem?_eq_some_iff.mp hm
      have hi' : i < checked.results.length := hlength ▸ hi
      rw [List.getElem?_eq_getElem hi', Option.some.injEq,
        read_placed (h.places.placed _ (List.getElem_mem hi))]
      exact (hget i hi hi').2.1
    · rw [h.sameFiles_iff]
      exact filter_isStale_eq_nil (hcompared.imp fun _ _ hm => hm.2.2)

theorem modes_agree_sample :
    ∃ written s' previewed t', (run sampleWalker sampleConfig .write).run.run ⟨sampleFiles, []⟩ =
        (.ok written, s') ∧
      (run sampleWalker sampleConfig .dryRun).run.run ⟨sampleFiles, []⟩ = (.ok previewed, t') ∧
      previewed.report = written.report ∧
      previewed.results.map Treatment.path = ["out/UserSchema.ts", "out/../zod-mods.ts"] := by
  obtain ⟨files, heffect⟩ := effect_sampleFiles
  obtain ⟨s', hrun, -⟩ := exists_run_of_effect (s := ⟨sampleFiles, []⟩) rfl heffect
  obtain ⟨previewed, t', hpreview, -, -, hreport, -, hpaths, -⟩ :=
    modes_agree obtained_sampleConfig (.inr rfl) (by rfl) hrun (t := ⟨sampleFiles, []⟩) rfl
  exact ⟨_, s', previewed, t', hrun, hpreview, hreport, hpaths⟩

end SchemaGen.Run
