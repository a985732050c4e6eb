import SchemaGen.Proofs.RunOutputs
import SchemaGen.Proofs.TomlTexts

/-!
# Modules that are overwritten

A run stores the modules of its data transfer objects first and that of the shared validators
last, in the same folder and by names of different origin: the name of an object with the suffix
of schema names, and the configured path of the shared validators.  Nothing compares the two.  So
the shared validators are stored in any case, and what was stored as the module of an object is
still there unless both paths lead to the same file.

* `Document.content_ne_sharedValidators`: no document is the module of the shared validators.
* `OutputFolder.read_of_stored`: what storing one more module does to the files.
* `Run.SharesFile`: the shared validators are put where a path leads.
* `Run.holds_unless_shared`: which modules of a run are still there when it has ended.
* `Run.overwrites_schema`: a run that loses one.
-/

namespace SchemaGen

open FileSystem Text

/-! ## The texts of modules differ -/

/-- Below its first line a document goes on with a statement. -/
theorem Document.exists_lines_ofDto (options : Options) (dto : Dto) :
    ∃ line rest, (ofDto options dto).lines =
        Import.statement ⟨coreValidator, options.library⟩ :: line :: rest ∧
      ∃ c, line.toList.head? = some c ∧ c ≠ '\n' := by
  unfold lines
  rcases (ofDto options dto).imports with ⟨_ | ⟨i, imports⟩, _⟩
  · exact ⟨_, _, rfl, 'e', by simp, by decide⟩
  · exact ⟨_, _, rfl, 'i', by simp [Import.statement], by decide⟩

/-- Below its first line the module of the shared validators has an empty one. -/
theorem SharedValidators.exists_lines (options : Options) :
    ∃ rest, lines options = Import.statement ⟨coreValidator, options.library⟩ :: "" :: rest :=
  ⟨_, rfl⟩

/-- No document has the text of the shared validators. -/
theorem Document.content_ne_sharedValidators (options : Options) (dto : Dto) :
    (ofDto options dto).content ≠ SharedValidators.content options := by
  intro h
  obtain ⟨line, rest, hlines, c, hline, hc⟩ := exists_lines_ofDto options dto
  obtain ⟨rest', hlines'⟩ := SharedValidators.exists_lines options
  have hlist := congrArg String.toList h
  rw [content, SharedValidators.content, hlines, hlines'] at hlist
  simp only [toList_unlines_cons, List.append_cancel_left_eq, List.cons.injEq, true_and] at hlist
  have hhead := congrArg List.head? hlist
  rw [List.head?_append, hline] at hhead
  exact hc (Option.some.inj hhead)

namespace OutputFolder

variable {fs fs' : FileSystem}

/-! ## Storing one more module -/

/-- Storing a module leaves another file as it was, unless the paths of both lead there. -/
theorem read_of_stored {path content : String} {t : Treatment}
    (h : stored path content fs = (.ok t, fs')) :
    ∃ place, fs'.locate path = .ok place ∧ fs'.read path = .ok content.toUTF8 ∧
      ∀ other l bytes, fs.locate other = .ok l → fs.entryAt? l = some (.file bytes) →
        fs'.locate other = .ok l ∧ (l = place → fs'.read other = .ok content.toUTF8) ∧
          (l ≠ place → fs'.read other = .ok bytes) := by
  obtain ⟨-, made, place, hgrown, hplaced, hdir, rfl⟩ := exists_made_of_stored h
  have hput := sameBut_put (p := fun _ => true) rfl hplaced.ne_nil hdir content.toUTF8
  have hlocate := hput.locate_iff.mpr hplaced.locate
  have hentry : (made.put place (.file content.toUTF8)).entryAt? place =
      some (.file content.toUTF8) := by
    rw [entryAt?_put hplaced.ne_nil, if_pos rfl]
  refine ⟨place, hlocate, read_eq_ok.mpr ⟨place, hlocate, hentry⟩, ?_⟩
  intro other l bytes hother hfile
  have hlocate' := hput.locate_iff.mpr (hgrown.locate hother)
  refine ⟨hlocate', ?_, fun hne => read_eq_ok.mpr ⟨l, hlocate', ?_⟩⟩
  · rintro rfl
    exact read_eq_ok.mpr ⟨l, hlocate', hentry⟩
  · rw [entryAt?_put hplaced.ne_nil, if_neg hne]
    exact hgrown.file_iff.mpr hfile

/-- Modules that are stored after others. -/
theorem exists_of_treatedAll_append {dir : String} {mode : Mode}
    {modules more : List (String × String)} {results : List Treatment}
    (h : treatedAll dir mode (modules ++ more) fs = (.ok (), results, fs')) :
    ∃ first last mid, treatedAll dir mode modules fs = (.ok (), first, mid) ∧
      treatedAll dir mode more mid = (.ok (), last, fs') := by
  rw [treatedAll_append] at h
  rcases hfirst : treatedAll dir mode modules fs with ⟨_ | _, first, mid⟩
  · rw [hfirst] at h
    simp at h
  · rw [hfirst] at h
    obtain ⟨hok, h⟩ := Prod.mk.inj h
    exact ⟨first, _, mid, rfl, Prod.ext hok (Prod.ext rfl (Prod.mk.inj h).2)⟩

end OutputFolder

namespace Run

open OutputFolder

variable {walker : Walker} {config : Config} {fs fs' : FileSystem} {written : Outcome}
  {dtos : List Dto}

/-- The shared validators have been put where a path leads. -/
def SharesFile (fs : FileSystem) (helpers : Option String) (path : String) : Prop :=
  ∃ helpersPath l, helpers = some helpersPath ∧ fs.locate helpersPath = .ok l ∧
    fs.locate path = .ok l

/-- Either the shared validators are put into the folder or they are not. -/
theorem helpers_eq (config : Config) :
    helperModules config = [] ∧ helpersPath? config = none ∨
      ∃ stem, helperModules config = [(stem ++ ".ts", SharedValidators.content config.options)] ∧
        helpersPath? config = some (Path.join config.outputDir (stem ++ ".ts")) := by
  unfold helperModules helpersPath?
  cases config.emitHelpers with
  | false => exact .inl ⟨rfl, rfl⟩
  | true =>
    cases hfile : config.helpersFileName? with
    | none => exact .inl ⟨rfl, rfl⟩
    | some name =>
      obtain ⟨-, rfl⟩ := Config.helpersFileName?_eq_some.mp hfile
      exact .inr ⟨_, rfl, rfl⟩

/-- The path of a file that a run reports for a data transfer object. -/
def schemaPath (config : Config) (dto : Dto) : String :=
  Path.join config.outputDir (Document.ofDto config.options dto).fileName

/-- The modules of data transfer objects are there when they have been stored. -/
theorem read_of_treatedAll (hconfig : config.Obtained) (hdtos : Manifest.Distinct dtos)
    {base : Location} (hbased : Based fs config.outputDir base) {results : List Treatment}
    (h : treatedAll config.outputDir .write (dtos.map (moduleOf config.options)) fs =
      (.ok (), results, fs')) :
    ∀ dto ∈ dtos, ∃ l, fs'.locate (schemaPath config dto) = .ok l ∧
      fs'.entryAt? l = some (.file (Document.ofDto config.options dto).content.toUTF8) := by
  have hnames : ∀ m ∈ dtos.map (moduleOf config.options), ModuleName m.1 := by
    intro m hm
    obtain ⟨dto, hdto, rfl⟩ := List.mem_map.mp hm
    exact moduleName_moduleOf hconfig (hdtos.identifier dto hdto)
  have hplaces := hbased.places_of_treatedAll hnames
    (nodup_map_moduleOf config.options hdtos.nodup) h
  obtain ⟨hsame, -, hheld, -⟩ := hplaces.stored h
  intro dto hdto
  have hm := List.mem_map_of_mem (f := moduleOf config.options) hdto
  exact ⟨_, hsame.locate_iff.mpr (hplaces.placed _ hm).locate, hheld _ hm⟩

/-- The shared validators are there when they have been put into the folder, and another file is
as it was unless it is theirs. -/
theorem read_of_helperModules {mid : FileSystem} {results : List Treatment}
    (h : treatedAll config.outputDir .write (helperModules config) mid = (.ok (), results, fs')) :
    (∀ path, helpersPath? config = some path →
      fs'.read path = .ok (SharedValidators.content config.options).toUTF8) ∧
    ∀ other l bytes, mid.locate other = .ok l → mid.entryAt? l = some (.file bytes) →
      (SharesFile fs' (helpersPath? config) other →
        fs'.read other = .ok (SharedValidators.content config.options).toUTF8) ∧
      (¬ SharesFile fs' (helpersPath? config) other → fs'.read other = .ok bytes) := by
  rcases helpers_eq config with ⟨hnone, hpath⟩ | ⟨stem, hone, hpath⟩
  · rw [hnone] at h
    obtain rfl : mid = fs' := congrArg (fun r => r.2.2) h
    rw [hpath]
    refine ⟨by simp, fun other l bytes hlocate hentry => ⟨?_, fun _ => ?_⟩⟩
    · rintro ⟨_, _, hsome, -⟩
      simp at hsome
    · exact read_eq_ok.mpr ⟨l, hlocate, hentry⟩
  · rw [hone] at h
    obtain ⟨t, files, rest, hstored, hrest, -⟩ := treatedAll_cons_eq_ok.mp h
    obtain rfl : files = fs' := congrArg (fun r => r.2.2) hrest
    rw [hpath]
    obtain ⟨place, hplace, hshared, hother⟩ := read_of_stored hstored
    refine ⟨by simpa using hshared, fun other l bytes hlocate hentry => ?_⟩
    obtain ⟨hlocate', hsame, hdifferent⟩ := hother other l bytes hlocate hentry
    refine ⟨?_, fun hnot => hdifferent ?_⟩
    · rintro ⟨_, l', hsome, hl, hl'⟩
      obtain rfl := Option.some.inj hsome
      obtain rfl := Except.ok.inj (hplace.symm.trans hl)
      exact hsame (Except.ok.inj (hlocate'.symm.trans hl'))
    · rintro rfl
      exact hnot ⟨_, l, rfl, hplace, hlocate'⟩

/-- When a run has stored its modules, the shared validators are there, and the module of a data
transfer object is there unless it shares its file with them. -/
theorem read_of_effect (hconfig : config.Obtained)
    (h : effect walker config .write fs = (.ok written, fs')) :
    ∃ files dtos, prepared config.outputDir .write fs = (.ok (), files) ∧
      sought walker config files = .ok written.manifests ∧
      Manifest.loaded files written.manifests = .ok dtos ∧
      written.report.files = dtos.map (fun dto => (Document.ofDto config.options dto).fileName) ∧
      (∀ path, written.helpers = some path →
        fs'.read path = .ok (SharedValidators.content config.options).toUTF8) ∧
      ∀ dto ∈ dtos,
        (fs'.read (schemaPath config dto) =
            .ok (Document.ofDto config.options dto).content.toUTF8 ↔
          ¬ SharesFile fs' written.helpers (schemaPath config dto)) := by
  obtain ⟨files, manifests, dtos, results, hprepared, hsought, hloaded, htreated, rfl⟩ :=
    effect_eq_ok.mp h
  obtain ⟨base, hbased⟩ := exists_based_of_prepared hprepared
  have hdtos := Manifest.distinct_of_loaded hloaded
  refine ⟨files, dtos, hprepared, hsought, hloaded, rfl, ?_⟩
  obtain ⟨first, last, mid, hfirst, hlast⟩ := exists_of_treatedAll_append htreated
  have hread := read_of_treatedAll hconfig hdtos hbased hfirst
  obtain ⟨hhelpers, hothers⟩ := read_of_helperModules hlast
  refine ⟨hhelpers, fun dto hdto => ?_⟩
  obtain ⟨l, hlocate, hentry⟩ := hread dto hdto
  obtain ⟨hshared, hkept⟩ := hothers _ l _ hlocate hentry
  refine ⟨fun hsame hshares => ?_, hkept⟩
  -- The file would have both texts.
  have heq := Except.ok.inj ((hshared hshares).symm.trans hsame)
  exact Document.content_ne_sharedValidators config.options dto
    (String.toByteArray_inj.mp heq).symm

/-- The outputs of a run do not overwrite each other, but for one case.  When a run that stores
modules has succeeded, the shared validators are at their path if they were put anywhere, and for
each loaded data transfer object, in order, a file has been reported.  At the path of this file is
the text of the document iff the path of the shared validators does not lead to the same file. -/
theorem holds_unless_shared (hconfig : config.Obtained) {s s' : Session}
    (hrun : (run walker config .write).run.run s = (.ok written, s')) :
    ∃ dtos, Loads walker config .write s dtos ∧
      written.report.files =
        dtos.map (fun dto => (Document.ofDto config.options dto).fileName) ∧
      (∀ path, written.helpers = some path →
        s'.files.read path = .ok (SharedValidators.content config.options).toUTF8) ∧
      ∀ dto ∈ dtos,
        (s'.files.read (schemaPath config dto) =
            .ok (Document.ofDto config.options dto).content.toUTF8 ↔
          ¬ SharesFile s'.files written.helpers (schemaPath config dto)) := by
  have heffect := (ends_run walker config .write s.files).of_run hrun
  obtain ⟨files, dtos, hprepared, hsought, hloaded, hread⟩ := read_of_effect hconfig heffect
  exact ⟨dtos, loads_iff.mpr ⟨files, _, hprepared, hsought, hloaded⟩, hread⟩

/-- What is loaded from the sample files. -/
theorem eq_of_loads_sampleFiles (hdir : sampleFiles.isDirectory config.outputDir = true)
    (hsought : sought walker config sampleFiles = .ok ["./dtos/a.dto.json"])
    (h : Loads walker config .write ⟨sampleFiles, []⟩ dtos) : dtos = [sampleDto] := by
  obtain ⟨files, manifests, hprepared, hsought', hloaded⟩ := loads_iff.mp h
  rw [prepared_of_isDirectory hdir] at hprepared
  obtain rfl := (Prod.mk.inj hprepared).2
  obtain rfl := Except.ok.inj (hsought.symm.trans hsought')
  exact Except.ok.inj (hloaded.symm.trans loaded_sampleFiles)

theorem holds_unless_shared_sample :
    ∃ written s', (run sampleWalker sampleConfig .write).run.run ⟨sampleFiles, []⟩ =
        (.ok written, s') ∧
      s'.files.read "out/../zod-mods.ts" =
        .ok (SharedValidators.content sampleConfig.options).toUTF8 ∧
      s'.files.read "out/UserSchema.ts" =
        .ok (Document.ofDto sampleConfig.options sampleDto).content.toUTF8 := by
  obtain ⟨files, heffect⟩ := effect_sampleFiles
  obtain ⟨s', hrun, -⟩ := exists_run_of_effect (s := ⟨sampleFiles, []⟩) rfl heffect
  obtain ⟨dtos, hloads, -, hhelpers, hdtos⟩ := holds_unless_shared obtained_sampleConfig hrun
  obtain rfl := eq_of_loads_sampleFiles rfl rfl hloads
  refine ⟨_, s', hrun, hhelpers _ rfl, (hdtos sampleDto (List.mem_singleton_self _)).mpr ?_⟩
  rintro ⟨path, l, hpath, hl, hl'⟩
  obtain rfl := Option.some.inj hpath
  -- The two paths end in different names.
  have hname : Path.fileName? "out/../zod-mods.ts" = some "zod-mods.ts" := rfl
  have hname' : Path.fileName? "out/UserSchema.ts" = some "UserSchema.ts" := rfl
  obtain ⟨directory, rfl⟩ := exists_of_locate hname hl
  obtain ⟨directory', heq⟩ := exists_of_locate hname' hl'
  exact absurd (List.append_inj_right' heq rfl) (by decide)

/-! ## A schema that is lost -/

/-- A configuration file that names the shared validators like a schema. -/
def overwritingText : String :=
  "imports.helpers_module = \"./UserSchema\"\n"

/-- The configuration of a run that generates them. -/
def overwritingConfig : Config :=
  { Config.standard with outputDir := "out", emitHelpers := true, helpersModule := "./UserSchema" }

theorem ofToml?_overwritingText : Config.ofToml? overwritingText =
    some { Config.standard with helpersModule := "./UserSchema" } := by
  have hkey : Toml.Key.ofTokens? [.bare ('i' :: "mports.helpers_module".toList)] =
      some (["imports"], "helpers_module") := by
    decide +kernel
  have hlines : Toml.Lines overwritingText.toList
      [.assign ["imports"] "helpers_module" (.text "./UserSchema")] := by
    intro before rest
    have htext : overwritingText.toList ++ rest = 'i' :: ("mports.helpers_module".toList ++
        ' ' :: '=' :: ' ' :: quoted "./UserSchema".toList ('\n' :: rest)) := by
      simp [overwritingText, quoted]
    rw [htext, Toml.Reader.read?_assignment (by decide) (by decide) hkey (by decide),
      String.ofList_toList]
    rfl
  have hstatements := Toml.statements?_of_lines (by decide) (by decide) hlines
  unfold Config.ofToml? Toml.decode? Toml.Document.ofText?
  rw [hstatements]
  rfl

theorem obtained_overwritingConfig : overwritingConfig.Obtained := by
  have hfrom : ∃ fs, Config.loadedFrom none fs =
      .ok { Config.standard with helpersModule := "./UserSchema" } := by
    refine ⟨⟨[], [([Config.standardFile], .file overwritingText.toUTF8)]⟩, ?_⟩
    have htext : FileSystem.readText ⟨[], [([Config.standardFile], .file overwritingText.toUTF8)]⟩
        Config.standardFile = .ok overwritingText :=
      readText_eq_ok.mpr ⟨_, rfl, fromUTF8?_toUTF8 _⟩
    have hexists : FileSystem.exists
        ⟨[], [([Config.standardFile], .file overwritingText.toUTF8)]⟩ Config.standardFile = true :=
      exists_iff.mpr ⟨_, rfl⟩
    unfold Config.loadedFrom
    rw [Option.getD_none, if_pos hexists, htext]
    simp only [Config.parse, ofToml?_overwritingText]
    rfl
  obtain ⟨fs, hfrom⟩ := hfrom
  have hload := Config.ends_load none fs
  rw [hfrom] at hload
  obtain ⟨s', hrun, -⟩ := Job.Ends.exists_run (s := ⟨fs, []⟩) hload
  exact ⟨none, { output := some "out", emitHelpers := some true }, _, s', _, hrun, rfl⟩

/-- The run succeeds and reports the module of the data transfer object, but the file has the text
of the shared validators. -/
theorem overwrites_schema : overwritingConfig.Obtained ∧
    ∃ written s', (run sampleWalker overwritingConfig .write).run.run ⟨sampleFiles, []⟩ =
        (.ok written, s') ∧
      Loads sampleWalker overwritingConfig .write ⟨sampleFiles, []⟩ [sampleDto] ∧
      written.report.files = ["UserSchema.ts"] ∧
      s'.files.read (Path.join overwritingConfig.outputDir "UserSchema.ts") =
        .ok (SharedValidators.content overwritingConfig.options).toUTF8 ∧
      s'.files.read (Path.join overwritingConfig.outputDir "UserSchema.ts") ≠
        .ok (Document.ofDto overwritingConfig.options sampleDto).content.toUTF8 := by
  have hprepared : prepared overwritingConfig.outputDir .write sampleFiles =
      (.ok (), sampleFiles) := prepared_of_isDirectory rfl .write
  have hsought : sought sampleWalker overwritingConfig sampleFiles =
      .ok ["./dtos/a.dto.json"] := rfl
  have htreated : treatedAll overwritingConfig.outputDir .write
      (modules overwritingConfig [sampleDto]) sampleFiles =
      (.ok (), [.written "out/UserSchema.ts" 131, .written "out/./UserSchema.ts" 739],
        (treatedAll overwritingConfig.outputDir .write (modules overwritingConfig [sampleDto])
          sampleFiles).2.2) :=
    Prod.ext rfl (Prod.ext (by decide +kernel) rfl)
  have heffect := effect_eq_ok.mpr
    ⟨sampleFiles, _, _, _, hprepared, hsought, loaded_sampleFiles, htreated, rfl⟩
  obtain ⟨s', hrun, hfiles⟩ := exists_run_of_effect (s := ⟨sampleFiles, []⟩) rfl heffect
  have hloads : Loads sampleWalker overwritingConfig .write ⟨sampleFiles, []⟩ [sampleDto] :=
    loads_iff.mpr ⟨sampleFiles, _, hprepared, hsought, loaded_sampleFiles⟩
  obtain ⟨-, -, -, -, -, -, hhelpers, -⟩ := read_of_effect obtained_overwritingConfig heffect
  -- The path of the shared validators and that of the schema lead to one location.
  have hgrown := grown_effect sampleWalker obtained_overwritingConfig ⟨sampleFiles, []⟩
  rw [heffect] at hgrown
  obtain ⟨l, hlocate, hentry⟩ := read_eq_ok.mp (hhelpers "out/./UserSchema.ts" rfl)
  have hhere : sampleFiles.locate "out/./UserSchema.ts" = .ok ["out", "UserSchema.ts"] := rfl
  have hthere : sampleFiles.locate "out/UserSchema.ts" = .ok ["out", "UserSchema.ts"] := rfl
  obtain rfl := Except.ok.inj ((hgrown.locate hhere).symm.trans hlocate)
  have hread := read_eq_ok.mpr ⟨_, hgrown.locate hthere, hentry⟩
  rw [← hfiles] at hread
  refine ⟨obtained_overwritingConfig, _, s', hrun, hloads, rfl, hread, fun hdocument => ?_⟩
  have heq := Except.ok.inj (hread.symm.trans hdocument)
  exact Document.content_ne_sharedValidators _ _ (String.toByteArray_inj.mp heq).symm

end Run

end SchemaGen
