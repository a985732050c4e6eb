import Mathlib.Data.List.Nodup
import SchemaGen.Proofs.FolderNames
import SchemaGen.Proofs.Identifiers
import SchemaGen.Proofs.LoadedManifests
import SchemaGen.Proofs.RunEffect

/-!
# The names of modules

A configuration that has been loaded only names schemas by identifiers, since the suffix of their
names has been checked.  So the name of a module has no slash, no dash, and is that of one data
transfer object only; in particular it never is the name of the shared validators.

* `Config.Obtained`: the configurations of runs.
* `Config.Obtained.suffix`: what the check of a configuration promises about names.
* `Options.slash_notMem_schemaName`: what follows for the names of schemas.
* `Run.moduleName_of_mem`, `Run.nodup_modules`: the modules of a run have names with places, and
  no two the same.
-/

namespace SchemaGen

open OutputFolder

/-! ## Configurations -/

namespace Config

/-- A configuration of a run: what was loaded in some session, with settings of the command
line. -/
def Obtained (config : Config) : Prop :=
  ∃ file arguments s s' loaded, (load file).run.run s = (.ok loaded, s') ∧
    config = withArguments loaded arguments

/-- The configuration that a file tells. -/
def loadedFrom (file : Option String) (fs : FileSystem) : Except ConfigError Config :=
  if fs.exists (file.getD standardFile) then
    match fs.readText (file.getD standardFile) with
    | .error e => .error (.unreadable (file.getD standardFile) e)
    | .ok text => parse (file.getD standardFile) text
  else .ok standard

theorem ends_load (file : Option String) (fs : FileSystem) :
    (load file).Ends fs (loadedFrom file fs, fs) := by
  unfold load loadedFrom
  refine (Job.ends_inspect _ fs).bind ?_
  cases hexists : fs.exists (file.getD standardFile) with
  | false => simpa [hexists] using Job.ends_pure standard fs
  | true =>
    have haccess := Job.ends_access (ConfigError.unreadable (file.getD standardFile))
      (fun fs => fs.readText (file.getD standardFile)) fs
    simp only [Bool.not_true, Bool.false_eq_true, if_false, if_true]
    cases htext : fs.readText (file.getD standardFile) with
    | error e =>
      rw [htext] at haccess
      exact haccess.bind_error
    | ok text =>
      rw [htext] at haccess
      exact haccess.bind (Job.ends_ofExcept _ fs)

theorem suffix_of_checkUsable {config : Config} (h : config.checkUsable = .ok ()) :
    ∀ c ∈ config.suffix.toList, isSuffixChar c = true := by
  unfold checkUsable at h
  cases hsuffix : config.suffix.toList.all isSuffixChar with
  | true => simpa using hsuffix
  | false => simp [hsuffix] at h

/-- Overrides change no other option. -/
theorem options_eq (config : Config) : config.options =
    ⟨config.library, config.helpersModule, config.suffix, config.nameStyle,
      config.options.overrides⟩ := by
  have hfold : ∀ (entries : List (String × String)) (options : Options),
      entries.foldl (fun options e => options.override e.1 e.2) options =
        { options with overrides :=
            (entries.foldl (fun options e => options.override e.1 e.2) options).overrides } := by
    intro entries
    induction entries with
    | nil => exact fun _ => rfl
    | cons e entries ih => exact fun options => ih _
  exact hfold config.overrides.entries _

theorem suffix_options (config : Config) : config.options.suffix = config.suffix :=
  congrArg Options.suffix config.options_eq

theorem helpersModule_options (config : Config) :
    config.options.helpersModule = config.helpersModule :=
  congrArg Options.helpersModule config.options_eq

/-- The suffix of schema names only has characters of identifiers. -/
theorem Obtained.suffix {config : Config} (h : config.Obtained) :
    ∀ c ∈ config.options.suffix.toList, isSuffixChar c = true := by
  rw [suffix_options]
  obtain ⟨file, arguments, s, s', loaded, hload, rfl⟩ := h
  have hloaded := (Prod.mk.inj ((ends_load file s.files).of_run hload)).1
  have hsuffix : ∀ c ∈ loaded.suffix.toList, isSuffixChar c = true := by
    unfold loadedFrom at hloaded
    split at hloaded
    · split at hloaded
      · simp at hloaded
      · unfold parse at hloaded
        split at hloaded
        · simp at hloaded
        · obtain ⟨_, husable, hconfig⟩ := bind_eq_ok.mp hloaded
          obtain rfl := Except.ok.inj hconfig
          exact suffix_of_checkUsable husable
    · obtain rfl := Except.ok.inj hloaded
      have hall : standard.suffix.toList.all isSuffixChar = true := by decide
      exact List.all_eq_true.mp hall
  exact hsuffix

end Config

/-! ## Names of schemas -/

namespace Options

variable {options : Options} {name : String}

/-- The name of a schema only has characters of identifiers, if the suffix has no others. -/
theorem isSuffixChar_of_mem_schemaName
    (hsuffix : ∀ c ∈ options.suffix.toList, Config.isSuffixChar c = true)
    (hname : TypeName.isIdentifier name = true) :
    ∀ c ∈ (options.schemaName name).toList, Config.isSuffixChar c = true := by
  intro c hc
  unfold schemaName at hc
  rw [String.toList_append, List.mem_append] at hc
  rcases hc with hc | hc
  · exact TypeName.isSuffixChar_of_isIdentifierPart (TypeName.isIdentifierPart_of_mem hname c hc)
  · exact hsuffix c hc

/-- The name of a schema has no slash. -/
theorem slash_notMem_schemaName
    (hsuffix : ∀ c ∈ options.suffix.toList, Config.isSuffixChar c = true)
    (hname : TypeName.isIdentifier name = true) : '/' ∉ (options.schemaName name).toList := by
  intro hslash
  exact absurd (isSuffixChar_of_mem_schemaName hsuffix hname _ hslash) (by decide)

end Options

/-! ## Modules -/

namespace Run

variable {config : Config} {dtos : List Dto}

/-- The module of a data transfer object is named plainly, and not like the shared validators. -/
theorem moduleName_moduleOf (hconfig : config.Obtained) {dto : Dto}
    (hname : TypeName.isIdentifier dto.name = true) :
    ModuleName (moduleOf config.options dto).1 := by
  have hslash := Options.slash_notMem_schemaName hconfig.suffix hname
  refine .plain (config.options.schemaName dto.name) hslash fun heq => ?_
  have hstem : config.options.schemaName dto.name = "zod-mods" := by
    rw [show "zod-mods.ts" = "zod-mods" ++ ".ts" from rfl] at heq
    exact String.append_left_inj _ |>.mp heq
  have hchars := Options.isSuffixChar_of_mem_schemaName hconfig.suffix hname
  rw [hstem] at hchars
  exact absurd (hchars '-' (by decide)) (by decide)

/-- The shared validators, if they are put anywhere, are put where they are by default. -/
theorem map_fst_helperModules
    (hhelpers : config.emitHelpers = false ∨
      config.helpersModule = Options.defaultHelpersModule) :
    (helperModules config).map Prod.fst = [] ∨
      (helperModules config).map Prod.fst = [standardHelpersFile] := by
  unfold helperModules
  rcases hhelpers with hemit | hmodule
  · rw [hemit]
    exact .inl rfl
  · have hfile : config.helpersFileName? = some standardHelpersFile := by
      unfold Config.helpersFileName?
      rw [hmodule]
      rfl
    rw [hfile]
    cases config.emitHelpers with
    | false => exact .inl rfl
    | true => exact .inr rfl

/-- The modules of a run have names with places. -/
theorem moduleName_of_mem (hconfig : config.Obtained)
    (hhelpers : config.emitHelpers = false ∨
      config.helpersModule = Options.defaultHelpersModule)
    (hdtos : Manifest.Distinct dtos) : ∀ m ∈ modules config dtos, ModuleName m.1 := by
  intro m hm
  rcases List.mem_append.mp hm with hm | hm
  · obtain ⟨dto, hdto, rfl⟩ := List.mem_map.mp hm
    exact moduleName_moduleOf hconfig (hdtos.identifier dto hdto)
  · have hfile : m.1 = standardHelpersFile := by
      have hname := List.mem_map_of_mem (f := Prod.fst) hm
      rcases map_fst_helperModules hhelpers with hnone | hone
      · rw [hnone] at hname
        exact absurd hname (List.not_mem_nil)
      · rw [hone] at hname
        exact List.mem_singleton.mp hname
    rw [hfile]
    exact .helpers

/-- No two modules of a run have the same name. -/
theorem nodup_modules (hconfig : config.Obtained)
    (hhelpers : config.emitHelpers = false ∨
      config.helpersModule = Options.defaultHelpersModule)
    (hdtos : Manifest.Distinct dtos) : ((modules config dtos).map Prod.fst).Nodup := by
  have hfiles := nodup_map_moduleOf config.options hdtos.nodup
  unfold modules
  rw [List.map_append]
  rcases map_fst_helperModules hhelpers with hnone | hone
  · rw [hnone, List.append_nil]
    exact hfiles
  · rw [hone]
    refine List.nodup_append.mpr ⟨hfiles, List.nodup_singleton _, fun file hfile other hother => ?_⟩
    obtain rfl := List.mem_singleton.mp hother
    obtain ⟨m, hm, rfl⟩ := List.mem_map.mp hfile
    obtain ⟨dto, hdto, rfl⟩ := List.mem_map.mp hm
    -- The name of the module has no slash, and that of the shared validators has one.
    have hslash := Options.slash_notMem_schemaName hconfig.suffix (hdtos.identifier dto hdto)
    exact ne_standardHelpersFile_of_stem hslash

end Run

end SchemaGen
