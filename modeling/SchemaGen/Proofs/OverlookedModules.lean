import SchemaGen.Exclusion.Visibility
import SchemaGen.Proofs.ManifestSearch

/-!
# Searches overlook modules

Storing modules makes no file that a search looks for, so a search finds what it found before, if
the walker comes to what it came to.  The walker that goes by rules does: its rules, and what it
tells repositories by, are in files with fixed names, none of which ends like that of a module.

* `Walker.OverlooksModules`: a walker whose way does not depend on modules.
* `Exclusion.fileOf_of_sameBut`, `Exclusion.isVisible_of_sameBut`: the rules stay the same, and so
  does what they exclude.
* `Exclusion.overlooksModules_walker`: the walker that goes by the rules overlooks modules.
* `Discovery.searched_of_sameBut`, `Run.sought_of_sameBut`: a search finds what it found before.
-/

namespace SchemaGen

open FileSystem

variable {fs fs' : FileSystem} {walker : Walker}

/-! ## Modules are not looked for -/

namespace Discovery

/-- What is at the location of a module is not looked for. -/
theorem isWanted_of_isModuleLocation (d : Discovery) (fs : FileSystem) {names : Location}
    (h : isModuleLocation names = true) : d.isWanted fs names = false := by
  obtain ⟨directory, name, rfl⟩ := isModuleLocation_iff.mp h
  obtain ⟨path, hpath⟩ : ∃ path, relativePath (directory ++ [name ++ ".ts"]) = path ++ ".ts" := by
    unfold relativePath
    cases directory with
    | nil => exact ⟨name, by simp⟩
    | cons first directory =>
      rw [String.intercalate_append_of_ne_nil (by simp) (by simp), String.intercalate_singleton]
      exact ⟨_, (String.append_assoc ..).symm⟩
  obtain ⟨stem, hstem⟩ := Path.fileName?_append_ts path
  unfold isWanted
  rw [pathOf_of_ne_nil _ (List.concat_ne_nil _ _), hpath,
    Path.isManifest_of_append_ts (Path.fileName?_join hstem d.input), Bool.and_false,
    Bool.false_and]

/-- Storing modules does not change what is looked for. -/
theorem isWanted_of_sameBut (h : SameBut isModuleLocation fs fs') (d : Discovery)
    (names : Location) : d.isWanted fs' names = d.isWanted fs names := by
  unfold isWanted
  cases hmanifest : Path.isManifest (pathOf d.input names) with
  | false => rw [Bool.and_false, Bool.and_false]
  | true =>
    have hplace : ∀ l, fs.locate (pathOf d.input names) = .ok l → isModuleLocation l = false :=
      fun l => isModuleLocation_of_isManifest hmanifest
    have hfile : fs'.isFile (pathOf d.input names) = fs.isFile (pathOf d.input names) := by
      rw [Bool.eq_iff_iff, isFile_iff, isFile_iff]
      exact exists_congr fun content => h.stat_iff hplace
    rw [hfile]

/-- Storing modules does not change which items of a walk are manifests. -/
theorem manifestsAmong_of_sameBut (h : SameBut isModuleLocation fs fs') (d : Discovery)
    (items : List (Except String Location)) :
    d.manifestsAmong fs' items = d.manifestsAmong fs items := by
  induction items with
  | nil => rfl
  | cons item items ih =>
    cases item with
    | error fault => rfl
    | ok names => rw [manifestsAmong, manifestsAmong, ih, isWanted_of_sameBut h]

end Discovery

/-! ## What is excluded -/

namespace Exclusion

variable {personal : Verdicts} {versionControl : Bool}

/-- A file whose name does not end like that of a module is the same wherever a path finds it. -/
theorem lookUp_of_sameBut (h : SameBut isModuleLocation fs fs') {path name : String}
    (hname : Path.fileName? path = some name)
    (hmodule : ".ts".toList.isSuffixOf name.toList = false) : lookUp fs' path = lookUp fs path := by
  have hstat : ∀ e, fs'.stat path = .ok e ↔ fs.stat path = .ok e := fun e =>
    h.stat_iff fun l hlocate => (isModuleLocation_of_locate hname hlocate).trans hmodule
  unfold lookUp
  cases hbefore : fs.stat path with
  | ok e => rw [(hstat e).mpr hbefore]
  | error e =>
    cases hafter : fs'.stat path with
    | ok e' => exact absurd (hbefore.symm.trans ((hstat e').mp hafter)) (by simp)
    | error e' => rfl

theorem linked_of_sameBut (h : SameBut isModuleLocation fs fs') (link : RuleFile) :
    linked fs' link = linked fs link := by
  have hcommon : ∀ directory, lookUp fs' (Path.join directory "commondir") =
      lookUp fs (Path.join directory "commondir") := by
    intro directory
    have hname : Path.fileName? (Path.join directory "commondir") = some "commondir" :=
      Path.fileName?_join rfl directory
    exact lookUp_of_sameBut h hname rfl
  have hown : ∀ directory line, lookUp fs' (ownRulesPath directory line) =
      lookUp fs (ownRulesPath directory line) := by
    intro directory line
    have hname : Path.fileName? (ownRulesPath directory line) = some "exclude" :=
      Path.fileName?_join rfl _
    exact lookUp_of_sameBut h hname rfl
  unfold linked
  simp only [hcommon, hown]

/-- Storing modules changes no file of rules. -/
theorem fileOf_of_sameBut (h : SameBut isModuleLocation fs fs') (directory : Location)
    (kind : RuleKind) : fileOf fs' directory kind = fileOf fs directory kind := by
  have hfile : ∀ l name, isModuleLocation (l ++ [name]) = false →
      fileAt fs' (l ++ [name]) = fileAt fs (l ++ [name]) := by
    intro l name hmodule
    unfold fileAt
    rw [h.entryAt?_eq hmodule]
  have hown := hfile (directory ++ [dataName, "info"]) "exclude" (isModuleLocation_concat _ _)
  simp only [List.append_assoc, List.cons_append, List.nil_append] at hown
  cases kind with
  | general => exact congrArg Except.ok (hfile _ _ (isModuleLocation_concat _ _))
  | shared => exact congrArg Except.ok (hfile _ _ (isModuleLocation_concat _ _))
  | own =>
    unfold fileOf
    rw [hfile directory dataName (isModuleLocation_concat _ _), hown]
    simp only [linked_of_sameBut h]

theorem insideRepository_of_sameBut (h : SameBut isModuleLocation fs fs')
    (directories : List Location) :
    insideRepository fs' directories = insideRepository fs directories := by
  have hmark : ∀ directory, isRepository fs' directory = isRepository fs directory := by
    intro directory
    unfold isRepository repositoryMarks
    simp only [List.any_cons, List.any_nil]
    rw [h.entryAt?_eq (isModuleLocation_concat directory dataName),
      h.entryAt?_eq (isModuleLocation_concat directory ".jj")]
  induction directories with
  | nil => rfl
  | cons directory directories ih =>
    unfold insideRepository
    rw [hmark, ih]

/-- Storing modules changes nothing about what is excluded. -/
theorem isVisible_of_sameBut (h : SameBut isModuleLocation fs fs') (root names : Location) :
    isVisible fs' personal versionControl root names =
      isVisible fs personal versionControl root names := by
  have hverdict : ∀ kind location isDirectory, verdictAt? fs' kind location isDirectory =
      verdictAt? fs kind location isDirectory := by
    intro kind location isDirectory
    funext directory
    unfold verdictAt?
    rw [fileOf_of_sameBut h]
  have hcounting : ∀ location kind, counting fs' versionControl location kind =
      counting fs versionControl location kind := by
    intro location kind
    unfold counting
    rw [insideRepository_of_sameBut h]
  have hexcluded : isExcluded fs' personal versionControl =
      isExcluded fs personal versionControl := by
    funext location isDirectory
    unfold isExcluded
    simp only [hverdict, hcounting]
  unfold isVisible reaches
  rw [hexcluded]
  simp only [h.directory_iff]

/-- Storing modules changes nothing about what is wrong with rules. -/
theorem faultItems_of_sameBut (h : SameBut isModuleLocation fs fs') (root : Location) :
    faultItems fs' versionControl root = faultItems fs versionControl root := by
  have hfaults : faultsAt fs' versionControl = faultsAt fs versionControl := by
    funext directory
    unfold faultsAt
    simp only [fileOf_of_sameBut h]
  unfold faultItems faults
  rw [hfaults]

end Exclusion

/-! ## Walkers that overlook modules -/

/-- Whether something that a walk yields is a fault, or not at the location of a module. -/
def Walker.isNoModule : Except String Location → Bool
  | .error _ => true
  | .ok names => !isModuleLocation names

/-- The way of a walker does not depend on modules: where files differ in them only, it yields the
same but for modules. -/
def Walker.OverlooksModules (walker : Walker) : Prop :=
  ∀ fs fs' versionControl path, SameBut isModuleLocation fs fs' → fs.isDirectory path = true →
    (walker.walk fs' versionControl path).filter isNoModule =
      (walker.walk fs versionControl path).filter isNoModule

/-- What leads to a location from another tells whether it is that of a module. -/
theorem isModuleLocation_append {root names : Location} (h : names ≠ []) :
    isModuleLocation (root ++ names) = isModuleLocation names := by
  unfold isModuleLocation
  rw [List.getLast?_append_of_ne_nil _ h]

/-- What is below a directory is the same but for modules. -/
theorem FileSystem.SameBut.below_eq (h : SameBut isModuleLocation fs fs') (root : Location) :
    (fs'.below root).filter (fun e => !isModuleLocation e.1) =
      (fs.below root).filter fun e => !isModuleLocation e.1 := by
  have hentries : ∀ fs'' : FileSystem,
      (fs''.below root).filter (fun e => !isModuleLocation e.1) =
        (fs''.entries.filter fun e => !isModuleLocation e.1).filterMap fun e =>
          if root.isPrefixOf e.1 && e.1 ≠ root then some (e.1.drop root.length, e.2) else none := by
    intro fs''
    unfold below
    rw [List.filter_filterMap, List.filterMap_filter]
    refine List.filterMap_congr fun e _ => ?_
    obtain ⟨location, e⟩ := e
    by_cases hbelow : (root.isPrefixOf location && decide (location ≠ root)) = true
    · obtain ⟨hbegins, hne⟩ := Bool.and_eq_true_iff.mp hbelow
      obtain ⟨names, rfl⟩ := List.isPrefixOf_iff_prefix.mp hbegins
      have hnames : names ≠ [] := by
        rintro rfl
        simp at hne
      simp only [hbelow, if_true, List.drop_left, isModuleLocation_append hnames]
      rfl
    · simp only [hbelow, Bool.false_eq_true, if_false, Option.filter_none, ite_self]
  rw [hentries fs', hentries fs, h.entries]

/-- The walker that goes by the rules overlooks modules. -/
theorem Exclusion.overlooksModules_walker (personal : Exclusion.Verdicts) :
    (Exclusion.walker personal).OverlooksModules := by
  intro fs fs' versionControl path h hdirectory
  obtain ⟨root, hlocate, -⟩ := stat_eq_ok.mp (isDirectory_iff.mp hdirectory)
  have hwalk : ∀ fs'' : FileSystem, fs''.locate path = .ok root →
      ((walker personal).walk fs'' versionControl path).filter Walker.isNoModule =
        (faultItems fs'' versionControl root).filter Walker.isNoModule ++
          ([] :: (((fs''.below root).filter fun e => !isModuleLocation e.1).filter fun e =>
            isVisible fs'' personal versionControl root e.1).map Prod.fst).map .ok := by
    intro fs'' hroot
    have hkeep : Walker.isNoModule ∘ (.ok : Location → Except String Location) =
        fun names => !isModuleLocation names := rfl
    have hself : (!isModuleLocation []) = true := rfl
    simp only [walker, hroot]
    rw [List.filter_append, List.filter_map, hkeep, List.filter_cons, if_pos hself,
      List.filter_map, List.filter_comm]
    rfl
  rw [hwalk fs' (h.locate_iff.mpr hlocate), hwalk fs hlocate, faultItems_of_sameBut h, h.below_eq]
  simp only [isVisible_of_sameBut h]

/-! ## What is found -/

namespace Discovery

/-- A search of a directory finds the same manifests after modules have been stored. -/
theorem found_of_sameBut (hwalker : walker.OverlooksModules)
    (h : SameBut isModuleLocation fs fs') {d : Discovery} (hinput : fs.isDirectory d.input = true) :
    d.found walker fs' = d.found walker fs := by
  have hskip : ∀ fs'' items, d.manifestsAmong fs'' (items.filter Walker.isNoModule) =
      d.manifestsAmong fs'' items := by
    intro fs'' items
    refine manifestsAmong_filter (fun fault => rfl) (fun names hnames => ?_) items
    have hmodule : isModuleLocation names = true := by simpa [Walker.isNoModule] using hnames
    exact isWanted_of_isModuleLocation d fs'' hmodule
  unfold found
  rw [← hskip, hwalker _ _ _ _ h hinput, hskip, manifestsAmong_of_sameBut h]

/-- A search that has found manifests finds the same after modules have been stored. -/
theorem searched_of_sameBut (hwalker : walker.OverlooksModules)
    (h : SameBut isModuleLocation fs fs') {d : Discovery} {paths : List String}
    (hpaths : searched walker d fs = .ok paths) : searched walker d fs' = .ok paths := by
  unfold searched at hpaths ⊢
  split at hpaths
  · next hexists =>
    rw [if_pos (h.exists hexists), h.isFile_eq hexists]
    split
    · next hfile =>
      rw [if_pos hfile] at hpaths
      exact hpaths
    · next hfile =>
      rw [if_neg hfile] at hpaths
      rwa [found_of_sameBut hwalker h (isDirectory_of_exists hexists (by simpa using hfile))]
  · simp at hpaths

end Discovery

/-- A run that has found manifests finds the same after modules have been stored. -/
theorem Run.sought_of_sameBut (hwalker : walker.OverlooksModules)
    (h : SameBut isModuleLocation fs fs') {config : Config} {paths : List String}
    (hpaths : sought walker config fs = .ok paths) : sought walker config fs' = .ok paths := by
  unfold sought at hpaths ⊢
  cases hfilter : config.filter with
  | none =>
    rw [hfilter] at hpaths
    exact Discovery.searched_of_sameBut hwalker h hpaths
  | some filter =>
    rw [hfilter] at hpaths
    obtain ⟨pattern, hpattern, hpaths⟩ := bind_eq_ok.mp hpaths
    exact bind_eq_ok.mpr ⟨pattern, hpattern, Discovery.searched_of_sameBut hwalker h hpaths⟩

end SchemaGen
