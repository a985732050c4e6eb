import SchemaGen.Proofs.MemoryPasses
import SchemaGen.Proofs.ModuleNames

/-!
# Passes that fail midway

A pass that stores modules in a folder which is there only fails where a directory has taken the
place of a module.  It then leaves a prefix: the modules before that one are stored as they would
have been without the failure, and nothing else has changed.  For this the modules need places of
their own, which they have because the names of data transfer objects are identifiers and differ,
and because no character of a suffix separates paths.

* `OutputFolder.treatedAll_ok_or_error`: either all modules are treated, or one fails first.
* `OutputFolder.Places.stored_front`: how far modules with places are stored.
* `Pass.stores_front`: what a pass into a folder leaves, in files and in results.
-/

namespace SchemaGen

open FileSystem

namespace OutputFolder

variable {fs fs' : FileSystem} {dir : String} {base : Location}
  {modules : List (String × String)}

/-! ## The first module that fails -/

/-- Either all modules are treated, or one is the first that fails. -/
theorem treatedAll_ok_or_error (dir : String) (mode : Mode) (modules : List (String × String))
    (fs : FileSystem) :
    (∃ results fs', treatedAll dir mode modules fs = (.ok (), results, fs')) ∨
      ∃ before m after results files e fs', modules = before ++ m :: after ∧
        treatedAll dir mode before fs = (.ok (), results, files) ∧
        treated (Path.join dir m.1) m.2 mode files = (.error e, fs') ∧
        treatedAll dir mode modules fs = (.error e, results, fs') := by
  induction modules generalizing fs with
  | nil => exact .inl ⟨[], fs, rfl⟩
  | cons m modules ih =>
    rcases htreated : treated (Path.join dir m.1) m.2 mode fs with ⟨e | t, files⟩
    · exact .inr ⟨[], m, modules, [], fs, e, files, rfl, rfl, htreated,
        treatedAll_cons_error modules htreated⟩
    · have hall := treatedAll_cons_ok modules htreated
      rcases ih files with ⟨results, fs', hrest⟩ |
        ⟨before, m', after, results, files', e, fs', rfl, hbefore, herror, hrest⟩
      · rw [hrest] at hall
        exact .inl ⟨_, _, hall⟩
      · rw [hrest] at hall
        refine .inr ⟨m :: before, m', after, t :: results, files', e, fs', rfl, ?_, herror, hall⟩
        exact treatedAll_cons_eq_ok.mpr ⟨t, files, results, htreated, hbefore, rfl⟩

/-! ## Modules with places -/

variable {p : Location → Bool} {place : String → Location}

theorem Places.front {before after : List (String × String)}
    (h : Places p dir place (before ++ after) fs) : Places p dir place before fs := by
  have hnodup := h.nodup
  rw [List.map_append] at hnodup
  exact ⟨fun m hm => h.placed m (List.mem_append_left _ hm),
    fun m hm => h.mem m (List.mem_append_left _ hm), (List.nodup_append.mp hnodup).1⟩

/-- The modules have been stored in the folder, byte by byte, and nothing else has changed. -/
structure StoredOnly (dir : String) (modules : List (String × String))
    (fs fs' : FileSystem) : Prop where
  locate : ∀ path l, fs'.locate path = .ok l ↔ fs.locate path = .ok l
  read : ∀ m ∈ modules, fs'.read (Path.join dir m.1) = .ok m.2.toUTF8
  entry : ∀ l, (∀ m ∈ modules, fs.locate (Path.join dir m.1) ≠ .ok l) →
    fs'.entryAt? l = fs.entryAt? l

/-- Modules with places that have been treated for storing are stored. -/
theorem Places.storedOnly (hplaces : Places p dir place modules fs) {results : List Treatment}
    (h : treatedAll dir .write modules fs = (.ok (), results, fs')) :
    StoredOnly dir modules fs fs' := by
  obtain ⟨hsame, -, hheld, hother⟩ := hplaces.stored h
  refine ⟨fun _ _ => hsame.locate_iff, ?_, ?_⟩
  · intro m hm
    exact (read_placed ((hplaces.placed m hm).mono hsame)).mpr (hheld m hm)
  · intro l hl
    refine hother l ?_
    rintro m hm rfl
    exact hl m hm (hplaces.placed m hm).locate

/-- Modules with places are stored up to the first whose place has been taken by a directory. -/
theorem Places.stored_front (hplaces : Places p dir place modules fs) :
    ∃ before rest result fs', modules = before ++ rest ∧
      treatedAll dir .write modules fs = (result, before.map (writtenModule dir), fs') ∧
      StoredOnly dir before fs fs' ∧
      (rest = [] ∧ result = .ok () ∨
        ∃ m after, rest = m :: after ∧ fs.isDirectory (Path.join dir m.1) = true ∧
          result = .error (.notWritten (Path.join dir m.1) .isADirectory)) := by
  rcases treatedAll_ok_or_error dir .write modules fs with ⟨results, fs', hall⟩ |
    ⟨before, m, after, results, files, e, fs', rfl, hbefore, herror, hall⟩
  · obtain ⟨-, rfl, -⟩ := hplaces.stored hall
    exact ⟨modules, [], .ok (), fs', (List.append_nil _).symm, hall, hplaces.storedOnly hall,
      .inl ⟨rfl, rfl⟩⟩
  · have hfront := hplaces.front
    obtain ⟨hsame, rfl, -⟩ := hfront.stored hbefore
    have hplaced := hplaces.placed m (List.mem_append_right _ (List.mem_cons_self ..))
    have hstored : treated (Path.join dir m.1) m.2 .write files = _ :=
      stored_of_placed (hplaced.mono hsame) m.2
    rw [hstored] at herror
    by_cases hentry : files.entryAt? (place m.1) = some .directory
    · rw [if_pos hentry] at herror
      obtain ⟨he, rfl⟩ := Prod.mk.inj herror
      have hdirectory : fs.isDirectory (Path.join dir m.1) = true :=
        isDirectory_iff.mpr
          (stat_eq_ok.mpr ⟨_, hplaced.locate, hsame.directory_iff.mp hentry⟩)
      exact ⟨before, m :: after, .error e, files, rfl, hall, hfront.storedOnly hbefore,
        .inr ⟨m, after, rfl, hdirectory, congrArg Except.error (Except.error.inj he).symm⟩⟩
    · rw [if_neg hentry] at herror
      simp at herror

/-- Plain names that differ have places of their own in a directory. -/
theorem Based.places_of_plain (hbased : Based fs dir base)
    (hbase : fs.entryAt? base = some .directory) (hplain : ∀ m ∈ modules, Path.Plain m.1)
    (hnodup : (modules.map Prod.fst).Nodup) :
    Places (fun _ => true) dir (fun name => base ++ [name]) modules fs := by
  refine ⟨?_, fun _ _ => rfl, ?_⟩
  · intro m hm
    have hname := hplain m hm
    obtain ⟨before, hpieces, hbefore, -⟩ := hbased m.1 hname.isRooted
    rw [Path.pieces_of_notMem hname.slash] at hpieces
    exact placed_of_pieces hpieces hname hbefore hbase
  · have hplaces : (modules.map fun m => base ++ [m.1]) =
        (modules.map Prod.fst).map fun name => base ++ [name] := by
      rw [List.map_map]
      rfl
    rw [hplaces]
    refine hnodup.map ?_
    intro name other heq
    exact List.singleton_inj.mp (List.append_cancel_left heq)

end OutputFolder

namespace Pass

open Run OutputFolder

/-- In a directory, the modules of data transfer objects whose names are identifiers have places of
their own. -/
theorem exists_places {options : Options} {dtos : List Dto} {dir : String} {fs : FileSystem}
    (hsuffix : ∀ c ∈ options.suffix.toList, Config.isSuffixChar c = true)
    (hidentifiers : ∀ dto ∈ dtos, TypeName.isIdentifier dto.name = true)
    (hnames : (dtos.map Dto.name).Nodup) (hdir : fs.isDirectory dir = true) :
    ∃ place, Places (fun _ => true) dir place (dtos.map (moduleOf options)) fs := by
  obtain ⟨base, hbased, hbase⟩ := based_of_isDirectory hdir
  refine ⟨_, hbased.places_of_plain hbase ?_ (nodup_map_moduleOf options hnames)⟩
  intro m hm
  obtain ⟨dto, hdto, rfl⟩ := List.mem_map.mp hm
  exact Path.plain_append_ts (Options.slash_notMem_schemaName hsuffix (hidentifiers dto hdto))

/-- A pass that stores the modules of data transfer objects in a folder stores those of the first
of them, byte by byte, and leaves everything else as it was.  The folder lists what was stored, in
order and with the numbers of bytes.  Either these are all objects, and the report is that of a
pass into memory, or the path of the next module leads to a directory, and the error tells that it
could not be written. -/
theorem stores_front {config : Config} {options : Options} {dtos : List Dto} {dir : String}
    {s : Session} (husable : config.checkUsable = .ok ()) (hsuffix : options.suffix = config.suffix)
    (hidentifiers : ∀ dto ∈ dtos, TypeName.isIdentifier dto.name = true)
    (hnames : (dtos.map Dto.name).Nodup) (hdir : s.files.isDirectory dir = true) :
    ∃ stored rest result folder s', dtos = stored ++ rest ∧
      ((run (fun name content => discard (put name content)) options dtos).run.run
        (OutputFolder.new dir .write)).run s = ((result, folder), s') ∧
      StoredOnly dir (stored.map (moduleOf options)) s.files s'.files ∧
      folder.results = stored.map (fun dto =>
        .written (Path.join dir (moduleOf options dto).1) (moduleOf options dto).2.utf8ByteSize) ∧
      (rest = [] ∧ (∃ report, result = .ok report ∧
          (outcome MemoryStore.sink options dtos .empty).1 = .ok report) ∨
        ∃ dto after, rest = dto :: after ∧
          s.files.isDirectory (Path.join dir (moduleOf options dto).1) = true ∧
          result = .error (.notWritten (Path.join dir (moduleOf options dto).1)
            .isADirectory)) := by
  have hchars : ∀ c ∈ options.suffix.toList, Config.isSuffixChar c = true := by
    rw [hsuffix]
    exact Config.suffix_of_checkUsable husable
  obtain ⟨place, hplaces⟩ := exists_places hchars hidentifiers hnames hdir
  obtain ⟨before, rest, all, files, hmodules, hall, hstored, hrest⟩ := hplaces.stored_front
  obtain ⟨stored, left, rfl, rfl, rfl⟩ := List.map_eq_append_iff.mp hmodules
  obtain ⟨more, hrun⟩ := ends_pass options (stored ++ left) (OutputFolder.new dir .write) s.files
    s.events
  have hending : treatedAll (OutputFolder.new dir .write).dir (OutputFolder.new dir .write).mode
      ((stored ++ left).map (moduleOf options)) s.files = _ := hall
  rw [hending] at hrun
  refine ⟨stored, left, _, _, _, rfl, hrun, hstored, ?_, ?_⟩
  · exact List.map_map
  · rcases hrest with ⟨hnil, rfl⟩ | ⟨m, after, hcons, hdirectory, rfl⟩
    · refine .inl ⟨List.map_eq_nil_iff.mp hnil, _, rfl, ?_⟩
      rw [outcome_memory]
    · obtain ⟨dto, others, rfl, rfl, -⟩ := List.map_eq_cons_iff.mp hcons
      exact .inr ⟨dto, others, rfl, hdirectory, rfl⟩

/-- Files with a folder where a directory has taken the place of a module. -/
def blockedFiles : FileSystem where
  workingDirectory := []
  entries := [(["out"], .directory), (["out", "TagSchema.ts"], .directory)]

theorem stores_front_sample :
    ∃ folder s', ((run (fun name content => discard (put name content)) .standard
        [⟨"User", []⟩, ⟨"Tag", []⟩]).run.run (OutputFolder.new "out" .write)).run
          ⟨blockedFiles, []⟩ =
        ((.error (.notWritten "out/TagSchema.ts" .isADirectory), folder), s') ∧
      folder.results.length = 1 ∧
      s'.files.read "out/UserSchema.ts" =
        .ok (Document.ofDto .standard ⟨"User", []⟩).content.toUTF8 := by
  obtain ⟨stored, rest, result, folder, s', hdtos, hrun, honly, hresults, hrest⟩ :=
    @stores_front .standard .standard [⟨"User", []⟩, ⟨"Tag", []⟩] "out" ⟨blockedFiles, []⟩
      rfl rfl (by decide) (by decide) rfl
  -- A whole run is too large to be evaluated, but not what becomes of its modules.
  have hblocked : (treatedAll "out" .write
      (([⟨"User", []⟩, ⟨"Tag", []⟩] : List Dto).map (moduleOf .standard)) blockedFiles).1 =
        .error (.notWritten "out/TagSchema.ts" .isADirectory) := by
    decide +kernel
  obtain ⟨more, hends⟩ := ends_pass .standard [⟨"User", []⟩, ⟨"Tag", []⟩]
    (OutputFolder.new "out" .write) blockedFiles []
  have hresult : result = .error (.notWritten "out/TagSchema.ts" .isADirectory) := by
    have hsame := congrArg (fun outcome => outcome.1.1) (hrun.symm.trans hends)
    simp only [ending, OutputFolder.new, hblocked, Except.map] at hsame
    exact hsame
  have huser : Path.join "out" (moduleOf .standard ⟨"User", []⟩).1 = "out/UserSchema.ts" := by
    decide +kernel
  rcases hrest with ⟨-, report, hok, -⟩ | ⟨dto, after, rfl, -, herror⟩
  · simp only [hresult, reduceCtorEq] at hok
  · rcases stored with _ | ⟨first, _ | ⟨second, stored⟩⟩
    · obtain ⟨rfl, -⟩ := List.cons.inj hdtos
      rw [hresult, huser] at herror
      exact absurd herror (by decide)
    · obtain ⟨rfl, -⟩ := List.cons.inj hdtos
      have hread := honly.read (moduleOf .standard ⟨"User", []⟩) (List.mem_cons_self ..)
      rw [huser] at hread
      rw [hresult] at hrun
      exact ⟨folder, s', hrun, by rw [hresults, List.length_map, List.length_singleton], hread⟩
    · have hlength := congrArg List.length hdtos
      simp at hlength

end Pass

end SchemaGen
