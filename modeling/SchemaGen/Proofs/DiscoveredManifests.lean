import SchemaGen.Proofs.ByteOrder
import SchemaGen.Proofs.DirectoryWalks
import SchemaGen.Proofs.ManifestSearch

/-!
# What a search of a directory tree finds

With a walker that leaves nothing out, a search without a filter finds every manifest below its
directory, hidden ones too, each once and in the order of the names that lead to it, compared byte
by byte.  This is the order in which a walk passes them.  It is not the order of their paths as
texts, in which a slash is a character like any other.  With any walker, a filter leaves out what
does not fit it and changes nothing about the rest, and a fault of the walker ends the search with
or without it.

* `Discovery.isWanted_iff`: the entries of a tree that a search looks for.
* `Discovery.found_eq_walk`: what is found with a walker that leaves nothing out.
* `Discovery.locate_pathOf`: where the paths of what is found lead.
* `Discovery.finds_each_manifest_once`: the paths that a search returns.
-/

namespace SchemaGen.Discovery

variable {fs : FileSystem} {walker : Walker} {d : Discovery} {root names : Location}

/-! ## What is looked for -/

/-- The last name on the way to an entry is that of its path. -/
theorem fileName?_relativePath (hplain : ∀ name ∈ names, Path.Plain name) :
    Path.fileName? (relativePath names) = names.getLast? := by
  rcases List.eq_nil_or_concat' names with rfl | ⟨front, last, rfl⟩
  · rfl
  · have hpieces : Path.pieces (relativePath (front ++ [last])) = front ++ [last] :=
      Path.pieces_intercalate (fun name hname => (hplain name hname).slash) (List.concat_ne_nil _ _)
    have hlast := hplain last (by simp)
    rw [List.getLast?_concat]
    exact Path.fileName?_eq_some_iff.mpr ⟨front, [], hpieces, by simp, hlast.idle, hlast.up⟩

/-- The path of an entry leads to it. -/
theorem locate_pathOf (h : fs.IsTree) {input : String} (hroot : fs.locate input = .ok root)
    (hnames : names ≠ []) {e : Entry} (hentry : fs.entryAt? (root ++ names) = some e) :
    fs.locate (pathOf input names) = .ok (root ++ names) := by
  rw [pathOf_of_ne_nil input hnames]
  exact h.locate_join hroot hnames hentry

/-- Without a filter, an entry of a tree is looked for iff it is a file whose last name has one of
two endings. -/
theorem isWanted_iff (h : fs.IsTree) {input : String} (hroot : fs.locate input = .ok root)
    (versionControl : Bool) (hnames : names ≠ []) {e : Entry}
    (hentry : fs.entryAt? (root ++ names) = some e) :
    isWanted { input, versionControl } fs names = true ↔
      ∃ name content, names.getLast? = some name ∧
        (".dto.json".toList <:+ name.toList ∨ ".dto.toml".toList <:+ name.toList) ∧
          e = .file content := by
  have hfile : fs.isFile (pathOf input names) = true ↔ ∃ content, e = .file content := by
    rw [FileSystem.isFile_iff]
    refine exists_congr fun content => ?_
    rw [FileSystem.stat_eq_ok]
    constructor
    · rintro ⟨l, hl, hcontent⟩
      obtain rfl := Except.ok.inj (hl.symm.trans (locate_pathOf h hroot hnames hentry))
      exact Option.some.inj (hentry.symm.trans hcontent)
    · rintro rfl
      exact ⟨_, locate_pathOf h hroot hnames hentry, hentry⟩
  obtain ⟨front, last, rfl⟩ := (List.eq_nil_or_concat' names).resolve_left hnames
  have hname : Path.fileName? (pathOf input (front ++ [last])) = some last := by
    rw [pathOf_of_ne_nil input hnames]
    refine Path.fileName?_join ?_ input
    rw [fileName?_relativePath (h.plain_of_append hentry), List.getLast?_concat]
  simp only [isWanted, fitsFilter, Bool.and_true, Bool.and_eq_true, hfile, Path.isManifest_iff,
    hname, List.getLast?_concat]
  constructor
  · rintro ⟨⟨content, hcontent⟩, name, hname, hending⟩
    exact ⟨name, content, hname, hending, hcontent⟩
  · rintro ⟨name, content, hname, hending, hcontent⟩
    exact ⟨⟨content, hcontent⟩, name, hname, hending⟩

/-! ## What is found -/

/-- With a walker that leaves nothing out, a search finds, in the order in which a walk passes them,
what it looks for. -/
theorem found_eq_walk (hinput : fs.isDirectory d.input = true)
    (hpasses : walker.PassesAll fs d.versionControl d.input root) :
    d.found walker fs =
      .ok (((fs.walk (fun _ _ => false) root).map Prod.fst).filter (d.isWanted fs)) := by
  -- The directory itself comes first, and it is no file.
  have hself : d.isWanted fs [] = false := by
    unfold isWanted pathOf
    rw [FileSystem.isFile_of_isDirectory hinput, Bool.false_and, Bool.false_and]
  unfold found
  rw [hpasses, manifestsAmong_map_ok, List.filter_cons, hself, if_neg Bool.false_ne_true]

/-- What a walk passes and a search looks for are the files of a tree whose names have one of two
endings. -/
theorem mem_filter_walk (h : fs.IsTree) {input : String} (hroot : fs.locate input = .ok root)
    (versionControl : Bool) :
    names ∈ ((fs.walk (fun _ _ => false) root).map Prod.fst).filter
        (isWanted { input, versionControl } fs) ↔
      ∃ name content, names.getLast? = some name ∧
        (".dto.json".toList <:+ name.toList ∨ ".dto.toml".toList <:+ name.toList) ∧
          fs.entryAt? (root ++ names) = some (.file content) := by
  rw [List.mem_filter, List.mem_map]
  constructor
  · rintro ⟨⟨⟨names, e⟩, hwalk, rfl⟩, hwanted⟩
    obtain ⟨hnames, hentry, -⟩ := (FileSystem.mem_walk h).mp hwalk
    obtain ⟨name, content, hname, hending, rfl⟩ :=
      (isWanted_iff h hroot versionControl hnames hentry).mp hwanted
    exact ⟨name, content, hname, hending, hentry⟩
  · rintro ⟨name, content, hname, hending, hentry⟩
    have hnames : names ≠ [] := by
      rintro rfl
      simp at hname
    have hreaches : fs.reaches (fun _ _ => false) root names = true :=
      FileSystem.reaches_of_forall h hentry fun _ _ => rfl
    exact ⟨⟨_, (FileSystem.mem_walk h).mpr ⟨hnames, hentry, hreaches⟩, rfl⟩,
      (isWanted_iff h hroot versionControl hnames hentry).mpr ⟨name, content, hname, hending, rfl⟩⟩

/-- A walk passes entries in the order of the names that lead to them, and so of their bytes. -/
theorem pairwise_filter_walk (h : fs.IsTree) (root : Location) (wanted : Location → Bool) :
    (((fs.walk (fun _ _ => false) root).map Prod.fst).filter wanted).Pairwise
      fun a b => a.map Text.bytes < b.map Text.bytes := by
  refine List.Pairwise.filter _ (List.pairwise_map.mpr ?_)
  exact (FileSystem.pairwise_walk h root).imp Text.map_bytes_lt_iff.mpr

/-- Paths that lead to different places are different. -/
theorem nodup_map_pathOf {input : String} {found : List Location}
    (hlocate : ∀ names ∈ found, fs.locate (pathOf input names) = .ok (root ++ names))
    (hpairwise : found.Pairwise fun a b => a.map Text.bytes < b.map Text.bytes) :
    (found.map (pathOf input)).Nodup := by
  refine List.Nodup.map_on (fun a ha b hb hpath => ?_) (hpairwise.imp ?_)
  · have hsame := (hlocate a ha).symm.trans (hpath ▸ hlocate b hb)
    exact List.append_cancel_left (Except.ok.inj hsame)
  · rintro a b hlt rfl
    exact List.lt_irrefl _ hlt

/-- A search of a directory ends with the paths of what is found there, or with an error.  With a
filter it ends with the paths of what is found without one and fits the filter, in the same order,
or with the same error.  In a tree, and with a walker that leaves nothing out, there is no error, and
what is found without a filter are all files, at any depth, whose names have one of two endings.
Each is returned once, by a path that leads to it, in ascending order of the names on the way, byte
by byte. -/
theorem finds_each_manifest_once (walker : Walker) {input : String}
    (hinput : fs.isDirectory input = true) (versionControl : Bool) :
    ∃ (root : Location) (result : Except SearchError (List Location)),
      fs.locate input = .ok root ∧
      Job.Ends (find walker { input, versionControl }) fs
        (result.map fun found => found.map (pathOf input), fs) ∧
      (∀ pattern, Job.Ends (find walker { input, versionControl, filter := some pattern }) fs
        (result.map fun found =>
          (found.filter fun names => pattern.matches (relativePath names)).map (pathOf input),
          fs)) ∧
      (fs.IsTree → walker.PassesAll fs versionControl input root → ∃ found, result = .ok found ∧
        (∀ names, names ∈ found ↔ ∃ name content, names.getLast? = some name ∧
          (".dto.json".toList <:+ name.toList ∨ ".dto.toml".toList <:+ name.toList) ∧
            fs.entryAt? (root ++ names) = some (.file content)) ∧
        (∀ names ∈ found, fs.locate (pathOf input names) = .ok (root ++ names)) ∧
        (found.map (pathOf input)).Nodup ∧
        found.Pairwise fun a b => a.map Text.bytes < b.map Text.bytes) := by
  obtain ⟨root, hroot, -⟩ := FileSystem.stat_eq_ok.mp (FileSystem.isDirectory_iff.mp hinput)
  refine ⟨root, found { input, versionControl } walker fs, hroot, ?_, fun pattern => ?_,
    fun htree hpasses => ?_⟩
  · have hends := ends_find walker { input, versionControl } fs
    rwa [searched_of_isDirectory hinput] at hends
  · have hends := ends_find walker { input, versionControl, filter := some pattern } fs
    rw [searched_of_isDirectory hinput, found, manifestsAmong_filtered] at hends
    unfold found
    cases hitems : manifestsAmong { input, versionControl } fs
      (walker.walk fs versionControl input) with
    | error e =>
      rw [hitems] at hends
      exact hends
    | ok found =>
      rw [hitems] at hends
      exact hends
  · have hpairwise := pairwise_filter_walk htree root (isWanted { input, versionControl } fs)
    have hlocate : ∀ names ∈ ((fs.walk (fun _ _ => false) root).map Prod.fst).filter
        (isWanted { input, versionControl } fs),
        fs.locate (pathOf input names) = .ok (root ++ names) := by
      intro names hnames
      obtain ⟨name, content, hname, -, hentry⟩ := (mem_filter_walk htree hroot _).mp hnames
      refine locate_pathOf htree hroot ?_ hentry
      rintro rfl
      simp at hname
    exact ⟨_, found_eq_walk (d := { input, versionControl }) hinput hpasses,
      fun names => mem_filter_walk htree hroot versionControl, hlocate,
      nodup_map_pathOf hlocate hpairwise, hpairwise⟩

/-- A directory next to files and directories with similar names, a hidden manifest, and rules of
version control that do not count outside of a repository. -/
def nestedFiles : FileSystem where
  workingDirectory := []
  entries :=
    [(["dtos"], .directory),
      (["dtos", ".dto.json"], .file ByteArray.empty),
      (["dtos", ".gitignore"], .file "*.dto.toml".toUTF8),
      (["dtos", "a"], .directory),
      (["dtos", "a", "x.dto.toml"], .file ByteArray.empty),
      (["dtos", "a-b"], .directory),
      (["dtos", "a-b", "y.dto.json"], .file ByteArray.empty),
      (["dtos", "a.dto.json"], .file ByteArray.empty)]

theorem finds_each_manifest_once_sample :
    nestedFiles.IsTree ∧ nestedFiles.isDirectory "dtos" = true ∧
      (Exclusion.walker fun _ _ => none).PassesAll nestedFiles true "dtos" ["dtos"] ∧
      ∃ found : List Location,
        found.map (pathOf "dtos") = ["dtos/.dto.json", "dtos/a/x.dto.toml", "dtos/a-b/y.dto.json",
          "dtos/a.dto.json"] ∧
        (found.Pairwise fun a b => a.map Text.bytes < b.map Text.bytes) ∧
        [".dto.json"] ∈ found ∧ ["a", "x.dto.toml"] ∈ found := by
  have htree : nestedFiles.IsTree := by decide +kernel
  have hinput : nestedFiles.isDirectory "dtos" = true := by decide +kernel
  have hrules : Exclusion.NoRuleExcludes nestedFiles (fun _ _ => none) true ["dtos"] := by
    decide +kernel
  have hpasses : (Exclusion.walker fun _ _ => none).PassesAll nestedFiles true "dtos" ["dtos"] :=
    hrules.passesAll htree rfl
  obtain ⟨root, result, hroot, hends, -, hfound⟩ :=
    finds_each_manifest_once (Exclusion.walker fun _ _ => none) hinput true
  obtain rfl : root = ["dtos"] := (Except.ok.inj hroot).symm
  obtain ⟨found, rfl, hmem, -, -, hpairwise⟩ := hfound htree hpasses
  have hpaths := (Prod.mk.inj (hends.unique (ends_find _ _ nestedFiles))).1
  refine ⟨htree, hinput, hpasses, found, Except.ok.inj (hpaths.trans (by decide +kernel)),
    hpairwise, ?_, ?_⟩
  · exact (hmem _).mpr ⟨".dto.json", _, rfl, by decide, rfl⟩
  · exact (hmem _).mpr ⟨"x.dto.toml", _, rfl, by decide, rfl⟩

end SchemaGen.Discovery
