import SchemaGen.Exclusion.Visibility
import SchemaGen.Proofs.EarliestFaults
import SchemaGen.Proofs.ManifestSearch
import SchemaGen.Proofs.TextCuts

/-!
# What a search finds can be loaded in a known format

A search goes by the ending of the last name of a path, and loading by what follows the last dot in
it.  The endings that a search looks for have two dots.  What follows the second one is the name of
a format, and before it there is at least the first, so the name does not count as one that has
nothing but an extension.

* `Path.extension?_of_suffix`: what follows the last dot of a name with two dots at its end.
* `Manifest.Format.ofPath?_of_suffix`: the format of such a name.
* `Manifest.loadedFrom_ne_unsupported`: loading refuses nothing else for its format.
* `Discovery.finds_known_formats`: no result of a search is refused for its format.
-/

namespace SchemaGen

/-! ## The ending of a name -/

namespace Path

/-- What follows the second dot of the ending is the extension. -/
theorem extension?_of_suffix {path name : String} (hname : fileName? path = some name)
    (ending : List Char) (h : ".dto".toList ++ '.' :: ending <:+ name.toList)
    (hending : '.' ∉ ending) : extension? path = some (String.ofList ending) := by
  obtain ⟨front, hfront⟩ := h
  rw [← List.append_assoc] at hfront
  have hsplit : Text.splitLast? (· = '.') (front ++ ".dto".toList ++ '.' :: ending) =
      some (front ++ ".dto".toList, '.', ending) :=
    Text.splitLast?_of_notMem hending
  rw [hfront] at hsplit
  have hstem : (front ++ ".dto".toList).isEmpty = false := List.isEmpty_eq_false_iff.mpr (by simp)
  unfold extension?
  rw [hname]
  simp only [Option.bind_eq_bind, Option.bind_some, hsplit, hstem]
  rfl

end Path

/-! ## Formats -/

namespace Manifest

/-- The formats of the two endings: of each, the second of its dots is the last. -/
theorem Format.ofPath?_of_suffix {path name : String} (hname : Path.fileName? path = some name) :
    (".dto.json".toList <:+ name.toList → Format.ofPath? path = some .json) ∧
    (".dto.toml".toList <:+ name.toList → Format.ofPath? path = some .toml) := by
  unfold Format.ofPath?
  constructor
  · intro h
    rw [Path.extension?_of_suffix hname "json".toList h (by decide)]
    rfl
  · intro h
    rw [Path.extension?_of_suffix hname "toml".toList h (by decide)]
    rfl

/-- A file that is taken for a manifest by its name has a format. -/
theorem exists_ofPath?_of_isManifest {path : String} (h : Path.isManifest path = true) :
    ∃ name format, Path.fileName? path = some name ∧ Format.ofPath? path = some format ∧
      (".dto.json".toList <:+ name.toList → format = .json) ∧
      (".dto.toml".toList <:+ name.toList → format = .toml) := by
  obtain ⟨name, hname, hending⟩ := Path.isManifest_iff.mp h
  obtain ⟨hjson, htoml⟩ := Format.ofPath?_of_suffix hname
  obtain ⟨format, hformat⟩ : ∃ format, Format.ofPath? path = some format :=
    hending.elim (fun h => ⟨_, hjson h⟩) fun h => ⟨_, htoml h⟩
  exact ⟨name, format, hname, hformat,
    fun h => Option.some.inj (hformat.symm.trans (hjson h)),
    fun h => Option.some.inj (hformat.symm.trans (htoml h))⟩

theorem parse_ne_unsupported (path text other : String) (format : Format) :
    parse path text format ≠ .error (.unsupportedFormat other) := by
  unfold parse
  intro h
  rcases bind_eq_error.mp h with hdecode | ⟨dtos, -, hname⟩
  · unfold decode at hdecode
    split at hdecode <;> split at hdecode <;> simp at hdecode
  · split at hname <;> simp at hname

/-- A file is refused for its format only if its name tells none. -/
theorem loadedFrom_ne_unsupported {fs : FileSystem} {path : String} {format : Format}
    (h : Format.ofPath? path = some format) (other : String) :
    loadedFrom fs path ≠ .error (.unsupportedFormat other) := by
  unfold loadedFrom
  rw [h]
  intro herror
  rcases bind_eq_error.mp herror with hread | ⟨text, -, hparse⟩
  · cases htext : fs.readText path <;> simp [htext, Except.mapError] at hread
  · exact parse_ne_unsupported path text other format hparse

/-- No list of files that have formats is refused for the format of one. -/
theorem loaded_ne_unsupported {fs : FileSystem} {paths : List String}
    (h : ∀ path ∈ paths, ∃ format, Format.ofPath? path = some format) (other : String) :
    loaded fs paths ≠ .error (.unsupportedFormat other) := by
  intro herror
  cases loaded_eq_error.mp herror with
  | @unloadable before after path groups _ hpaths _ hload =>
    obtain ⟨format, hformat⟩ := h path (by simp [hpaths])
    exact loadedFrom_ne_unsupported hformat other (ends_load_iff.mp hload)

end Manifest

/-! ## Searches -/

namespace Discovery

variable {fs : FileSystem} {d : Discovery} {walker : Walker}

/-- What a search of a directory returns is taken for a manifest by its path. -/
theorem isManifest_of_mem_searched (h : fs.isDirectory d.input = true) {paths : List String}
    (hpaths : searched walker d fs = .ok paths) {path : String} (hpath : path ∈ paths) :
    Path.isManifest path = true := by
  rw [searched_of_isDirectory h] at hpaths
  obtain ⟨found, hfound, rfl⟩ := map_eq_ok.mp hpaths
  obtain ⟨names, hnames, rfl⟩ := List.mem_map.mp hpath
  have hwanted := isWanted_of_mem_manifestsAmong hfound hnames
  simp only [isWanted, Bool.and_eq_true] at hwanted
  exact hwanted.1.2

/-- A file that is taken for a manifest by its path has a format, the one that the ending of its
name tells.  So whatever a search of a directory returns, with any walker and any filter, none of it
is refused for its format when it is loaded, then or later. -/
theorem finds_known_formats :
    (∀ path, Path.isManifest path = true →
      ∃ name format, Path.fileName? path = some name ∧
        Manifest.Format.ofPath? path = some format ∧
        (".dto.json".toList <:+ name.toList → format = .json) ∧
        (".dto.toml".toList <:+ name.toList → format = .toml)) ∧
    ∀ (walker : Walker) (d : Discovery) (s s' : Session) (paths : List String),
      s.files.isDirectory d.input = true → (find walker d).run.run s = (.ok paths, s') →
      ∀ t path t', (Manifest.loadAll paths).run.run t ≠ (.error (.unsupportedFormat path), t') := by
  refine ⟨fun path => Manifest.exists_ofPath?_of_isManifest, ?_⟩
  intro walker d s s' paths hdirectory hfind t path t' hload
  obtain ⟨hsearched, -⟩ := Prod.mk.inj ((ends_find walker d s.files).of_run hfind)
  obtain ⟨hloaded, -⟩ := Prod.mk.inj ((Manifest.ends_loadAll paths t.files).of_run hload)
  refine Manifest.loaded_ne_unsupported (fun path hpath => ?_) path hloaded
  obtain ⟨-, format, -, hformat, -⟩ := Manifest.exists_ofPath?_of_isManifest
    (isManifest_of_mem_searched hdirectory hsearched hpath)
  exact ⟨format, hformat⟩

/-- A directory with a manifest in it that has nothing but an ending. -/
def hiddenManifest : FileSystem where
  workingDirectory := []
  entries := [(["dtos"], .directory), (["dtos", ".dto.toml"], .file ByteArray.empty)]

theorem finds_known_formats_sample :
    Path.isManifest "./dtos/.dto.toml/." = true ∧
      Manifest.Format.ofPath? "./dtos/.dto.toml/." = some .toml ∧
      hiddenManifest.isDirectory "./dtos" = true ∧
      ∃ s', (find (Exclusion.walker fun _ _ => none) { input := "./dtos" }).run.run
          ⟨hiddenManifest, []⟩ = (.ok ["./dtos/.dto.toml"], s') ∧
        ∀ t path t', (Manifest.loadAll ["./dtos/.dto.toml"]).run.run t ≠
          (.error (.unsupportedFormat path), t') := by
  have hmanifest : Path.isManifest "./dtos/.dto.toml/." = true := by decide +kernel
  have hdirectory : hiddenManifest.isDirectory "./dtos" = true := by decide +kernel
  obtain ⟨name, format, hname, hformat, -, htoml⟩ := finds_known_formats.1 _ hmanifest
  have hlast : Path.fileName? "./dtos/.dto.toml/." = some ".dto.toml" := by decide +kernel
  obtain rfl := Option.some.inj (hname.symm.trans hlast)
  obtain rfl := htoml (List.suffix_refl _)
  have hends := ends_find (Exclusion.walker fun _ _ => none) { input := "./dtos" } hiddenManifest
  have hsearched : searched (Exclusion.walker fun _ _ => none) { input := "./dtos" }
      hiddenManifest = .ok ["./dtos/.dto.toml"] := by decide +kernel
  rw [hsearched] at hends
  obtain ⟨s', hfind, -⟩ := hends.exists_run (s := ⟨hiddenManifest, []⟩)
  exact ⟨hmanifest, hformat, hdirectory, s', hfind,
    finds_known_formats.2 _ { input := "./dtos" } _ s' _ hdirectory hfind⟩

end Discovery

end SchemaGen
