import SchemaGen.Proofs.ManifestSources
import SchemaGen.Run

/-!
# The search for manifests

A search asks a walker what is in a directory, and keeps the files that are named like manifests, up
to the first fault of the walker.  It leaves the files as they are, so it is a function of them.

* `Discovery.searched`, `Run.sought`: the paths of manifests, as functions of the files.
* `Discovery.manifestsAmong_map_ok`: what is found without a fault.
* `Discovery.manifestsAmong_filtered`: what is found with a filter.
* `Discovery.isWanted_of_mem_manifestsAmong`: nothing else is found than what is looked for.
-/

namespace SchemaGen

open FileSystem

variable {fs : FileSystem} {walker : Walker}

/-! ## Searching as a function of the files -/

namespace Discovery

/-- The paths of the manifests of an input. -/
def searched (walker : Walker) (d : Discovery) (fs : FileSystem) :
    Except SearchError (List String) :=
  if fs.exists d.input then
    if fs.isFile d.input then .ok [d.input]
    else (d.found walker fs).map (List.map (pathOf d.input))
  else .error (.notFound d.input)

/-- A search leaves the files as they are. -/
theorem ends_find (walker : Walker) (d : Discovery) (fs : FileSystem) :
    (find walker d).Ends fs (searched walker d fs, fs) := by
  unfold find searched
  refine (Job.ends_inspect _ fs).bind ?_
  cases fs.exists d.input with
  | false => exact (Job.ends_throw _ fs).bind_error
  | true =>
    refine (Job.ends_inspect _ fs).bind ?_
    cases fs.isFile d.input with
    | true => exact Job.ends_pure _ fs
    | false =>
      refine (Job.ends_inspect _ fs).bind ?_
      have hfound := Job.ends_ofExcept (d.found walker fs) fs
      cases hresult : d.found walker fs with
      | error e =>
        rw [hresult] at hfound
        exact hfound.bind_error
      | ok found =>
        rw [hresult] at hfound
        exact hfound.bind ((Job.ends_report _ fs).bind (Job.ends_pure _ fs))

/-- A search of a directory returns the paths of what is found there. -/
theorem searched_of_isDirectory {d : Discovery} (h : fs.isDirectory d.input = true) :
    searched walker d fs = (d.found walker fs).map (List.map (pathOf d.input)) := by
  unfold searched
  rw [if_pos (exists_iff.mpr ⟨_, isDirectory_iff.mp h⟩), isFile_of_isDirectory h,
    if_neg Bool.false_ne_true]

end Discovery

namespace Run

/-- The paths of the manifests of a run. -/
def sought (walker : Walker) (config : Config) (fs : FileSystem) :
    Except SearchError (List String) :=
  match config.filter with
  | none => Discovery.searched walker { input := config.input } fs
  | some filter => do
    let pattern ← Discovery.compileFilter filter
    Discovery.searched walker { input := config.input, filter := some pattern } fs

theorem ends_findManifests (walker : Walker) (config : Config) (fs : FileSystem) :
    (findManifests walker config).Ends fs (sought walker config fs, fs) := by
  unfold findManifests sought
  cases config.filter with
  | none => exact (Job.ends_pure none fs).bind (Discovery.ends_find walker _ fs)
  | some filter =>
    have hpattern := Job.ends_ofExcept (Discovery.compileFilter filter) fs
    simp only [Option.mapM_some]
    cases hcompile : Discovery.compileFilter filter with
    | error e =>
      rw [hcompile] at hpattern
      exact (hpattern.map some).bind_error
    | ok pattern =>
      rw [hcompile] at hpattern
      exact (hpattern.map some).bind (Discovery.ends_find walker _ fs)

end Run

/-! ## Manifests among what a walk yields -/

namespace Discovery

variable {d : Discovery}

theorem pathOf_of_ne_nil (input : String) {names : Location} (hnames : names ≠ []) :
    pathOf input names = Path.join input (relativePath names) := by
  obtain ⟨first, others, rfl⟩ := List.exists_cons_of_ne_nil hnames
  rfl

/-- A walk without faults yields the manifests among its entries. -/
theorem manifestsAmong_map_ok (d : Discovery) (fs : FileSystem) (passed : List Location) :
    d.manifestsAmong fs (passed.map .ok) = .ok (passed.filter (d.isWanted fs)) := by
  induction passed with
  | nil => rfl
  | cons names passed ih =>
    rw [List.map_cons, manifestsAmong, ih, List.filter_cons]
    rfl

/-- Entries that are not looked for do not have to be passed. -/
theorem manifestsAmong_filter {keep : Except String Location → Bool}
    (hfault : ∀ fault, keep (.error fault) = true)
    (hnames : ∀ names, keep (.ok names) = false → d.isWanted fs names = false)
    (items : List (Except String Location)) :
    d.manifestsAmong fs (items.filter keep) = d.manifestsAmong fs items := by
  induction items with
  | nil => rfl
  | cons item items ih =>
    rw [List.filter_cons]
    cases item with
    | error fault =>
      rw [if_pos (hfault fault)]
      rfl
    | ok names =>
      cases hkeep : keep (.ok names) with
      | true =>
        rw [if_pos rfl, manifestsAmong, manifestsAmong, ih]
      | false =>
        rw [if_neg Bool.false_ne_true, manifestsAmong, ih, hnames names hkeep]
        exact (congrFun Except.map_id _).symm

/-- What is found was looked for. -/
theorem isWanted_of_mem_manifestsAmong {items : List (Except String Location)}
    {found : List Location} (h : d.manifestsAmong fs items = .ok found) {names : Location}
    (hnames : names ∈ found) : d.isWanted fs names = true := by
  induction items generalizing found with
  | nil =>
    obtain rfl := Except.ok.inj h
    exact absurd hnames List.not_mem_nil
  | cons item items ih =>
    cases item with
    | error fault => simp [manifestsAmong] at h
    | ok passed =>
      obtain ⟨rest, hrest, rfl⟩ := map_eq_ok.mp h
      split at hnames
      · next hwanted =>
        rcases List.mem_cons.mp hnames with rfl | hnames
        · exact hwanted
        · exact ih hrest hnames
      · exact ih hrest hnames

theorem isWanted_filtered (fs : FileSystem) (input : String) (versionControl : Bool)
    (pattern : PathPattern) (names : Location) :
    isWanted { input, versionControl, filter := some pattern } fs names =
      (isWanted { input, versionControl } fs names && pattern.matches (relativePath names)) := by
  simp only [isWanted, fitsFilter, Bool.and_true]

/-- Adding a filter leaves out what does not fit it. -/
theorem manifestsAmong_filtered (fs : FileSystem) (input : String) (versionControl : Bool)
    (pattern : PathPattern) (items : List (Except String Location)) :
    manifestsAmong { input, versionControl, filter := some pattern } fs items =
      (manifestsAmong { input, versionControl } fs items).map fun found =>
        found.filter fun names => pattern.matches (relativePath names) := by
  induction items with
  | nil => rfl
  | cons item items ih =>
    cases item with
    | error fault => rfl
    | ok names =>
      rw [manifestsAmong, manifestsAmong, ih]
      cases manifestsAmong { input, versionControl } fs items with
      | error e => rfl
      | ok found =>
        simp only [Except.map, isWanted_filtered]
        cases isWanted { input, versionControl } fs names with
        | false => rfl
        | true => simp [List.filter_cons]

end Discovery

end SchemaGen
