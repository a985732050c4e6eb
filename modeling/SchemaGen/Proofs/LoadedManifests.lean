import Mathlib.Data.List.Forall2
import SchemaGen.Proofs.ManifestSources

/-!
# When manifests are loaded, and when not

The manifests of a run are loaded together or not at all.  They are loaded if each of them is
named like a manifest, can be read and decoded, and gives its objects identifiers for names, and
if no two objects have the same name.  Anything else is a fault of one manifest, or of two that
repeat a name, wherever in the list they stand.

* `Manifest.Holds`, `Manifest.loadedFrom_eq_ok`: one manifest.
* `Manifest.addDtos_eq_ok`, `Manifest.loaded_eq_ok`: when manifests are loaded, and with what.
* `Manifest.entriesOf`: the objects of manifests, each with the manifest that it comes from.
* `Manifest.distinct_of_loaded`: loaded objects have identifiers for names, all of them different.
* `Manifest.Faulty`, `Manifest.loaded_eq_error_iff`: what can be wrong with manifests, and that
  nothing else makes loading fail.
-/

namespace SchemaGen.Manifest

variable {fs : FileSystem}

/-! ## One manifest -/

/-- The file is named like a manifest and holds these objects, whatever their names. -/
def Holds (fs : FileSystem) (path : String) (dtos : List Dto) : Prop :=
  ∃ format text, Format.ofPath? path = some format ∧ fs.readText path = .ok text ∧
    decode path text format = .ok dtos

theorem parse_eq_ok {path text : String} {format : Format} {dtos : List Dto} :
    parse path text format = .ok dtos ↔ decode path text format = .ok dtos ∧
      ∀ dto ∈ dtos, TypeName.isIdentifier dto.name = true := by
  unfold parse
  rw [bind_eq_ok]
  constructor
  · rintro ⟨decoded, hdecoded, h⟩
    cases hbad : decoded.find? fun dto => !TypeName.isIdentifier dto.name with
    | some dto =>
      rw [hbad] at h
      exact absurd h (by simp)
    | none =>
      rw [hbad] at h
      obtain rfl := Except.ok.inj h
      refine ⟨hdecoded, fun dto hdto => ?_⟩
      simpa using List.find?_eq_none.mp hbad dto hdto
  · rintro ⟨hdecoded, hnames⟩
    have hgood : dtos.find? (fun dto => !TypeName.isIdentifier dto.name) = none :=
      List.find?_eq_none.mpr fun dto hdto => by simp [hnames dto hdto]
    refine ⟨dtos, hdecoded, ?_⟩
    rw [hgood]
    rfl

/-- A manifest is loaded if the names of all objects that it holds are identifiers. -/
theorem loadedFrom_eq_ok {path : String} {dtos : List Dto} :
    loadedFrom fs path = .ok dtos ↔
      Holds fs path dtos ∧ ∀ dto ∈ dtos, TypeName.isIdentifier dto.name = true := by
  unfold loadedFrom Holds
  cases Format.ofPath? path with
  | none => simp
  | some format =>
    cases fs.readText path with
    | error e => simp [Except.mapError]
    | ok text => simp [Except.mapError, parse_eq_ok]

/-- An object is added if no earlier one has its name. -/
theorem addDto_eq_ok {manifest : String} {known entries : List Entry} {dto : Dto} :
    addDto manifest known dto = .ok entries ↔
      (∀ e ∈ known, e.dto.name ≠ dto.name) ∧ entries = known ++ [⟨manifest, dto⟩] := by
  unfold addDto
  cases hfind : known.find? fun entry => entry.dto.name = dto.name with
  | some earlier =>
    have hmem := List.mem_of_find?_eq_some hfind
    have hname := List.find?_some hfind
    simp only [decide_eq_true_eq] at hname
    simp only [reduceCtorEq, false_iff, not_and]
    exact fun h => absurd hname (h earlier hmem)
  | none =>
    have hnone := List.find?_eq_none.mp hfind
    simp only [decide_eq_true_eq] at hnone
    simp only [Except.ok.injEq]
    exact ⟨fun h => ⟨hnone, h.symm⟩, fun h => h.2.symm⟩

/-- Names of which no two are the same. -/
def NodupNames (dtos : List Dto) : Prop :=
  (dtos.map Dto.name).Nodup

theorem NodupNames.sublist {dtos some : List Dto} (h : NodupNames dtos) (hsub : some.Sublist dtos) :
    NodupNames some :=
  List.Nodup.sublist (hsub.map Dto.name) h

theorem nodupNames_append {dtos more : List Dto} :
    NodupNames (dtos ++ more) ↔ NodupNames dtos ∧ NodupNames more ∧
      ∀ dto ∈ dtos, ∀ again ∈ more, again.name ≠ dto.name := by
  unfold NodupNames
  rw [List.map_append, List.nodup_append]
  simp only [List.forall_mem_map, ne_comm]

/-- The objects of a manifest are added if then no two names are the same. -/
theorem addDtos_eq_ok {manifest : String} {dtos : List Dto} {known entries : List Entry}
    (hknown : NodupNames (known.map Entry.dto)) :
    dtos.foldlM (addDto manifest) known = .ok entries ↔
      NodupNames (known.map Entry.dto ++ dtos) ∧ entries = known ++ dtos.map (Entry.mk manifest) := by
  induction dtos generalizing known with
  | nil => simp [hknown, eq_comm]
  | cons dto dtos ih =>
    have hsplit : known.map Entry.dto ++ dto :: dtos =
        (known ++ [Entry.mk manifest dto]).map Entry.dto ++ dtos := by simp
    have hentries : known ++ (dto :: dtos).map (Entry.mk manifest) =
        known ++ [Entry.mk manifest dto] ++ dtos.map (Entry.mk manifest) := by simp
    have hnext : NodupNames ((known ++ [Entry.mk manifest dto]).map Entry.dto) ↔
        ∀ e ∈ known, e.dto.name ≠ dto.name := by
      rw [List.map_append, nodupNames_append, and_iff_right hknown]
      simp [NodupNames, ne_comm]
    rw [List.foldlM_cons, bind_eq_ok, hsplit, hentries]
    constructor
    · rintro ⟨next, hadd, h⟩
      obtain ⟨hnew, rfl⟩ := addDto_eq_ok.mp hadd
      exact (ih (hnext.mpr hnew)).mp h
    · rintro ⟨hnodup, h⟩
      have hstep := (nodupNames_append.mp hnodup).1
      exact ⟨_, addDto_eq_ok.mpr ⟨hnext.mp hstep, rfl⟩, (ih hstep).mpr ⟨hnodup, h⟩⟩

/-- The lists of objects that manifests hold with identifiers for names, manifest by manifest. -/
def LoadedGroups (fs : FileSystem) (paths : List String) (groups : List (List Dto)) : Prop :=
  List.Forall₂ (fun path group => loadedFrom fs path = .ok group) paths groups

/-- The objects of manifests, each with the manifest that it comes from. -/
def entriesOf (paths : List String) (groups : List (List Dto)) : List Entry :=
  (List.zipWith (fun path group => group.map (Entry.mk path)) paths groups).flatten

theorem entriesOf_cons (path : String) (paths : List String) (group : List Dto)
    (groups : List (List Dto)) :
    entriesOf (path :: paths) (group :: groups) =
      group.map (Entry.mk path) ++ entriesOf paths groups :=
  List.flatten_cons

theorem map_dto_mk (path : String) (group : List Dto) :
    (group.map (Entry.mk path)).map Entry.dto = group := by
  rw [List.map_map]
  exact List.map_id group

theorem LoadedGroups.map_dto_entriesOf {paths : List String} {groups : List (List Dto)}
    (h : LoadedGroups fs paths groups) :
    (entriesOf paths groups).map Entry.dto = groups.flatten := by
  induction h with
  | nil => rfl
  | cons _ _ ih => rw [entriesOf_cons, List.map_append, map_dto_mk, ih, List.flatten_cons]

/-- The objects of manifests are added to earlier ones if each manifest is loaded and then no two
names are the same. -/
theorem loadedNexts_eq_ok {paths : List String} {known entries : List Entry}
    (hknown : NodupNames (known.map Entry.dto)) :
    paths.foldlM (loadedNext fs) known = .ok entries ↔
      ∃ groups, LoadedGroups fs paths groups ∧ entries = known ++ entriesOf paths groups ∧
        NodupNames (entries.map Entry.dto) := by
  induction paths generalizing known with
  | nil =>
    constructor
    · intro h
      obtain rfl := Except.ok.inj h
      exact ⟨[], .nil, (List.append_nil _).symm, hknown⟩
    · rintro ⟨groups, hgroups, rfl, -⟩
      cases hgroups
      exact congrArg Except.ok (List.append_nil _).symm
  | cons path paths ih =>
    have hobjects : ∀ group, (known ++ group.map (Entry.mk path)).map Entry.dto =
        known.map Entry.dto ++ group := fun group => by rw [List.map_append, map_dto_mk]
    constructor
    · intro h
      rw [List.foldlM_cons] at h
      obtain ⟨next, hnext, h⟩ := bind_eq_ok.mp h
      obtain ⟨group, hgroup, hnext⟩ := bind_eq_ok.mp hnext
      obtain ⟨hnodup, rfl⟩ := (addDtos_eq_ok hknown).mp hnext
      rw [← hobjects] at hnodup
      obtain ⟨groups, hgroups, heq, hentries⟩ := (ih hnodup).mp h
      rw [List.append_assoc, ← entriesOf_cons] at heq
      exact ⟨group :: groups, .cons hgroup hgroups, heq, hentries⟩
    · rintro ⟨all, hall, heq, hentries⟩
      obtain ⟨group, groups, hgroup, hgroups, rfl⟩ := List.forall₂_cons_left_iff.mp hall
      rw [entriesOf_cons, ← List.append_assoc] at heq
      have hnodup : NodupNames ((known ++ group.map (Entry.mk path)).map Entry.dto) := by
        rw [heq, List.map_append] at hentries
        exact (nodupNames_append.mp hentries).1
      have hrest := (ih hnodup).mpr ⟨groups, hgroups, heq, hentries⟩
      rw [hobjects] at hnodup
      rw [List.foldlM_cons]
      exact bind_eq_ok.mpr
        ⟨_, bind_eq_ok.mpr ⟨group, hgroup, (addDtos_eq_ok hknown).mpr ⟨hnodup, rfl⟩⟩, hrest⟩

/-- Manifests are loaded if each of them is and no two names are the same.  Their objects come in
the order of the manifests. -/
theorem loaded_eq_ok {paths : List String} {dtos : List Dto} :
    loaded fs paths = .ok dtos ↔
      ∃ groups, LoadedGroups fs paths groups ∧ dtos = groups.flatten ∧ NodupNames dtos := by
  have hnexts : ∀ entries, paths.foldlM (loadedNext fs) [] = .ok entries ↔
      ∃ groups, LoadedGroups fs paths groups ∧ entries = [] ++ entriesOf paths groups ∧
        NodupNames (entries.map Entry.dto) := fun _ => loadedNexts_eq_ok List.nodup_nil
  unfold loaded
  constructor
  · intro h
    cases hentries : paths.foldlM (loadedNext fs) [] with
    | error e => simp [hentries, Except.map] at h
    | ok entries =>
      rw [hentries] at h
      obtain rfl := Except.ok.inj h
      obtain ⟨groups, hgroups, rfl, hnodup⟩ := (hnexts entries).mp hentries
      exact ⟨groups, hgroups, hgroups.map_dto_entriesOf, hnodup⟩
  · rintro ⟨groups, hgroups, rfl, hnodup⟩
    rw [← hgroups.map_dto_entriesOf] at hnodup ⊢
    rw [(hnexts _).mpr ⟨groups, hgroups, rfl, hnodup⟩]
    rfl

namespace LoadedGroups

variable {paths before after : List String} {groups : List (List Dto)}

theorem exists_path (h : LoadedGroups fs paths groups) {group : List Dto} (hgroup : group ∈ groups) :
    ∃ path ∈ paths, loadedFrom fs path = .ok group := by
  obtain ⟨hlength, hget⟩ := List.forall₂_iff_get.mp h
  obtain ⟨i, hi, rfl⟩ := List.getElem_of_mem hgroup
  exact ⟨paths[i], List.getElem_mem _, hget i (hlength ▸ hi) hi⟩

theorem exists_group (h : LoadedGroups fs paths groups) {path : String} (hpath : path ∈ paths) :
    ∃ group ∈ groups, loadedFrom fs path = .ok group := by
  obtain ⟨hlength, hget⟩ := List.forall₂_iff_get.mp h
  obtain ⟨i, hi, rfl⟩ := List.getElem_of_mem hpath
  exact ⟨groups[i], List.getElem_mem _, hget i hi (hlength ▸ hi)⟩

theorem exists_append (h : LoadedGroups fs (before ++ after) groups) :
    ∃ first second, LoadedGroups fs before first ∧ LoadedGroups fs after second ∧
      groups = first ++ second := by
  have hfirst := List.forall₂_take before.length h
  have hsecond := List.forall₂_drop before.length h
  rw [List.take_left] at hfirst
  rw [List.drop_left] at hsecond
  exact ⟨_, _, hfirst, hsecond, (List.take_append_drop _ groups).symm⟩

end LoadedGroups

/-- Objects whose names are identifiers, all of them different. -/
structure Distinct (dtos : List Dto) : Prop where
  identifier : ∀ dto ∈ dtos, TypeName.isIdentifier dto.name = true
  nodup : NodupNames dtos

/-- The names of loaded objects are identifiers, and no two are the same. -/
theorem distinct_of_loaded {paths : List String} {dtos : List Dto}
    (h : loaded fs paths = .ok dtos) : Distinct dtos := by
  obtain ⟨groups, hgroups, rfl, hnodup⟩ := loaded_eq_ok.mp h
  refine ⟨fun dto hdto => ?_, hnodup⟩
  obtain ⟨group, hgroup, hdto⟩ := List.mem_flatten.mp hdto
  obtain ⟨path, -, hpath⟩ := hgroups.exists_path hgroup
  exact (loadedFrom_eq_ok.mp hpath).2 dto hdto

/-! ## Faults -/

/-- What can be wrong with manifests. -/
inductive Faulty (fs : FileSystem) (paths : List String) : Prop
  /-- The name of a file tells no format. -/
  | unsupported {path : String} : path ∈ paths → Format.ofPath? path = none → Faulty fs paths
  /-- A file cannot be read. -/
  | unreadable {path : String} {e : IoError} : path ∈ paths → fs.readText path = .error e →
      Faulty fs paths
  /-- A text cannot be decoded. -/
  | malformed {path text : String} {format : Format} {e : ManifestError} : path ∈ paths →
      Format.ofPath? path = some format → fs.readText path = .ok text →
      decode path text format = .error e → Faulty fs paths
  /-- The name of an object is no identifier. -/
  | invalidName {path : String} {dtos : List Dto} {dto : Dto} : path ∈ paths →
      Holds fs path dtos → dto ∈ dtos → TypeName.isIdentifier dto.name = false → Faulty fs paths
  /-- A manifest repeats a name of its own. -/
  | repeatedWithin {path : String} {dtos : List Dto} : path ∈ paths → Holds fs path dtos →
      ¬ NodupNames dtos → Faulty fs paths
  /-- A manifest repeats a name of an earlier one. -/
  | repeatedAcross {before after : List String} {path other : String} {dtos others : List Dto}
      {dto again : Dto} : paths = before ++ after → path ∈ before → other ∈ after →
      Holds fs path dtos → Holds fs other others → dto ∈ dtos → again ∈ others →
      again.name = dto.name → Faulty fs paths

theorem Holds.unique {path : String} {dtos others : List Dto} (h : Holds fs path dtos)
    (h' : Holds fs path others) : others = dtos := by
  obtain ⟨format, text, hformat, htext, hdecode⟩ := h
  obtain ⟨format', text', hformat', htext', hdecode'⟩ := h'
  obtain rfl := Option.some.inj (hformat.symm.trans hformat')
  obtain rfl := Except.ok.inj (htext.symm.trans htext')
  exact Except.ok.inj (hdecode'.symm.trans hdecode)

/-- Manifests that are loaded have no fault. -/
theorem not_faulty_of_loaded {paths : List String} {dtos : List Dto}
    (h : loaded fs paths = .ok dtos) : ¬ Faulty fs paths := by
  obtain ⟨groups, hgroups, rfl, hnodup⟩ := loaded_eq_ok.mp h
  have hholds : ∀ path ∈ paths, ∃ group ∈ groups, Holds fs path group ∧
      ∀ dto ∈ group, TypeName.isIdentifier dto.name = true := by
    intro path hpath
    obtain ⟨group, hgroup, hloaded⟩ := hgroups.exists_group hpath
    exact ⟨group, hgroup, loadedFrom_eq_ok.mp hloaded⟩
  intro hfaulty
  cases hfaulty with
  | unsupported hpath hnone =>
    obtain ⟨-, -, ⟨_, _, hformat, -, -⟩, -⟩ := hholds _ hpath
    simp [hnone] at hformat
  | unreadable hpath herror =>
    obtain ⟨-, -, ⟨_, _, -, htext, -⟩, -⟩ := hholds _ hpath
    simp [herror] at htext
  | malformed hpath hformat htext herror =>
    obtain ⟨group, -, ⟨_, _, hformat', htext', hdecode⟩, -⟩ := hholds _ hpath
    obtain rfl := Option.some.inj (hformat.symm.trans hformat')
    obtain rfl := Except.ok.inj (htext.symm.trans htext')
    simp [herror] at hdecode
  | invalidName hpath hdtos hdto hname =>
    obtain ⟨group, -, hgroup, hnames⟩ := hholds _ hpath
    obtain rfl := hdtos.unique hgroup
    simp [hnames _ hdto] at hname
  | repeatedWithin hpath hdtos hrepeat =>
    obtain ⟨group, hmem, hgroup, -⟩ := hholds _ hpath
    obtain rfl := hdtos.unique hgroup
    exact hrepeat (hnodup.sublist (List.sublist_flatten_of_mem hmem))
  | repeatedAcross hpaths hpath hother hdtos hothers hdto hagain hname =>
    subst hpaths
    obtain ⟨first, second, hfirst, hsecond, rfl⟩ := hgroups.exists_append
    obtain ⟨group, hgroup, hloaded⟩ := hfirst.exists_group hpath
    obtain ⟨group', hgroup', hloaded'⟩ := hsecond.exists_group hother
    obtain rfl := hdtos.unique (loadedFrom_eq_ok.mp hloaded).1
    obtain rfl := hothers.unique (loadedFrom_eq_ok.mp hloaded').1
    rw [List.flatten_append, nodupNames_append] at hnodup
    exact hnodup.2.2 _ (List.mem_flatten_of_mem hgroup hdto) _
      (List.mem_flatten_of_mem hgroup' hagain) hname

/-- A manifest without a fault of its own is loaded. -/
theorem exists_loadedFrom_of_not_faulty {paths : List String} {path : String}
    (h : ¬ Faulty fs paths) (hpath : path ∈ paths) : ∃ dtos, loadedFrom fs path = .ok dtos := by
  cases hformat : Format.ofPath? path with
  | none => exact absurd (.unsupported hpath hformat) h
  | some format =>
    cases htext : fs.readText path with
    | error e => exact absurd (.unreadable hpath htext) h
    | ok text =>
      cases hdecode : decode path text format with
      | error e => exact absurd (.malformed hpath hformat htext hdecode) h
      | ok dtos =>
        have hholds : Holds fs path dtos := ⟨format, text, hformat, htext, hdecode⟩
        refine ⟨dtos, loadedFrom_eq_ok.mpr ⟨hholds, fun dto hdto => ?_⟩⟩
        by_contra hname
        exact h (.invalidName hpath hholds hdto (Bool.eq_false_iff.mpr hname))

/-- A fault of manifests stays one when there is another manifest before them. -/
theorem Faulty.cons {path : String} {paths : List String} (h : Faulty fs paths) :
    Faulty fs (path :: paths) := by
  cases h with
  | unsupported hpath hnone => exact .unsupported (List.mem_cons_of_mem _ hpath) hnone
  | unreadable hpath herror => exact .unreadable (List.mem_cons_of_mem _ hpath) herror
  | malformed hpath hformat htext herror =>
    exact .malformed (List.mem_cons_of_mem _ hpath) hformat htext herror
  | invalidName hpath hdtos hdto hname =>
    exact .invalidName (List.mem_cons_of_mem _ hpath) hdtos hdto hname
  | repeatedWithin hpath hdtos hrepeat =>
    exact .repeatedWithin (List.mem_cons_of_mem _ hpath) hdtos hrepeat
  | repeatedAcross hpaths hpath hother hdtos hothers hdto hagain hname =>
    subst hpaths
    exact .repeatedAcross (List.cons_append ..).symm (List.mem_cons_of_mem _ hpath) hother hdtos
      hothers hdto hagain hname

/-- Manifests without a fault are loaded, manifest by manifest. -/
theorem exists_loadedGroups_of_not_faulty {paths : List String} (h : ¬ Faulty fs paths) :
    ∃ groups, LoadedGroups fs paths groups ∧ NodupNames groups.flatten := by
  induction paths with
  | nil => exact ⟨[], .nil, List.nodup_nil⟩
  | cons path paths ih =>
    obtain ⟨groups, hgroups, hnodup⟩ := ih fun hfaulty => h hfaulty.cons
    obtain ⟨group, hgroup⟩ := exists_loadedFrom_of_not_faulty h (List.mem_cons_self ..)
    have hholds := (loadedFrom_eq_ok.mp hgroup).1
    refine ⟨group :: groups, .cons hgroup hgroups, ?_⟩
    rw [List.flatten_cons]
    refine nodupNames_append.mpr ⟨?_, hnodup, fun dto hdto again hagain hname => ?_⟩
    · by_contra hrepeat
      exact h (.repeatedWithin (List.mem_cons_self ..) hholds hrepeat)
    · obtain ⟨others, hothers, hagain⟩ := List.mem_flatten.mp hagain
      obtain ⟨other, hother, hloaded⟩ := hgroups.exists_path hothers
      have hpaths : path :: paths = [path] ++ paths := rfl
      exact h (.repeatedAcross hpaths (List.mem_singleton_self _) hother hholds
        (loadedFrom_eq_ok.mp hloaded).1 hdto hagain hname)

/-- Loading fails if there is a fault, and only then. -/
theorem loaded_eq_error_iff {paths : List String} :
    (∃ e, loaded fs paths = .error e) ↔ Faulty fs paths := by
  constructor
  · rintro ⟨e, he⟩
    by_contra hfaulty
    obtain ⟨groups, hgroups, hnodup⟩ := exists_loadedGroups_of_not_faulty hfaulty
    have hloaded := loaded_eq_ok.mpr ⟨groups, hgroups, rfl, hnodup⟩
    rw [he] at hloaded
    simp at hloaded
  · intro hfaulty
    cases hloaded : loaded fs paths with
    | error e => exact ⟨e, rfl⟩
    | ok dtos => exact absurd hfaulty (not_faulty_of_loaded hloaded)

end SchemaGen.Manifest
