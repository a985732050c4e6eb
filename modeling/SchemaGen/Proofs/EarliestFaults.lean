import SchemaGen.Proofs.LoadedManifests

/-!
# The fault that is reported when manifests are not loaded

Manifests are loaded one after the other, and objects are added one after the other to those that
are known.  So loading stops at the first manifest that cannot be loaded or that repeats a name, of
an earlier manifest or of its own, and the objects before this place are known with their manifests.
An object that repeats a name is reported with the manifest of the first object that has it.

* `Manifest.AllLoad`: manifests without a fault, and the objects of each.
* `Manifest.FirstWith`: which manifest is the first with an object of a name; there is only one.
* `Manifest.EarliestFault`: the first fault of a list of manifests, and how it is reported.
* `Manifest.loadAll_by_earliest_fault`: loading ends with all objects, or with the first fault.
-/

namespace SchemaGen.Manifest

variable {fs : FileSystem}

/-- Each of the manifests is loaded, with these objects, and no two of all the objects have the
same name. -/
structure AllLoad (fs : FileSystem) (paths : List String) (groups : List (List Dto)) : Prop where
  loads : List.Forall₂ (fun path group => (load path).Ends fs (.ok group, fs)) paths groups
  nodup : NodupNames groups.flatten

/-- The manifest is loaded, and one of its objects has the name. -/
def HasName (fs : FileSystem) (name path : String) : Prop :=
  ∃ group, (load path).Ends fs (.ok group, fs) ∧ ∃ dto ∈ group, dto.name = name

/-- Of these manifests this is the first that has an object of the name. -/
def FirstWith (fs : FileSystem) (paths : List String) (name path : String) : Prop :=
  ∃ before after, paths = before ++ path :: after ∧ HasName fs name path ∧
    ∀ earlier ∈ before, ¬ HasName fs name earlier

/-- The first manifest with a fault, after others without, and how its fault is reported. -/
inductive EarliestFault (fs : FileSystem) (paths : List String) : ManifestError → Prop
  /-- It cannot be loaded, and the error is its own. -/
  | unloadable {before after : List String} {path : String} {groups : List (List Dto)}
      {e : ManifestError} : paths = before ++ path :: after → AllLoad fs before groups →
      (load path).Ends fs (.error e, fs) → EarliestFault fs paths e
  /-- It is loaded.  One of its objects has the name of an earlier object, no object before that
  one has, and this name is reported with the first manifest that has it. -/
  | repeated {before after : List String} {path first : String} {groups : List (List Dto)}
      {front back : List Dto} {dto : Dto} : paths = before ++ path :: after →
      AllLoad fs before groups → (load path).Ends fs (.ok (front ++ dto :: back), fs) →
      NodupNames (groups.flatten ++ front) →
      (∃ earlier ∈ groups.flatten ++ front, earlier.name = dto.name) →
      FirstWith fs (before ++ [path]) dto.name first →
      EarliestFault fs paths (.duplicateName dto.name first path)

/-! ## Loading one manifest after others -/

theorem ends_load_iff {path : String} {r : Except ManifestError (List Dto)} :
    (load path).Ends fs (r, fs) ↔ loadedFrom fs path = r := by
  constructor
  · intro h
    exact (Prod.mk.inj ((ends_load path fs).unique h)).1
  · rintro rfl
    exact ends_load path fs

theorem allLoad_iff {paths : List String} {groups : List (List Dto)} :
    AllLoad fs paths groups ↔ LoadedGroups fs paths groups ∧ NodupNames groups.flatten := by
  unfold LoadedGroups
  simp only [← ends_load_iff]
  exact ⟨fun h => ⟨h.loads, h.nodup⟩, fun h => ⟨h.1, h.2⟩⟩

theorem hasName_iff {name path : String} {group : List Dto} (h : loadedFrom fs path = .ok group) :
    HasName fs name path ↔ ∃ dto ∈ group, dto.name = name := by
  unfold HasName
  simp only [ends_load_iff]
  constructor
  · rintro ⟨group', hgroup', hdto⟩
    obtain rfl := Except.ok.inj (h.symm.trans hgroup')
    exact hdto
  · exact fun hdto => ⟨group, h, hdto⟩

/-- Manifests of which each is loaded are known with their objects if no two names are the same. -/
theorem foldlM_loadedNext_eq_ok {paths : List String} {entries : List Entry} :
    paths.foldlM (loadedNext fs) [] = .ok entries ↔
      ∃ groups, AllLoad fs paths groups ∧ entries = entriesOf paths groups := by
  have hnone : NodupNames (([] : List Entry).map Entry.dto) := List.nodup_nil
  rw [loadedNexts_eq_ok hnone]
  simp only [allLoad_iff, List.nil_append]
  constructor
  · rintro ⟨groups, hgroups, rfl, hnodup⟩
    rw [hgroups.map_dto_entriesOf] at hnodup
    exact ⟨groups, ⟨hgroups, hnodup⟩, rfl⟩
  · rintro ⟨groups, ⟨hgroups, hnodup⟩, rfl⟩
    rw [← hgroups.map_dto_entriesOf] at hnodup
    exact ⟨groups, hgroups, rfl, hnodup⟩

/-- An object that cannot be added is reported with the first known object of its name. -/
theorem addDto_eq_error {manifest : String} {known : List Entry} {dto : Dto} {e : ManifestError} :
    addDto manifest known dto = .error e ↔
      ∃ earlier, (known.find? fun entry => entry.dto.name = dto.name) = some earlier ∧
        e = .duplicateName dto.name earlier.manifest manifest := by
  unfold addDto
  cases known.find? fun entry => entry.dto.name = dto.name with
  | some earlier => simp [eq_comm]
  | none => simp

/-- Objects cannot be added iff one of them has the name of an earlier one; the first such object is
reported. -/
theorem addDtos_eq_error {manifest : String} {dtos : List Dto} {known : List Entry}
    {e : ManifestError} (hknown : NodupNames (known.map Entry.dto)) :
    dtos.foldlM (addDto manifest) known = .error e ↔
      ∃ front dto back earlier, dtos = front ++ dto :: back ∧
        NodupNames (known.map Entry.dto ++ front) ∧
        ((known ++ front.map (Entry.mk manifest)).find? fun entry => entry.dto.name = dto.name) =
          some earlier ∧
        e = .duplicateName dto.name earlier.manifest manifest := by
  rw [foldlM_eq_error]
  simp only [addDtos_eq_ok hknown, addDto_eq_error]
  constructor
  · rintro ⟨front, dto, back, _, rfl, ⟨hnodup, rfl⟩, earlier, hfind, rfl⟩
    exact ⟨front, dto, back, earlier, rfl, hnodup, hfind, rfl⟩
  · rintro ⟨front, dto, back, earlier, rfl, hnodup, hfind, rfl⟩
    exact ⟨front, dto, back, _, rfl, ⟨hnodup, rfl⟩, earlier, hfind, rfl⟩

/-! ## The first manifest with a name -/

namespace FirstWith

variable {paths : List String} {name path other : String}

theorem head (h : HasName fs name path) (after : List String) :
    FirstWith fs (path :: after) name path :=
  ⟨[], after, rfl, h, fun _ hmem => absurd hmem List.not_mem_nil⟩

theorem cons (hother : ¬ HasName fs name other) (h : FirstWith fs paths name path) :
    FirstWith fs (other :: paths) name path := by
  obtain ⟨before, after, rfl, hpath, hbefore⟩ := h
  exact ⟨other :: before, after, rfl, hpath, List.forall_mem_cons.mpr ⟨hother, hbefore⟩⟩

/-- A name has one first manifest. -/
theorem unique (h : FirstWith fs paths name path) (h' : FirstWith fs paths name other) :
    path = other := by
  obtain ⟨before, after, hpaths, hpath, hbefore⟩ := h
  obtain ⟨before', after', hpaths', hother, hbefore'⟩ := h'
  -- If the one stood behind the other, the other would be before it and have the name.
  rcases List.append_eq_append_iff.mp (hpaths.symm.trans hpaths') with
    ⟨between, rfl, hrest⟩ | ⟨between, rfl, hrest⟩
  · cases between with
    | nil => exact (List.cons.inj hrest).1
    | cons head between =>
      obtain rfl := (List.cons.inj hrest).1
      exact absurd hpath (hbefore' path (by simp))
  · cases between with
    | nil => exact (List.cons.inj hrest).1.symm
    | cons head between =>
      obtain rfl := (List.cons.inj hrest).1
      exact absurd hother (hbefore other (by simp))

end FirstWith

/-- The first known object of a name comes from the first manifest with the name.  The objects are
those of some manifests and the first ones of another. -/
theorem firstWith_of_find? {before : List String} {groups : List (List Dto)} {path name : String}
    {front back : List Dto} {earlier : Entry} (hgroups : LoadedGroups fs before groups)
    (hpath : loadedFrom fs path = .ok (front ++ back))
    (hfind : ((entriesOf before groups ++ front.map (Entry.mk path)).find?
      fun entry => entry.dto.name = name) = some earlier) :
    FirstWith fs (before ++ [path]) name earlier.manifest := by
  -- Where it is found among the objects of one manifest, this manifest has the name.
  have hhead : ∀ {path' : String} {group : List Dto} (rest),
      loadedFrom fs path' = .ok (group ++ rest) →
      ((group.map (Entry.mk path')).find? fun entry => entry.dto.name = name) = some earlier →
      earlier.manifest = path' ∧ HasName fs name path' := by
    intro path' group rest hloaded hearlier
    obtain ⟨dto, hdto, rfl⟩ := List.mem_map.mp (List.mem_of_find?_eq_some hearlier)
    exact ⟨rfl, (hasName_iff hloaded).mpr
      ⟨dto, List.mem_append_left _ hdto, by simpa using List.find?_some hearlier⟩⟩
  induction hgroups with
  | nil =>
    obtain ⟨heq, hname⟩ := hhead back hpath hfind
    exact heq ▸ .head hname []
  | @cons path' group paths groups hgroup _ ih =>
    rw [entriesOf_cons, List.append_assoc, List.find?_append] at hfind
    cases hhere : (group.map (Entry.mk path')).find? fun entry => entry.dto.name = name with
    | some entry =>
      rw [hhere, Option.some_or, Option.some.injEq] at hfind
      subst hfind
      obtain ⟨heq, hname⟩ := hhead [] (by rwa [List.append_nil]) hhere
      exact heq ▸ .head hname _
    | none =>
      rw [hhere, Option.none_or] at hfind
      refine .cons (fun hname => ?_) (ih hfind)
      obtain ⟨dto, hdto, hdtoname⟩ := (hasName_iff hgroup).mp hname
      have hnot := List.find?_eq_none.mp hhere _ (List.mem_map_of_mem hdto)
      exact hnot (decide_eq_true hdtoname)

/-! ## The whole list -/

/-- Loading fails with an error iff the first fault is reported so. -/
theorem loaded_eq_error {paths : List String} {e : ManifestError} :
    loaded fs paths = .error e ↔ EarliestFault fs paths e := by
  have hloaded : loaded fs paths = .error e ↔ paths.foldlM (loadedNext fs) [] = .error e := by
    unfold loaded
    cases paths.foldlM (loadedNext fs) [] <;> simp [Except.map]
  rw [hloaded, foldlM_eq_error]
  simp only [foldlM_loadedNext_eq_ok]
  constructor
  · rintro ⟨before, path, after, _, hpaths, ⟨groups, hbefore, rfl⟩, herror⟩
    obtain ⟨hgroups, hnodup⟩ := allLoad_iff.mp hbefore
    rcases bind_eq_error.mp herror with hunloadable | ⟨dtos, hdtos, hadd⟩
    · exact .unloadable hpaths hbefore (ends_load_iff.mpr hunloadable)
    · rw [← hgroups.map_dto_entriesOf] at hnodup
      obtain ⟨front, dto, back, earlier, rfl, hfront, hfind, rfl⟩ := (addDtos_eq_error hnodup).mp hadd
      rw [hgroups.map_dto_entriesOf] at hfront
      have hmem : earlier.dto ∈ groups.flatten ++ front := by
        rw [← hgroups.map_dto_entriesOf, ← map_dto_mk path front, ← List.map_append]
        exact List.mem_map_of_mem (List.mem_of_find?_eq_some hfind)
      exact .repeated hpaths hbefore (ends_load_iff.mpr hdtos) hfront
        ⟨earlier.dto, hmem, by simpa using List.find?_some hfind⟩
        (firstWith_of_find? hgroups hdtos hfind)
  · intro hfault
    cases hfault with
    | @unloadable before after path groups _ hpaths hbefore herror =>
      exact ⟨before, path, after, _, hpaths, ⟨groups, hbefore, rfl⟩,
        bind_eq_error.mpr (.inl (ends_load_iff.mp herror))⟩
    | @repeated before after path first groups front back dto hpaths hbefore hdtos hfront hearlier
        hfirst =>
      obtain ⟨hgroups, hnodup⟩ := allLoad_iff.mp hbefore
      have hdtos := ends_load_iff.mp hdtos
      obtain ⟨entry, hfind⟩ : ∃ entry, ((entriesOf before groups ++ front.map (Entry.mk path)).find?
          fun entry => entry.dto.name = dto.name) = some entry := by
        rw [← Option.isSome_iff_exists, List.find?_isSome]
        rw [← hgroups.map_dto_entriesOf, ← map_dto_mk path front, ← List.map_append] at hearlier
        obtain ⟨_, hmem, hname⟩ := hearlier
        obtain ⟨entry, hentry, rfl⟩ := List.mem_map.mp hmem
        exact ⟨entry, hentry, decide_eq_true hname⟩
      obtain rfl := (firstWith_of_find? hgroups hdtos hfind).unique hfirst
      rw [← hgroups.map_dto_entriesOf] at hnodup hfront
      exact ⟨before, path, after, _, hpaths, ⟨groups, hbefore, rfl⟩, bind_eq_error.mpr (.inr
        ⟨_, hdtos, (addDtos_eq_error hnodup).mpr ⟨front, dto, back, entry, rfl, hfront, hfind, rfl⟩⟩)⟩

/-- For every file system and every list of manifests.  Loading leaves the files as they are.  It
succeeds iff each manifest is loaded and no two objects of all manifests have the same name, and
then yields the objects in the order of the manifests and then in that of their declaration.  It
fails with an error iff the first manifest that cannot be loaded, or that repeats a name, is
reported by it. -/
theorem loadAll_by_earliest_fault (fs : FileSystem) (paths : List String) :
    ∃ result, (loadAll paths).Ends fs (result, fs) ∧
      (∀ dtos, result = .ok dtos ↔ ∃ groups, AllLoad fs paths groups ∧ dtos = groups.flatten) ∧
      ∀ e, result = .error e ↔ EarliestFault fs paths e := by
  refine ⟨loaded fs paths, ends_loadAll paths fs, fun dtos => ?_, fun e => loaded_eq_error⟩
  simp only [loaded_eq_ok, allLoad_iff]
  constructor
  · rintro ⟨groups, hgroups, rfl, hnodup⟩
    exact ⟨groups, ⟨hgroups, hnodup⟩, rfl⟩
  · rintro ⟨groups, ⟨hgroups, hnodup⟩, rfl⟩
    exact ⟨groups, hgroups, rfl, hnodup⟩

end SchemaGen.Manifest
