import SchemaGen.Proofs.ModuleStorage

/-!
# Modules at their places

When every module of a run has a place of its own in a directory that is there, the three modes
do the following, module by module: storing puts the bytes of the module at its place, comparing
looks whether they are there, and a preview does nothing.

* `stored_eq_ok`, `compared_of_placed`: one module.
* `Places`: what is known of the places of several modules, with `Places.mono`.
* `Places.stored`, `Places.stored_again`, `Places.compared`, `Places.compared_held`: several
  modules, with `Held` for one whose bytes are at its place.
-/

namespace SchemaGen

open FileSystem

namespace OutputFolder

variable {fs fs' : FileSystem}

/-! ## One module -/

theorem exists_empty (fs : FileSystem) : fs.exists "" = false := by
  rw [Bool.eq_false_iff]
  intro h
  obtain ⟨e, he⟩ := exists_iff.mp h
  obtain ⟨l, hl, -⟩ := stat_eq_ok.mp he
  exact (locate_eq_ok.mp hl).1 rfl

theorem makeDirectories_empty (fs : FileSystem) : fs.makeDirectories "" = (.ok (), fs) := by
  unfold makeDirectories makeDirectoriesWithin
  rfl

/-- Above a place nothing has to be made. -/
theorem parentMade_of_above {path : String}
    (h : ∀ parent, Path.parent? path = some parent → parent = "" ∨ fs.exists parent = true) :
    parentMade path fs = (.ok (), fs) := by
  unfold parentMade
  cases hparent : Path.parent? path with
  | none => rfl
  | some parent =>
    rcases h parent hparent with rfl | hexists
    · simp only [exists_empty, makeDirectories_empty]
      rfl
    · simp only [hexists, if_true]

/-- A module that is stored at a place. -/
theorem stored_of_placed {path : String} {l : Location} (h : fs.Placed path l)
    (content : String) :
    stored path content fs =
      if fs.entryAt? l = some .directory then (.error (.notWritten path .isADirectory), fs)
      else (.ok (.written path content.utf8ByteSize), fs.put l (.file content.toUTF8)) := by
  unfold stored
  rw [parentMade_of_above h.above]
  simp only [putFile_placed h]
  by_cases hdir : fs.entryAt? l = some .directory
  · simp only [if_pos hdir]
  · simp only [if_neg hdir]

/-- Storing a module at a place succeeds unless a directory is there. -/
theorem stored_eq_ok {path : String} {l : Location} (h : fs.Placed path l) {content : String}
    {t : Treatment} :
    stored path content fs = (.ok t, fs') ↔ fs.entryAt? l ≠ some .directory ∧
      t = .written path content.utf8ByteSize ∧ fs' = fs.put l (.file content.toUTF8) := by
  rw [stored_of_placed h]
  by_cases hdir : fs.entryAt? l = some .directory
  · simp [hdir]
  · simp [hdir, eq_comm]

/-- A module that is compared with what is at its place. -/
theorem compared_of_placed {path : String} {l : Location} (h : fs.Placed path l)
    (content : String) :
    compared path content fs =
      match fs.entryAt? l with
      | none => .ok (.stale path .missing)
      | some .directory => .error (.notRead path .isADirectory)
      | some (.file bytes) =>
        match String.fromUTF8? bytes with
        | none => .error (.notRead path .invalidText)
        | some text => .ok (if text = content then .unchanged path else .stale path .outdated) := by
  have hstat := stat_placed h
  unfold OutputFolder.compared FileSystem.exists FileSystem.readText FileSystem.read
  rw [hstat]
  rcases fs.entryAt? l with _ | _ | bytes
  · rfl
  · rfl
  · cases htext : String.fromUTF8? bytes with
    | none => simp [htext]
    | some text => simp [htext]

/-- A comparison succeeds with the path of the module, and finds it unchanged iff its bytes are
there. -/
theorem of_compared_eq_ok {path content : String} {l : Location} {t : Treatment}
    (hplaced : fs.Placed path l) (h : compared path content fs = .ok t) :
    t.path = path ∧ (t = .unchanged path ↔ fs.entryAt? l = some (.file content.toUTF8)) ∧
      (t.isStale = true ↔ fs.entryAt? l ≠ some (.file content.toUTF8)) := by
  rw [compared_of_placed hplaced] at h
  rcases hentry : fs.entryAt? l with _ | _ | bytes
  · simp only [hentry, Except.ok.injEq] at h
    subst h
    simp [Treatment.path, Treatment.isStale]
  · simp only [hentry, reduceCtorEq] at h
  · simp only [hentry] at h
    cases htext : String.fromUTF8? bytes with
    | none => simp only [htext, reduceCtorEq] at h
    | some text =>
      simp only [htext, Except.ok.injEq] at h
      obtain rfl := fromUTF8?_eq_some.mp htext
      by_cases hsame : text = content
      · subst hsame
        rw [if_pos rfl] at h
        subst h
        simp [Treatment.path, Treatment.isStale]
      · rw [if_neg hsame] at h
        subst h
        simp [Treatment.path, Treatment.isStale, String.toByteArray_inj, hsame]

/-! ## Several modules -/

/-- Every module has a place of the class `p`, and no two have the same. -/
structure Places (p : Location → Bool) (dir : String) (place : String → Location)
    (modules : List (String × String)) (fs : FileSystem) : Prop where
  placed : ∀ m ∈ modules, fs.Placed (Path.join dir m.1) (place m.1)
  mem : ∀ m ∈ modules, p (place m.1) = true
  nodup : (modules.map fun m => place m.1).Nodup

variable {p : Location → Bool} {dir : String} {place : String → Location}
  {modules : List (String × String)}

theorem Places.mono (hplaces : Places p dir place modules fs) (h : SameBut p fs fs') :
    Places p dir place modules fs' :=
  ⟨fun m hm => (hplaces.placed m hm).mono h, hplaces.mem, hplaces.nodup⟩

theorem Places.tail {m : String × String} (h : Places p dir place (m :: modules) fs) :
    Places p dir place modules fs :=
  ⟨fun n hn => h.placed n (List.mem_cons_of_mem _ hn),
    fun n hn => h.mem n (List.mem_cons_of_mem _ hn), (List.nodup_cons.mp h.nodup).2⟩

/-- What storing says about a module. -/
def writtenModule (dir : String) (m : String × String) : Treatment :=
  .written (Path.join dir m.1) m.2.utf8ByteSize

/-- What a preview says about a module. -/
def previewedModule (dir : String) (m : String × String) : Treatment :=
  .previewed (Path.join dir m.1) m.2

/-- What a comparison says about a module whose bytes are there. -/
def unchangedModule (dir : String) (m : String × String) : Treatment :=
  .unchanged (Path.join dir m.1)

/-- A module is held if its bytes are at its place. -/
def Held (place : String → Location) (fs : FileSystem) (m : String × String) : Prop :=
  fs.entryAt? (place m.1) = some (.file m.2.toUTF8)

/-- Storing modules changes files at their places only, and leaves each module at its place. -/
theorem Places.stored (hplaces : Places p dir place modules fs) {results : List Treatment}
    (h : treatedAll dir .write modules fs = (.ok (), results, fs')) :
    SameBut p fs fs' ∧ results = modules.map (writtenModule dir) ∧
      (∀ m ∈ modules, Held place fs' m) ∧
      ∀ l, (∀ m ∈ modules, place m.1 ≠ l) → fs'.entryAt? l = fs.entryAt? l := by
  induction modules generalizing fs results with
  | nil =>
    obtain ⟨-, h⟩ := Prod.mk.inj h
    obtain ⟨rfl, rfl⟩ := Prod.mk.inj h
    exact ⟨SameBut.refl p fs, rfl, by simp, fun _ _ => rfl⟩
  | cons m modules ih =>
    have hplaced := hplaces.placed m (List.mem_cons_self ..)
    have hmem := hplaces.mem m (List.mem_cons_self ..)
    obtain ⟨t, files, rest, htreated, hrest, rfl⟩ := treatedAll_cons_eq_ok.mp h
    obtain ⟨hdir, rfl, rfl⟩ := (stored_eq_ok hplaced).mp htreated
    have hput := sameBut_put hmem hplaced.ne_nil hdir m.2.toUTF8
    obtain ⟨hsame, hresults, hheld, hother⟩ := ih (hplaces.tail.mono hput) hrest
    have hfresh : ∀ n ∈ modules, place n.1 ≠ place m.1 := by
      intro n hn heq
      have hnodup := (List.nodup_cons.mp hplaces.nodup).1
      exact hnodup (List.mem_map.mpr ⟨n, hn, heq⟩)
    refine ⟨hput.trans hsame, congrArg (List.cons _) hresults, fun n hn => ?_, fun l hl => ?_⟩
    · rcases List.mem_cons.mp hn with rfl | hn
      · unfold Held
        rw [hother _ hfresh, entryAt?_put hplaced.ne_nil, if_pos rfl]
      · exact hheld n hn
    · have hne : l ≠ place m.1 := (hl m (List.mem_cons_self ..)).symm
      rw [hother l fun n hn => hl n (List.mem_cons_of_mem _ hn), entryAt?_put hplaced.ne_nil,
        if_neg hne]

/-- Storing modules that are held succeeds and changes nothing. -/
theorem Places.stored_again (hplaces : Places p dir place modules fs)
    (hheld : ∀ m ∈ modules, Held place fs m) :
    ∃ fs', treatedAll dir .write modules fs = (.ok (), modules.map (writtenModule dir), fs') ∧
      SameFiles fs fs' := by
  induction modules generalizing fs with
  | nil => exact ⟨fs, rfl, SameFiles.refl fs⟩
  | cons m modules ih =>
    have hplaced := hplaces.placed m (List.mem_cons_self ..)
    have hentry : fs.entryAt? (place m.1) = some (.file m.2.toUTF8) :=
      hheld m (List.mem_cons_self ..)
    have hdir : fs.entryAt? (place m.1) ≠ some .directory := by
      rw [hentry]
      simp
    have hput := sameBut_put (hplaces.mem m (List.mem_cons_self ..)) hplaced.ne_nil hdir
      m.2.toUTF8
    have hsame := sameFiles_put hplaced.ne_nil hentry
    obtain ⟨files, htreated, hfiles⟩ := ih (hplaces.tail.mono hput) fun n hn =>
      (hsame.entryAt? _).trans (hheld n (List.mem_cons_of_mem _ hn))
    have hstored : treated (Path.join dir m.1) m.2 .write fs =
        (.ok (writtenModule dir m), _) :=
      (stored_eq_ok hplaced).mpr ⟨hdir, rfl, rfl⟩
    exact ⟨files, treatedAll_cons_eq_ok.mpr ⟨_, _, _, hstored, htreated, rfl⟩,
      hsame.trans hfiles⟩

/-- A comparison says of each module whether it is held. -/
theorem Places.compared (hplaces : Places p dir place modules fs) {results : List Treatment}
    (h : treatedAll dir .check modules fs = (.ok (), results, fs')) :
    List.Forall₂ (fun m t => t.path = Path.join dir m.1 ∧
      (t = unchangedModule dir m ↔ Held place fs m) ∧ (t.isStale = true ↔ ¬ Held place fs m))
      modules results := by
  induction modules generalizing results with
  | nil =>
    obtain ⟨-, h⟩ := Prod.mk.inj h
    obtain ⟨rfl, -⟩ := Prod.mk.inj h
    exact .nil
  | cons m modules ih =>
    obtain ⟨t, files, rest, htreated, hrest, rfl⟩ := treatedAll_cons_eq_ok.mp h
    obtain ⟨hcompared, rfl⟩ := Prod.mk.inj htreated
    exact .cons (of_compared_eq_ok (hplaces.placed m (List.mem_cons_self ..)) hcompared)
      (ih hplaces.tail hrest)

/-- Comparing modules that are held succeeds and finds each unchanged. -/
theorem Places.compared_held (hplaces : Places p dir place modules fs)
    (hheld : ∀ m ∈ modules, Held place fs m) :
    treatedAll dir .check modules fs = (.ok (), modules.map (unchangedModule dir), fs) := by
  induction modules with
  | nil => rfl
  | cons m modules ih =>
    have hentry : fs.entryAt? (place m.1) = some (.file m.2.toUTF8) :=
      hheld m (List.mem_cons_self ..)
    have hcompared := compared_of_placed (hplaces.placed m (List.mem_cons_self ..)) m.2
    simp only [hentry, fromUTF8?_toUTF8, if_true] at hcompared
    have hrest := ih hplaces.tail fun n hn => hheld n (List.mem_cons_of_mem _ hn)
    exact treatedAll_cons_eq_ok.mpr
      ⟨_, fs, _, Prod.ext hcompared rfl, hrest, rfl⟩

/-- A preview changes nothing. -/
theorem treatedAll_dryRun (dir : String) (modules : List (String × String)) (fs : FileSystem) :
    treatedAll dir .dryRun modules fs = (.ok (), modules.map (previewedModule dir), fs) := by
  induction modules with
  | nil => rfl
  | cons m modules ih => exact treatedAll_cons_eq_ok.mpr ⟨_, fs, _, rfl, ih, rfl⟩

end OutputFolder

end SchemaGen
