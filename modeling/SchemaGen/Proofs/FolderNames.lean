import Mathlib.Data.List.Nodup
import SchemaGen.Options
import SchemaGen.Proofs.ManifestSources
import SchemaGen.Proofs.ModulePlaces

/-!
# The places of the names in a folder

A run names the modules of its data transfer objects plainly, and that of the shared validators,
unless configured otherwise, by a path that leaves the folder.  Both kinds of names have places
as soon as the directories that they go to are there, and these directories are there whenever a
run has stored something: nothing is ever made for a path that starts by leaving the folder.

* `Based`: where the names in a folder are placed, with `exists_based` for a prepared folder.
* `ModuleName`, `home`, `place`: the names of a run and their places.
* `directory_of_stored`: storing a module tells that its directory is there.
* `places_of_treatedAll`: modules that have been stored have places.
-/

namespace SchemaGen

open FileSystem

/-! ## Paths that go up -/

/-- No idle piece comes after one that is not. -/
theorem Path.eq_nil_of_concat_eq {before kept idle : List String} {name : String}
    (h : before ++ [name] = kept ++ idle) (hname : isIdle name = false)
    (hidle : ∀ n ∈ idle, isIdle n = true) : idle = [] := by
  by_contra hne
  have hlast := congrArg List.getLast? h
  rw [List.getLast?_concat, List.getLast?_append_of_ne_nil _ hne] at hlast
  have htrue := hidle name (List.mem_of_getLast? hlast.symm)
  rw [hname] at htrue
  exact Bool.noConfusion htrue

/-- The path above a name in the directory above. -/
theorem Path.parent?_of_pieces_up {path name : String} {before : List String}
    (h : pieces path = before ++ ["..", name]) (hname : isIdle name = false) :
    ∃ parent, parent? path = some parent ∧ parent ≠ "" ∧ isRooted parent = isRooted path ∧
      pieces parent = before ++ [".."] := by
  obtain ⟨first, rest, hsplit⟩ : ∃ first rest, before ++ [".."] = first :: rest := by
    cases before with
    | nil => exact ⟨_, _, rfl⟩
    | cons first rest => exact ⟨_, _, rfl⟩
  have hpieces : pieces path = first :: (rest ++ [name]) := by
    rw [h, ← List.cons_append, ← hsplit, List.append_assoc]
    rfl
  obtain ⟨parent, kept, idle, hparent, hne, hrooted, hkept, hidle, hcases⟩ :=
    parent?_of_pieces hpieces hname
  rw [← hsplit] at hkept
  obtain rfl := eq_nil_of_concat_eq hkept (by decide) hidle
  rw [List.append_nil] at hkept
  refine ⟨parent, hparent, hne, hrooted, ?_⟩
  rcases hcases with hcases | ⟨hroot, -⟩
  · rw [hcases, hkept]
  · rw [hroot] at hkept
    have hlast := congrArg List.getLast? hkept
    rw [List.getLast?_concat] at hlast
    simp at hlast

namespace FileSystem

variable {fs fs' : FileSystem}

/-- No directory can be made at a path that goes up last. -/
theorem makeDirectory_up {path : String} {before : List String} {base : Location}
    (hne : path ≠ "") (hpieces : Path.pieces path = before ++ [".."])
    (hbefore : before.foldlM fs.follow (fs.start path) = .ok base) :
    fs.makeDirectory path = .error (match fs.entryAt? base with
      | none => .notFound
      | some (.file _) => .notADirectory
      | some .directory => .alreadyExists) := by
  have hdrop : (Path.pieces path).reverse.dropWhile (· = "") = ".." :: before.reverse := by
    rw [hpieces, List.reverse_append, List.reverse_singleton, List.singleton_append,
      List.dropWhile_cons_of_neg (by simp)]
  unfold makeDirectory
  rw [slot?_of_ne_empty hne, hdrop]
  simp only [List.reverse_reverse, hbefore]
  rcases fs.entryAt? base with _ | _ | _ <;>
    simp

/-- Nothing is made for a path that goes up last, from a directory that is there or at once. -/
theorem makeDirectories_up {path : String} {before : List String} {base : Location}
    (hne : path ≠ "") (hpieces : Path.pieces path = before ++ [".."])
    (hbefore : before.foldlM fs.follow (fs.start path) = .ok base)
    (hbase : fs.entryAt? base = some .directory ∨ before = []) :
    (fs.makeDirectories path).2 = fs := by
  have hmade := makeDirectory_up hne hpieces hbefore
  have hsettled : ∀ e, (if fs.isDirectory path then ((.ok () : Except IoError Unit), fs)
      else (.error e, fs)).2 = fs := by
    intro e
    split <;> rfl
  unfold makeDirectories makeDirectoriesWithin
  simp only [if_neg hne, hmade]
  rcases hentry : fs.entryAt? base with _ | _ | content
  · rcases hbase with hbase | rfl
    · rw [hentry] at hbase
      simp at hbase
    · -- The empty path is above two dots, and nothing is made for it.
      have hpath : path = ".." := by
        rw [← Path.intercalate_pieces path, hpieces, List.nil_append,
          String.intercalate_singleton]
      have hparent : Path.parent? path = some "" := by
        rw [hpath]
        decide
      have habove : fs.makeDirectoriesWithin (Path.pieces path).length "" = (.ok (), fs) := by
        rw [hpieces]
        rfl
      simp only [hentry, hparent, habove, hmade]
      exact hsettled _
  · exact hsettled _
  · exact hsettled _

/-- A file is only put into a directory. -/
theorem directory_of_putFile {path name : String} {before : List String} {content : ByteArray}
    (hpieces : Path.pieces path = before ++ [name]) (h : fs.putFile path content = .ok fs') :
    ∃ directory, before.foldlM fs.follow (fs.start path) = .ok directory ∧
      fs.entryAt? directory = some .directory := by
  obtain ⟨l, hplaced, -, -⟩ := placed_of_putFile h
  obtain ⟨-, hlocate⟩ := locate_eq_ok.mp hplaced.locate
  rw [hpieces] at hlocate
  obtain ⟨directory, hbefore, hlast⟩ := foldlM_follow_append.mp hlocate
  exact ⟨directory, hbefore, (foldlM_follow_cons.mp hlast).1⟩

/-- Where a path seen from a directory continues is where the path of the directory leads. -/
theorem exists_foldlM_join {dir rest : String} (hrest : Path.isRooted rest = false)
    (hdir : dir ≠ "") :
    ∃ before, Path.pieces (Path.join dir rest) = before ++ Path.pieces rest ∧
      ∀ base, fs.entryAt? base = some .directory →
        (before.foldlM fs.follow (fs.start (Path.join dir rest)) = .ok base ↔
          fs.locate dir = .ok base) := by
  obtain ⟨before, hpieces, hbefore⟩ := Path.pieces_join hrest hdir
  refine ⟨before, hpieces, fun base hentry => ?_⟩
  rw [start_of_isRooted_eq (Path.isRooted_join hrest hdir), locate_eq_ok, and_iff_right hdir]
  rcases hbefore with rfl | hempty
  · rfl
  · -- A slash at the end of the folder is followed by an empty piece, which leads nowhere.
    have hidle : ∀ n ∈ [""], Path.isIdle n = true := by simp [Path.isIdle]
    rw [← hempty, foldlM_follow_append]
    constructor
    · intro h
      exact ⟨base, h, foldlM_follow_idle_of_directory hidle hentry⟩
    · rintro ⟨between, hbetween, hlast⟩
      rw [foldlM_follow_idle hidle hlast]
      exact hbetween

end FileSystem

namespace OutputFolder

variable {fs fs' : FileSystem} {dir : String} {base : Location}

/-! ## Where the names in a folder are placed -/

/-- Paths that are seen from the folder continue from the location. -/
def Based (fs : FileSystem) (dir : String) (base : Location) : Prop :=
  ∀ rest, Path.isRooted rest = false →
    ∃ before, Path.pieces (Path.join dir rest) = before ++ Path.pieces rest ∧
      before.foldlM fs.follow (fs.start (Path.join dir rest)) = .ok base ∧
      (fs.entryAt? base = some .directory ∨ before = [] ∧ dir = "")

/-- Paths seen from a directory continue from it. -/
theorem based_of_isDirectory (h : fs.isDirectory dir = true) :
    ∃ base, Based fs dir base ∧ fs.entryAt? base = some .directory := by
  obtain ⟨base, hlocate, hentry⟩ := stat_eq_ok.mp (isDirectory_iff.mp h)
  refine ⟨base, fun rest hrest => ?_, hentry⟩
  obtain ⟨before, hpieces, hbefore⟩ := exists_foldlM_join hrest (locate_eq_ok.mp hlocate).1
  exact ⟨before, hpieces, (hbefore base hentry).mpr hlocate, .inl hentry⟩

/-- Paths seen from nowhere start where all paths do. -/
theorem based_empty (fs : FileSystem) : Based fs "" fs.workingDirectory := by
  intro rest hrest
  rw [Path.join_empty]
  exact ⟨[], rfl, congrArg Except.ok (start_of_not_isRooted hrest), .inr ⟨rfl, rfl⟩⟩

/-- A folder that has been prepared for storing is there, unless its path is empty. -/
theorem isDirectory_of_prepared (h : prepared dir .write fs = (.ok (), fs')) :
    dir = "" ∨ fs'.isDirectory dir = true := by
  unfold prepared at h
  split at h
  · rcases hmade : fs.makeDirectories dir with ⟨r, files⟩
    rw [hmade] at h
    obtain ⟨hr, rfl⟩ := Prod.mk.inj h
    cases r with
    | error e => simp [Except.mapError] at hr
    | ok u => exact isDirectory_of_makeDirectories hmade
  · next hnot =>
    obtain rfl := (Prod.mk.inj h).2
    simp only [true_and, Bool.not_eq_false] at hnot
    exact .inr hnot

/-- A folder that has been prepared for storing has a base. -/
theorem exists_based_of_prepared (h : prepared dir .write fs = (.ok (), fs')) :
    ∃ base, Based fs' dir base := by
  rcases isDirectory_of_prepared h with rfl | hthere
  · exact ⟨_, based_empty fs'⟩
  · obtain ⟨base, hbased, -⟩ := based_of_isDirectory hthere
    exact ⟨base, hbased⟩

theorem Based.mono {p : Location → Bool} (hbased : Based fs dir base) (h : SameBut p fs fs') :
    Based fs' dir base := by
  intro rest hrest
  obtain ⟨before, hpieces, hbefore, hbase⟩ := hbased rest hrest
  refine ⟨before, hpieces, ?_, ?_⟩
  · rw [start_eq h.workingDirectory]
    exact h.foldlM_follow_iff.mpr hbefore
  · rw [h.directory_iff]
    exact hbase

/-! ## The names of a run -/

/-- The file of the shared validators, unless configured otherwise. -/
def standardHelpersFile : String :=
  Options.defaultHelpersModule ++ ".ts"

/-- A name that a run gives to a module. -/
inductive ModuleName : String → Prop
  | plain (stem : String) : '/' ∉ stem.toList → stem ++ ".ts" ≠ "zod-mods.ts" →
    ModuleName (stem ++ ".ts")
  | helpers : ModuleName standardHelpersFile

/-- The directory that a module goes to. -/
def home (base : Location) (name : String) : Location :=
  if name = standardHelpersFile then base.dropLast else base

/-- The place of a module. -/
def place (base : Location) (name : String) : Location :=
  if name = standardHelpersFile then base.dropLast ++ ["zod-mods.ts"] else base ++ [name]

theorem ne_standardHelpersFile {name : String} (h : '/' ∉ name.toList) :
    name ≠ standardHelpersFile := by
  rintro rfl
  exact h (by decide)

theorem ne_standardHelpersFile_of_stem {stem : String} (h : '/' ∉ stem.toList) :
    stem ++ ".ts" ≠ standardHelpersFile :=
  ne_standardHelpersFile (Path.plain_append_ts h).slash

theorem isModuleLocation_place (base : Location) {name : String} (h : ModuleName name) :
    isModuleLocation (place base name) = true := by
  refine isModuleLocation_iff.mpr ?_
  cases h with
  | plain stem hslash hstem =>
    exact ⟨base, stem, if_neg (ne_standardHelpersFile_of_stem hslash)⟩
  | helpers => exact ⟨base.dropLast, "zod-mods", if_pos rfl⟩

/-- Different modules have different places. -/
theorem place_inj {name other : String} (hname : ModuleName name) (hother : ModuleName other)
    (h : place base name = place base other) : name = other := by
  unfold place at h
  cases hname with
  | plain stem hslash hstem =>
    rw [if_neg (ne_standardHelpersFile_of_stem hslash)] at h
    cases hother with
    | plain stem' hslash' hstem' =>
      rw [if_neg (ne_standardHelpersFile_of_stem hslash')] at h
      exact List.singleton_inj.mp (List.append_cancel_left h)
    | helpers =>
      rw [if_pos rfl] at h
      exact absurd (List.singleton_inj.mp (List.append_inj_right' h rfl)) hstem
  | helpers =>
    rw [if_pos rfl] at h
    cases hother with
    | plain stem' hslash' hstem' =>
      rw [if_neg (ne_standardHelpersFile_of_stem hslash')] at h
      exact absurd (List.singleton_inj.mp (List.append_inj_right' h rfl)).symm hstem'
    | helpers => rfl

/-- The last piece of a name is new in its directory. -/
theorem ModuleName.pieces {name : String} (h : ModuleName name) (base : Location) :
    ∃ lead last, Path.pieces name = lead ++ [last] ∧ Path.Plain last ∧
      place base name = home base name ++ [last] ∧
      (lead = [] ∧ home base name = base ∨ lead = [".."] ∧ home base name = base.dropLast) := by
  unfold home place
  cases h with
  | plain stem hslash hstem =>
    have hplain := Path.plain_append_ts hslash
    refine ⟨[], _, Path.pieces_of_notMem hplain.slash, hplain, ?_⟩
    simp only [if_neg (ne_standardHelpersFile_of_stem hslash), true_and, true_or]
  | helpers =>
    have hplain : Path.Plain ("zod-mods" ++ ".ts") := Path.plain_append_ts (by decide)
    refine ⟨[".."], "zod-mods.ts", by decide, hplain, ?_⟩
    simp only [if_true, true_and, or_true]

theorem ModuleName.isRooted {name : String} (h : ModuleName name) :
    Path.isRooted name = false := by
  cases h with
  | plain stem hslash hstem => exact (Path.plain_append_ts hslash).isRooted
  | helpers => decide

/-- A module whose directory is there has its place in it. -/
theorem Based.placed {name : String} (hbased : Based fs dir base) (hname : ModuleName name)
    (hbase : fs.entryAt? base = some .directory)
    (hhome : fs.entryAt? (home base name) = some .directory) :
    fs.Placed (Path.join dir name) (place base name) := by
  obtain ⟨before, hpieces, hbefore, -⟩ := hbased name hname.isRooted
  obtain ⟨lead, last, hname', hlast, hplace, hlead⟩ := hname.pieces base
  rw [hname', ← List.append_assoc] at hpieces
  rw [hplace]
  refine placed_of_pieces hpieces hlast (foldlM_follow_append.mpr ⟨base, hbefore, ?_⟩) hhome
  rcases hlead with ⟨rfl, heq⟩ | ⟨rfl, heq⟩
  · rw [heq]
    rfl
  · rw [heq]
    exact foldlM_follow_cons.mpr ⟨hbase, rfl⟩

/-- Nothing is made above a path without directories. -/
theorem parentMade_of_plain {name : String} (hname : Path.Plain name) :
    (parentMade name fs).2 = fs := by
  have hempty : ∀ parent, Path.parent? name = some parent →
      parent = "" ∨ fs.exists parent = true := by
    intro parent hparent
    rw [Path.parent?_of_notMem hname] at hparent
    exact .inl (Option.some.inj hparent).symm
  rw [parentMade_of_above hempty]

/-- Nothing is made above a path that goes up before its last piece, from a directory that is
there or at once. -/
theorem parentMade_of_up {path name : String} {before : List String}
    (hpieces : Path.pieces path = before ++ ["..", name]) (hname : Path.Plain name)
    (hbefore : before.foldlM fs.follow (fs.start path) = .ok base)
    (hbase : fs.entryAt? base = some .directory ∨ before = []) :
    (parentMade path fs).2 = fs := by
  obtain ⟨parent, hparent, hne, hrooted, hpieces⟩ :=
    Path.parent?_of_pieces_up hpieces hname.idle
  rw [← start_of_isRooted_eq hrooted] at hbefore
  unfold parentMade
  rw [hparent]
  simp only
  split
  · rfl
  · exact makeDirectories_up hne hpieces hbefore hbase

/-- A file is only put into a directory, whatever is made before it. -/
theorem directory_of_stored {path name content : String} {before : List String} {t : Treatment}
    (hpieces : Path.pieces path = before ++ [name]) (hmade : (parentMade path fs).2 = fs)
    (h : stored path content fs = (.ok t, fs')) :
    ∃ directory, before.foldlM fs.follow (fs.start path) = .ok directory ∧
      fs.entryAt? directory = some .directory := by
  obtain ⟨-, made, hparent, hput⟩ := of_stored_eq_ok h
  rw [hparent] at hmade
  obtain rfl : made = fs := hmade
  exact directory_of_putFile hpieces hput

/-- The directories of a module that has been stored are there. -/
theorem Based.directory_of_stored {name content : String} {t : Treatment}
    (hbased : Based fs dir base) (hname : ModuleName name)
    (h : stored (Path.join dir name) content fs = (.ok t, fs')) :
    fs.entryAt? base = some .directory ∧ fs.entryAt? (home base name) = some .directory := by
  obtain ⟨before, hpieces, hbefore, hcases⟩ := hbased name hname.isRooted
  obtain ⟨lead, last, hname', hlast, -, hlead⟩ := hname.pieces base
  rw [hname', ← List.append_assoc] at hpieces
  rcases hlead with ⟨rfl, heq⟩ | ⟨rfl, heq⟩
  · rw [heq, and_self]
    rw [List.append_nil] at hpieces
    rcases hcases with hbase | ⟨rfl, rfl⟩
    · exact hbase
    · have hmade : (parentMade (Path.join "" name) fs).2 = fs := by
        have hplain : name = last := by
          rw [← Path.intercalate_pieces name, hname', List.nil_append,
            String.intercalate_singleton]
        rw [Path.join_empty, hplain]
        exact parentMade_of_plain hlast
      obtain ⟨directory, hdirectory, hentry⟩ :=
        OutputFolder.directory_of_stored hpieces hmade h
      obtain rfl := Except.ok.inj (hbefore.symm.trans hdirectory)
      exact hentry
  · have hmade : (parentMade (Path.join dir name) fs).2 = fs := by
      rw [List.append_assoc] at hpieces
      exact parentMade_of_up hpieces hlast hbefore (hcases.imp_right And.left)
    obtain ⟨directory, hdirectory, hentry⟩ :=
      OutputFolder.directory_of_stored hpieces hmade h
    obtain ⟨between, hbetween, hup⟩ := foldlM_follow_append.mp hdirectory
    obtain rfl := Except.ok.inj (hbefore.symm.trans hbetween)
    obtain ⟨hbase, hup⟩ := foldlM_follow_cons.mp hup
    obtain rfl : base.dropLast = directory := Except.ok.inj hup
    rw [heq]
    exact ⟨hbase, hentry⟩

/-! ## The places of stored modules -/

/-- The directories of modules that have been stored are there. -/
theorem Based.directories_of_treatedAll {modules : List (String × String)}
    {results : List Treatment} (hbased : Based fs dir base)
    (hnames : ∀ m ∈ modules, ModuleName m.1)
    (h : treatedAll dir .write modules fs = (.ok (), results, fs')) :
    ∀ m ∈ modules, fs.entryAt? base = some .directory ∧
      fs.entryAt? (home base m.1) = some .directory := by
  induction modules generalizing fs results with
  | nil => simp
  | cons m modules ih =>
    have hname := hnames m (List.mem_cons_self ..)
    obtain ⟨t, files, rest, hstored, hrest, -⟩ := treatedAll_cons_eq_ok.mp h
    obtain ⟨hbase, hhome⟩ := hbased.directory_of_stored hname hstored
    have hplaced := hbased.placed hname hbase hhome
    obtain ⟨hdir, -, rfl⟩ := (stored_eq_ok hplaced).mp hstored
    have hput := sameBut_put (isModuleLocation_place base hname) hplaced.ne_nil hdir m.2.toUTF8
    intro n hn
    rcases List.mem_cons.mp hn with rfl | hn
    · exact ⟨hbase, hhome⟩
    · rw [← hput.directory_iff, ← hput.directory_iff]
      exact ih (hbased.mono hput) (fun n hn => hnames n (List.mem_cons_of_mem _ hn)) hrest n hn

/-- Modules of a run that have been stored have places, no two the same. -/
theorem Based.places_of_treatedAll {modules : List (String × String)} {results : List Treatment}
    (hbased : Based fs dir base) (hnames : ∀ m ∈ modules, ModuleName m.1)
    (hnodup : (modules.map Prod.fst).Nodup)
    (h : treatedAll dir .write modules fs = (.ok (), results, fs')) :
    Places isModuleLocation dir (place base) modules fs := by
  have hdirectories := hbased.directories_of_treatedAll hnames h
  refine ⟨fun m hm => ?_, fun m hm => isModuleLocation_place base (hnames m hm), ?_⟩
  · obtain ⟨hbase, hhome⟩ := hdirectories m hm
    exact hbased.placed (hnames m hm) hbase hhome
  · refine List.Nodup.map_on (f := fun m => place base m.1) (fun m hm n hn heq => ?_)
      (List.Nodup.of_map _ hnodup)
    have hname := place_inj (hnames m hm) (hnames n hn) heq
    exact List.inj_on_of_nodup_map hnodup hm hn hname

end OutputFolder

end SchemaGen
