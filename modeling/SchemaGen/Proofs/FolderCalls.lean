import SchemaGen.Proofs.FolderGrowth

/-!
# What a folder tells about its calls

Modules are put into a folder by calls that follow each other, and between two of them anything may
happen to the files.  A call that fails adds no result and leaves all files as they were; one that
succeeds adds one result, and what this result tells is what has happened to the files, or, when
they are compared, what the call has found there.  So in the end the results tell the story of all
calls.

* `OutputFolder.Request`, `OutputFolder.Call`, `OutputFolder.calls`: calls one after the other.
* `OutputFolder.compared_iff`: what comparing a module tells about its file.
* `OutputFolder.Call.Truthful`, `OutputFolder.truthful_call`: what is true of every call.
* `OutputFolder.results_calls`: the results after all calls.
* `OutputFolder.tells_truth`: both, and the files that were found to differ.
-/

namespace SchemaGen

namespace FileSystem

variable {fs : FileSystem} {path : String}

/-- A text is read iff the file holds its bytes. -/
theorem readText_eq_ok_iff_read {text : String} :
    fs.readText path = .ok text ↔ fs.read path = .ok text.toUTF8 := by
  rw [readText_eq_ok, read_eq_ok]
  constructor
  · rintro ⟨bytes, hstat, hbytes⟩
    rw [← fromUTF8?_eq_some.mp hbytes]
    exact stat_eq_ok.mp hstat
  · intro hfile
    exact ⟨_, stat_eq_ok.mpr hfile, fromUTF8?_toUTF8 text⟩

theorem exists_of_read {bytes : ByteArray} (h : fs.read path = .ok bytes) :
    fs.exists path = true :=
  exists_iff.mpr ⟨_, stat_eq_ok.mpr (read_eq_ok.mp h)⟩

end FileSystem

open FileSystem

namespace OutputFolder

/-! ## Calls -/

/-- A module that is to be put into a folder, after something has happened to the files. -/
structure Request where
  /-- The name of the module. -/
  name : String
  /-- Its text. -/
  content : String
  /-- What happens to the files before. -/
  meanwhile : FileSystem → FileSystem

/-- A module that was put into a folder, or could not be. -/
structure Call where
  /-- The name of the module. -/
  name : String
  /-- Its text. -/
  content : String
  /-- The folder that the call has found. -/
  found : OutputFolder
  /-- The files that it has found. -/
  foundFiles : FileSystem
  /-- What came of it. -/
  result : Except WriteError Treatment
  /-- The folder that it has left. -/
  left : OutputFolder
  /-- The files that it has left. -/
  leftFiles : FileSystem

/-- The path of the module. -/
def Call.path (c : Call) : String :=
  Path.join c.found.dir c.name

/-- The call has found nothing at its path, or another text. -/
def Call.differs (c : Call) : Bool :=
  !c.foundFiles.exists c.path ||
    match c.foundFiles.readText c.path with
    | .ok text => text ≠ c.content
    | .error _ => false

/-- The call for a request, and the session that it leaves. -/
def call (request : Request) (folder : OutputFolder) (s : Session) : Call × Session :=
  let files := request.meanwhile s.files
  let ((result, left), s') :=
    ((put request.name request.content).run.run folder).run { s with files }
  (⟨request.name, request.content, folder, files, result, left, s'.files⟩, s')

/-- Calls for requests, one after the other, and the folder that they leave.  After a call that
fails the others are made all the same. -/
def calls : List Request → OutputFolder → Session → List Call × OutputFolder
  | [], folder, _ => ([], folder)
  | request :: requests, folder, s =>
    let (c, s') := call request folder s
    let (rest, last) := calls requests c.left s'
    (c :: rest, last)

/-- A call treats its module as the mode of the folder says, and keeps the result if there is
one. -/
theorem call_fst (request : Request) (folder : OutputFolder) (s : Session) :
    (call request folder s).1 =
      { name := request.name
        content := request.content
        found := folder
        foundFiles := request.meanwhile s.files
        result := (treated (Path.join folder.dir request.name) request.content folder.mode
          (request.meanwhile s.files)).1
        left := { folder with
          results := folder.results ++
            (treated (Path.join folder.dir request.name) request.content folder.mode
              (request.meanwhile s.files)).1.toOption.toList }
        leftFiles := (treated (Path.join folder.dir request.name) request.content folder.mode
          (request.meanwhile s.files)).2 } := by
  obtain ⟨more, hput⟩ :=
    ends_put request.name request.content folder (request.meanwhile s.files) s.events
  unfold call
  simp only [hput]
  rcases treated (Path.join folder.dir request.name) request.content folder.mode
    (request.meanwhile s.files) with ⟨e | t, files⟩
  · simp [Except.toOption]
  · simp [Except.toOption]

/-! ## Comparing -/

variable {fs fs' : FileSystem} {path content : String}

/-- What comparing a module tells about the file at its path. -/
theorem compared_iff (path content : String) (fs : FileSystem) :
    (compared path content fs = .ok (.stale path .missing) ↔ fs.exists path = false) ∧
    (compared path content fs = .ok (.unchanged path) ↔ fs.read path = .ok content.toUTF8) ∧
    (compared path content fs = .ok (.stale path .outdated) ↔
      ∃ text : String, text ≠ content ∧ fs.read path = .ok text.toUTF8) ∧
    ((∃ e, compared path content fs = .error (.notRead path e)) ↔
      fs.exists path = true ∧ ∀ text : String, fs.read path ≠ .ok text.toUTF8) := by
  simp only [ne_eq, ← readText_eq_ok_iff_read]
  unfold compared
  cases hexists : fs.exists path with
  | false =>
    have hnone : ∀ text, fs.readText path ≠ .ok text := by
      intro text htext
      have hthere := exists_of_read (readText_eq_ok_iff_read.mp htext)
      rw [hexists] at hthere
      exact Bool.false_ne_true hthere
    simp [hnone]
  | true =>
    cases fs.readText path with
    | error e => simp
    | ok text =>
      by_cases heq : text = content
      · simp [heq]
      · simp [heq]

/-! ## Single calls -/

/-- What a call tells is what has happened. -/
structure Call.Truthful (c : Call) : Prop where
  /-- A call that fails adds no result, and all files stay what they were. -/
  failed : ∀ e, c.result = .error e →
    c.left.results = c.found.results ∧
      ∀ l bytes, c.leftFiles.entryAt? l = some (.file bytes) ↔
        c.foundFiles.entryAt? l = some (.file bytes)
  /-- Any other adds one result, which has the path of the module. -/
  succeeded : ∀ t, c.result = .ok t →
    c.left.results = c.found.results ++ [t] ∧ t.path = c.path
  /-- A module that was stored is in its file, and all other files stay what they were. -/
  stored : c.found.mode = .write → ∀ t, c.result = .ok t →
    t = .written c.path c.content.utf8ByteSize ∧
      ∃ place, c.leftFiles.locate c.path = .ok place ∧
        c.leftFiles.read c.path = .ok c.content.toUTF8 ∧
        ∀ l bytes, l ≠ place → (c.leftFiles.entryAt? l = some (.file bytes) ↔
          c.foundFiles.entryAt? l = some (.file bytes))
  /-- A module is always shown, and nothing happens to the files. -/
  previewed : c.found.mode = .dryRun →
    c.result = .ok (.previewed c.path c.content) ∧ c.leftFiles = c.foundFiles
  /-- A module is compared with what its path leads to, and nothing happens to the files. -/
  compared : c.found.mode = .check →
    c.leftFiles = c.foundFiles ∧
      (c.result = .ok (.stale c.path .missing) ↔ c.foundFiles.exists c.path = false) ∧
      (c.result = .ok (.unchanged c.path) ↔ c.foundFiles.read c.path = .ok c.content.toUTF8) ∧
      (c.result = .ok (.stale c.path .outdated) ↔
        ∃ text : String, text ≠ c.content ∧ c.foundFiles.read c.path = .ok text.toUTF8) ∧
      ((∃ e, c.result = .error (.notRead c.path e)) ↔
        c.foundFiles.exists c.path = true ∧
          ∀ text : String, c.foundFiles.read c.path ≠ .ok text.toUTF8)

/-- A module that is not stored leaves all files what they were. -/
theorem file_iff_of_stored_error {e : WriteError} (h : stored path content fs = (.error e, fs'))
    (l : Location) (bytes : ByteArray) :
    fs'.entryAt? l = some (.file bytes) ↔ fs.entryAt? l = some (.file bytes) := by
  rw [of_stored_eq_error h]
  exact (grown_parentMade path fs).file_iff

theorem file_iff_of_treated_error {mode : Mode} {e : WriteError}
    (h : treated path content mode fs = (.error e, fs')) (l : Location) (bytes : ByteArray) :
    fs'.entryAt? l = some (.file bytes) ↔ fs.entryAt? l = some (.file bytes) := by
  cases mode with
  | write => exact file_iff_of_stored_error h l bytes
  | dryRun => simp [treated] at h
  | check =>
    obtain ⟨-, rfl⟩ := Prod.mk.inj h
    exact Iff.rfl

/-- A module that is stored is in its file, and all other files stay what they were. -/
theorem exists_place_of_stored {t : Treatment} (h : stored path content fs = (.ok t, fs')) :
    t = .written path content.utf8ByteSize ∧
      ∃ place, fs'.locate path = .ok place ∧ fs'.read path = .ok content.toUTF8 ∧
        ∀ l bytes, l ≠ place → (fs'.entryAt? l = some (.file bytes) ↔
          fs.entryAt? l = some (.file bytes)) := by
  obtain ⟨ht, made, place, hgrown, hplaced, hdir, rfl⟩ := exists_made_of_stored h
  have hput := sameBut_put (p := fun _ => true) rfl hplaced.ne_nil hdir content.toUTF8
  have hlocate := hput.locate_iff.mpr hplaced.locate
  refine ⟨ht, place, hlocate, read_eq_ok.mpr ⟨place, hlocate, ?_⟩, ?_⟩
  · rw [entryAt?_put hplaced.ne_nil, if_pos rfl]
  · intro l bytes hl
    rw [entryAt?_put hplaced.ne_nil, if_neg hl]
    exact hgrown.file_iff

/-- What a call tells is what has happened, whatever it has found. -/
theorem truthful_call (request : Request) (folder : OutputFolder) (s : Session) :
    (call request folder s).1.Truthful := by
  have hcall := call_fst request folder s
  rcases htreated : treated (Path.join folder.dir request.name) request.content folder.mode
    (request.meanwhile s.files) with ⟨result, files⟩
  rw [htreated] at hcall
  rw [hcall]
  refine ⟨?_, ?_, ?_, ?_, ?_⟩
  · intro e he
    obtain rfl : result = .error e := he
    exact ⟨List.append_nil _, file_iff_of_treated_error htreated⟩
  · intro t ht
    obtain rfl : result = .ok t := ht
    exact ⟨rfl, path_of_treated htreated⟩
  · intro hmode t ht
    obtain rfl : result = .ok t := ht
    obtain hmode : folder.mode = .write := hmode
    rw [hmode] at htreated
    exact exists_place_of_stored htreated
  · intro hmode
    obtain hmode : folder.mode = .dryRun := hmode
    rw [hmode] at htreated
    obtain ⟨rfl, rfl⟩ := Prod.mk.inj htreated
    exact ⟨rfl, rfl⟩
  · intro hmode
    obtain hmode : folder.mode = .check := hmode
    rw [hmode] at htreated
    obtain ⟨rfl, rfl⟩ := Prod.mk.inj htreated
    exact ⟨rfl, compared_iff _ _ _⟩

theorem left_call (request : Request) (folder : OutputFolder) (s : Session) :
    (call request folder s).1.left.dir = folder.dir ∧
      (call request folder s).1.left.mode = folder.mode := by
  rw [call_fst]
  exact ⟨rfl, rfl⟩

/-! ## All calls -/

variable {requests : List Request} {folder : OutputFolder} {s : Session}

theorem calls_cons (request : Request) (requests : List Request) (folder : OutputFolder)
    (s : Session) :
    calls (request :: requests) folder s =
      ((call request folder s).1 ::
          (calls requests (call request folder s).1.left (call request folder s).2).1,
        (calls requests (call request folder s).1.left (call request folder s).2).2) :=
  rfl

/-- Each call is one for a request, into the same folder in the same mode. -/
theorem forall_mem_calls {p : Call → Prop}
    (hcall : ∀ request other s, other.dir = folder.dir → other.mode = folder.mode →
      p (call request other s).1) :
    ∀ c ∈ (calls requests folder s).1, p c := by
  -- The folder of a later call has other results, but its path and its mode are those of the first.
  suffices hall : ∀ other : OutputFolder, other.dir = folder.dir → other.mode = folder.mode →
      ∀ s, ∀ c ∈ (calls requests other s).1, p c from hall folder rfl rfl s
  induction requests with
  | nil =>
    intro other _ _ s c hc
    exact absurd hc List.not_mem_nil
  | cons request requests ih =>
    intro other hdir hmode s c hc
    rw [calls_cons] at hc
    rcases List.mem_cons.mp hc with rfl | hc
    · exact hcall request other s hdir hmode
    · obtain ⟨hdir', hmode'⟩ := left_call request other s
      exact ih _ (hdir'.trans hdir) (hmode'.trans hmode) _ c hc

/-- There is one call for each request. -/
theorem map_calls (requests : List Request) (folder : OutputFolder) (s : Session) :
    (calls requests folder s).1.map (fun c => (c.name, c.content)) =
      requests.map (fun request => (request.name, request.content)) := by
  induction requests generalizing folder s with
  | nil => rfl
  | cons request requests ih =>
    rw [calls_cons, List.map_cons, List.map_cons, ih]
    rfl

/-- The results of all calls that have succeeded are added in their order. -/
theorem results_calls (requests : List Request) (folder : OutputFolder) (s : Session) :
    (calls requests folder s).2.results =
      folder.results ++ (calls requests folder s).1.filterMap (fun c => c.result.toOption) := by
  induction requests generalizing folder s with
  | nil => exact (List.append_nil _).symm
  | cons request requests ih =>
    have hleft : (call request folder s).1.left.results =
        folder.results ++ (call request folder s).1.result.toOption.toList := by
      rw [call_fst]
    rw [calls_cons, ih, hleft, List.append_assoc, List.filterMap_cons]
    cases (call request folder s).1.result.toOption with
    | none => rfl
    | some t => rfl

/-! ## Files that differ -/

variable {c : Call}

theorem Call.differs_iff :
    c.differs = true ↔ c.foundFiles.exists c.path = false ∨
      ∃ text : String, text ≠ c.content ∧ c.foundFiles.read c.path = .ok text.toUTF8 := by
  simp only [← readText_eq_ok_iff_read]
  unfold Call.differs
  cases c.foundFiles.readText c.path with
  | error e => simp
  | ok text => simp [and_comm]

/-- Where modules are compared, a result is stale iff its call has found a difference. -/
theorem Call.Truthful.stale_iff (h : c.Truthful) (hmode : c.found.mode = .check) :
    ((c.result.toOption.filter Treatment.isStale).map Treatment.path) =
      if c.differs then some c.path else none := by
  obtain ⟨-, hmissing, hunchanged, houtdated, hunread⟩ := h.compared hmode
  by_cases hdiffers : c.differs = true
  · rw [if_pos hdiffers]
    rcases Call.differs_iff.mp hdiffers with hnone | hother
    · rw [hmissing.mpr hnone]
      rfl
    · rw [houtdated.mpr hother]
      rfl
  · rw [if_neg hdiffers]
    rw [Call.differs_iff, not_or, Bool.not_eq_false] at hdiffers
    obtain ⟨hexists, hsame⟩ := hdiffers
    by_cases hread : c.foundFiles.read c.path = .ok c.content.toUTF8
    · rw [hunchanged.mpr hread]
      rfl
    · have hnot : ∀ text : String, c.foundFiles.read c.path ≠ .ok text.toUTF8 := by
        intro text htext
        by_cases heq : text = c.content
        · exact hread (heq ▸ htext)
        · exact hsame ⟨text, heq, htext⟩
      obtain ⟨e, herror⟩ := hunread.mpr ⟨hexists, hnot⟩
      rw [herror]
      rfl

theorem map_path_stale {cs : List Call} (h : ∀ c ∈ cs, c.Truthful ∧ c.found.mode = .check) :
    ((cs.filterMap (fun c => c.result.toOption)).filter Treatment.isStale).map Treatment.path =
      (cs.filter Call.differs).map Call.path := by
  rw [List.filter_filterMap, List.map_filterMap, ← List.filterMap_eq_filter, List.map_filterMap]
  refine List.filterMap_congr fun c hc => ?_
  rw [(h c hc).1.stale_iff (h c hc).2, Option.guard]
  split
  · rfl
  · rfl

/-! ## The story of all calls -/

/-- A folder tells the truth about every call, in every mode and whatever happens to the files
between the calls.  A call that fails adds no result and leaves all files as they were; any other
adds one result, with the path of its module.  A module that was stored is in its file then, and no
other file has changed; a module that is shown or compared changes nothing, and what comparing it
tells is what the path leads to at the time of the call.  So the results are those of the calls
that have succeeded, in their order, and where modules are compared the stale ones among them are
those of the calls that have found a difference. -/
theorem tells_truth (folder : OutputFolder) (s : Session) (requests : List Request) :
    (∀ c ∈ (calls requests folder s).1,
      c.found.dir = folder.dir ∧ c.found.mode = folder.mode ∧ c.Truthful) ∧
    (calls requests folder s).1.map (fun c => (c.name, c.content)) =
      requests.map (fun request => (request.name, request.content)) ∧
    (calls requests folder s).2.results =
      folder.results ++ (calls requests folder s).1.filterMap (fun c => c.result.toOption) ∧
    (folder.mode = .check →
      (calls requests folder s).2.stale.map Treatment.path =
        folder.stale.map Treatment.path ++
          ((calls requests folder s).1.filter Call.differs).map Call.path) := by
  have htruthful : ∀ c ∈ (calls requests folder s).1,
      c.found.dir = folder.dir ∧ c.found.mode = folder.mode ∧ c.Truthful := by
    refine forall_mem_calls fun request other s hdir hmode => ?_
    have htruthful := truthful_call request other s
    rw [call_fst] at htruthful ⊢
    exact ⟨hdir, hmode, htruthful⟩
  refine ⟨htruthful, map_calls requests folder s, results_calls requests folder s, ?_⟩
  intro hmode
  rw [stale, results_calls, List.filter_append, List.map_append]
  refine congrArg (folder.stale.map Treatment.path ++ ·) (map_path_stale fun c hc => ?_)
  obtain ⟨-, hfound, hc⟩ := htruthful c hc
  exact ⟨hc, hfound.trans hmode⟩

/-- A folder that has a module, another one with an older text, and a directory in the place of a
third. -/
def sampleFiles : FileSystem :=
  ⟨[], [(["out"], .directory), (["out", "A.ts"], .file "new".toUTF8),
    (["out", "B.ts"], .file "old".toUTF8), (["out", "C.ts"], .directory)]⟩

/-- Requests for these modules and for one that is missing, with the text that one of them has. -/
def sampleRequests : List Request :=
  ["A.ts", "B.ts", "C.ts", "D.ts"].map fun name => ⟨name, "new", id⟩

theorem tells_truth_sample :
    ∃ c ∈ (calls sampleRequests (new "out" .check) ⟨sampleFiles, []⟩).1,
      c.result = .error (.notRead "out/C.ts" .isADirectory) ∧
      c.left.results = c.found.results ∧ c.found.mode = .check ∧
      (calls sampleRequests (new "out" .check) ⟨sampleFiles, []⟩).2.stale.map Treatment.path =
        ["out/B.ts", "out/D.ts"] := by
  obtain ⟨hcalls, -, -, hstale⟩ := tells_truth (new "out" .check) ⟨sampleFiles, []⟩ sampleRequests
  obtain ⟨c, hc⟩ :
      ∃ c, (calls sampleRequests (new "out" .check) ⟨sampleFiles, []⟩).1[2]? = some c := ⟨_, rfl⟩
  have hmem := List.mem_of_getElem? hc
  have hresult : ((calls sampleRequests (new "out" .check) ⟨sampleFiles, []⟩).1[2]?.map
      Call.result) = some (.error (.notRead "out/C.ts" .isADirectory)) := by
    decide +kernel
  rw [hc] at hresult
  have hresult := Option.some.inj hresult
  obtain ⟨-, hmode, htruthful⟩ := hcalls c hmem
  refine ⟨c, hmem, hresult, (htruthful.failed _ hresult).1, hmode, (hstale rfl).trans ?_⟩
  decide +kernel

end OutputFolder

end SchemaGen
