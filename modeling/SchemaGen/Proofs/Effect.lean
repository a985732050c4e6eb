import SchemaGen.OutputFolder

/-!
# What a computation does to the files

A job reads and changes the file system, and reports events on the way.  What it does to the
files never depends on what has been reported, and of the events only that they are added at the
end of the log matters to what follows.  So a job is described by its *ending*: the result and
the files that it leaves, as a function of the files that it finds.

* `Job.Ends`: the ending of a job, with a rule for each way to build one.
* `Job.Ends.of_run`: a single observed run tells the ending.
* `Storing.Ends`: the same for computations that put modules into a folder, whose ending also has
  the folder.
-/

namespace SchemaGen

variable {ε ε' α β : Type}

namespace Job

/-- Started on the files `fs`, after whatever reports, the job has this result and leaves these
files. -/
def Ends (job : Job ε α) (fs : FileSystem) (ending : Except ε α × FileSystem) : Prop :=
  ∀ events, ∃ more, job.run.run ⟨fs, events⟩ = (ending.1, ⟨ending.2, events ++ more⟩)

/-- Any run of a job whose ending is known has that ending. -/
theorem Ends.of_run {job : Job ε α} {s s' : Session} {r : Except ε α}
    {ending : Except ε α × FileSystem} (h : job.Ends s.files ending)
    (hrun : job.run.run s = (r, s')) : ending = (r, s'.files) := by
  obtain ⟨more, h⟩ := h s.events
  have hpair := h.symm.trans hrun
  rw [Prod.mk.injEq] at hpair
  obtain ⟨hr, hs⟩ := hpair
  rw [← hr, ← hs]

/-- A job whose ending is known runs from every session with these files. -/
theorem Ends.exists_run {job : Job ε α} {s : Session} {ending : Except ε α × FileSystem}
    (h : job.Ends s.files ending) :
    ∃ s', job.run.run s = (ending.1, s') ∧ s'.files = ending.2 := by
  obtain ⟨more, h⟩ := h s.events
  exact ⟨_, h, rfl⟩

/-- A job has one ending on the same files. -/
theorem Ends.unique {job : Job ε α} {fs : FileSystem} {ending ending' : Except ε α × FileSystem}
    (h : job.Ends fs ending) (h' : job.Ends fs ending') : ending = ending' := by
  obtain ⟨s, hrun, hfiles⟩ := h'.exists_run (s := ⟨fs, []⟩)
  rw [h.of_run hrun, hfiles]

/-! ## Rules -/

theorem run_bind (job : Job ε α) (next : α → Job ε β) (s : Session) :
    (job >>= next).run.run s = match job.run.run s with
      | (.ok a, s') => (next a).run.run s'
      | (.error e, s') => (.error e, s') := by
  rw [ExceptT.run_bind, StateT.run_bind]
  rcases job.run.run s with ⟨_ | _, _⟩
  · rfl
  · rfl

theorem ends_pure (a : α) (fs : FileSystem) : (pure a : Job ε α).Ends fs (.ok a, fs) :=
  fun _ => ⟨[], by rw [List.append_nil]; rfl⟩

theorem ends_throw (e : ε) (fs : FileSystem) : (throw e : Job ε α).Ends fs (.error e, fs) :=
  fun _ => ⟨[], by rw [List.append_nil]; rfl⟩

theorem ends_ofExcept (r : Except ε α) (fs : FileSystem) :
    (MonadExcept.ofExcept r : Job ε α).Ends fs (r, fs) := by
  cases r with
  | ok a => exact ends_pure a fs
  | error e => exact ends_throw e fs

theorem ends_report (event : Event) (fs : FileSystem) :
    (report event : Job ε Unit).Ends fs (.ok (), fs) :=
  fun _ => ⟨[event], rfl⟩

theorem ends_inspect (look : FileSystem → α) (fs : FileSystem) :
    (inspect look : Job ε α).Ends fs (.ok (look fs), fs) :=
  fun _ => ⟨[], by rw [List.append_nil]; rfl⟩

theorem ends_setFiles (files fs : FileSystem) :
    (setFiles files : Job ε Unit).Ends fs (.ok (), files) :=
  fun _ => ⟨[], by rw [List.append_nil]; rfl⟩

/-- A job followed by one that depends on its value. -/
theorem Ends.bind {job : Job ε α} {next : α → Job ε β} {fs fs' : FileSystem} {a : α}
    {ending : Except ε β × FileSystem} (h : job.Ends fs (.ok a, fs'))
    (hnext : (next a).Ends fs' ending) : (job >>= next).Ends fs ending := by
  intro events
  obtain ⟨more, h⟩ := h events
  obtain ⟨more', hnext⟩ := hnext (events ++ more)
  exact ⟨more ++ more', by rw [← List.append_assoc, ← hnext, run_bind, h]⟩

/-- A job that fails is not followed by anything. -/
theorem Ends.bind_error {job : Job ε α} {next : α → Job ε β} {fs fs' : FileSystem} {e : ε}
    (h : job.Ends fs (.error e, fs')) : (job >>= next).Ends fs (.error e, fs') := by
  intro events
  obtain ⟨more, h⟩ := h events
  exact ⟨more, by rw [run_bind, h]⟩

theorem Ends.map {job : Job ε α} {fs : FileSystem} {ending : Except ε α × FileSystem} (f : α → β)
    (h : job.Ends fs ending) : Job.Ends (f <$> job) fs (ending.1.map f, ending.2) := by
  rw [← bind_pure_comp]
  obtain ⟨r, files⟩ := ending
  cases r with
  | ok a => exact h.bind (ends_pure (f a) files)
  | error e => exact h.bind_error

/-- A job whose errors are wrapped. -/
theorem Ends.adapt {job : Job ε α} {fs : FileSystem} {ending : Except ε α × FileSystem}
    (wrap : ε → ε') (h : job.Ends fs ending) :
    Job.Ends (ExceptT.adapt wrap job) fs (ending.1.mapError wrap, ending.2) := by
  intro events
  obtain ⟨more, h⟩ := h events
  refine ⟨more, ?_⟩
  have hrun : (ExceptT.run (ExceptT.adapt wrap job)).run ⟨fs, events⟩ =
      ((job.run.run ⟨fs, events⟩).1.mapError wrap, (job.run.run ⟨fs, events⟩).2) := rfl
  rw [hrun, h]

theorem ends_access (wrap : IoError → ε) (look : FileSystem → Except IoError α)
    (fs : FileSystem) : (access wrap look).Ends fs ((look fs).mapError wrap, fs) := by
  intro events
  have hget : (getThe Session : Job ε Session).run.run ⟨fs, events⟩ =
      (.ok ⟨fs, events⟩, ⟨fs, events⟩) := rfl
  rw [access, run_bind, hget]
  cases hlook : look fs with
  | ok a =>
    simp only [hlook]
    exact ends_pure a fs events
  | error e =>
    simp only [hlook]
    exact ends_throw (wrap e) fs events

theorem ends_change (wrap : IoError → ε) (alter : FileSystem → Except IoError FileSystem)
    (fs : FileSystem) :
    (change wrap alter).Ends fs
      (match alter fs with
        | .ok files => (.ok (), files)
        | .error e => (.error (wrap e), fs)) := by
  have h := ends_access wrap alter fs
  unfold change
  cases halter : alter fs with
  | ok files =>
    rw [halter] at h
    exact h.bind (ends_setFiles files fs)
  | error e =>
    rw [halter] at h
    exact h.bind_error

theorem ends_makeDirectories (wrap : IoError → ε) (path : String) (fs : FileSystem) :
    (Job.makeDirectories wrap path).Ends fs
      ((fs.makeDirectories path).1.mapError wrap, (fs.makeDirectories path).2) := by
  have hlook : (inspect fun fs => fs.makeDirectories path : Job ε _).Ends fs _ :=
    ends_inspect (fun fs => fs.makeDirectories path) fs
  unfold Job.makeDirectories
  rcases hmade : fs.makeDirectories path with ⟨r, files⟩
  rw [hmade] at hlook
  refine hlook.bind ((ends_setFiles files fs).bind ?_)
  cases r with
  | ok u => exact ends_pure () files
  | error e => exact ends_throw (wrap e) files

end Job

/-! ## Computations that use a folder -/

/-- A computation on two states that is followed by another. -/
theorem run_bind_states {σ τ : Type} (work : ExceptT ε (StateT σ (StateM τ)) α)
    (next : α → ExceptT ε (StateT σ (StateM τ)) β) (s : σ) (t : τ) :
    ((work >>= next).run.run s).run t = match (work.run.run s).run t with
      | ((.ok a, s'), t') => ((next a).run.run s').run t'
      | ((.error e, s'), t') => ((.error e, s'), t') := by
  rw [ExceptT.run_bind, StateT.run_bind, StateT.run_bind]
  rcases (work.run.run s).run t with ⟨⟨_ | _, _⟩, _⟩
  · rfl
  · rfl

namespace Storing

/-- Started on a folder and on the files `fs`, after whatever reports, the computation has this
result and leaves this folder and these files. -/
def Ends (work : Storing ε α) (folder : OutputFolder) (fs : FileSystem)
    (ending : Except ε α × OutputFolder × FileSystem) : Prop :=
  ∀ events, ∃ more, (work.run.run folder).run ⟨fs, events⟩ =
    ((ending.1, ending.2.1), ⟨ending.2.2, events ++ more⟩)

theorem ends_pure (a : α) (folder : OutputFolder) (fs : FileSystem) :
    (pure a : Storing ε α).Ends folder fs (.ok a, folder, fs) :=
  fun _ => ⟨[], by rw [List.append_nil]; rfl⟩

theorem ends_report (event : Event) (folder : OutputFolder) (fs : FileSystem) :
    (report event : Storing ε Unit).Ends folder fs (.ok (), folder, fs) :=
  fun _ => ⟨[event], rfl⟩

theorem ends_getThe (folder : OutputFolder) (fs : FileSystem) :
    (getThe OutputFolder : Storing ε OutputFolder).Ends folder fs (.ok folder, folder, fs) :=
  fun _ => ⟨[], by rw [List.append_nil]; rfl⟩

theorem ends_modifyThe (alter : OutputFolder → OutputFolder) (folder : OutputFolder)
    (fs : FileSystem) :
    (modifyThe OutputFolder alter : Storing ε Unit).Ends folder fs (.ok (), alter folder, fs) :=
  fun _ => ⟨[], by rw [List.append_nil]; rfl⟩

theorem ends_storing {job : Job ε α} {fs : FileSystem} {ending : Except ε α × FileSystem}
    (h : job.Ends fs ending) (folder : OutputFolder) :
    job.storing.Ends folder fs (ending.1, folder, ending.2) := by
  intro events
  obtain ⟨more, h⟩ := h events
  refine ⟨more, ?_⟩
  have hrun : (job.storing.run.run folder).run ⟨fs, events⟩ =
      (((job.run.run ⟨fs, events⟩).1, folder), (job.run.run ⟨fs, events⟩).2) := rfl
  rw [hrun, h]

theorem Ends.bind {work : Storing ε α} {next : α → Storing ε β} {folder folder' : OutputFolder}
    {fs fs' : FileSystem} {a : α} {ending : Except ε β × OutputFolder × FileSystem}
    (h : work.Ends folder fs (.ok a, folder', fs')) (hnext : (next a).Ends folder' fs' ending) :
    (work >>= next).Ends folder fs ending := by
  intro events
  obtain ⟨more, h⟩ := h events
  obtain ⟨more', hnext⟩ := hnext (events ++ more)
  exact ⟨more ++ more', by rw [← List.append_assoc, ← hnext, run_bind_states, h]⟩

theorem Ends.bind_error {work : Storing ε α} {next : α → Storing ε β}
    {folder folder' : OutputFolder} {fs fs' : FileSystem} {e : ε}
    (h : work.Ends folder fs (.error e, folder', fs')) :
    (work >>= next).Ends folder fs (.error e, folder', fs') := by
  intro events
  obtain ⟨more, h⟩ := h events
  exact ⟨more, by rw [run_bind_states, h]⟩

theorem Ends.map {work : Storing ε α} {folder : OutputFolder} {fs : FileSystem}
    {ending : Except ε α × OutputFolder × FileSystem} (f : α → β)
    (h : work.Ends folder fs ending) : Ends (f <$> work) folder fs (ending.1.map f, ending.2) := by
  rw [← bind_pure_comp]
  obtain ⟨r, folder', files⟩ := ending
  cases r with
  | ok a => exact h.bind (ends_pure (f a) folder' files)
  | error e => exact h.bind_error

/-- Reporting any number of events. -/
theorem ends_forM_report (events : List Event) (folder : OutputFolder) (fs : FileSystem) :
    (events.forM report : Storing ε PUnit).Ends folder fs (.ok (), folder, fs) := by
  induction events with
  | nil => exact ends_pure () folder fs
  | cons event events ih => exact (ends_report event folder fs).bind ih

/-- A computation that uses a folder, as a job. -/
theorem Ends.collect {work : Storing ε α} {folder : OutputFolder} {fs : FileSystem}
    {ending : Except ε α × OutputFolder × FileSystem} (h : work.Ends folder fs ending) :
    (folder.collect work).Ends fs (ending.1.map fun a => (a, ending.2.1), ending.2.2) := by
  intro events
  obtain ⟨more, h⟩ := h events
  refine ⟨more, ?_⟩
  have hrun : (folder.collect work).run.run ⟨fs, events⟩ =
      (((work.run.run folder).run ⟨fs, events⟩).1.1.map fun a =>
          (a, ((work.run.run folder).run ⟨fs, events⟩).1.2),
        ((work.run.run folder).run ⟨fs, events⟩).2) := rfl
  rw [hrun, h]

end Storing

end SchemaGen
