import Mathlib.Algebra.GroupWithZero.Nat
import SchemaGen.Proofs.RunEffect

/-!
# What a pass does to its sink

A pass knows nothing of its sink but that it takes or refuses a named file.  So a sink is any
state with any function that writes to it, and what a pass does to it can be told by the writes
alone: all files in order, if each is taken, and otherwise those up to the first that is refused.
That file is the last that the sink is called for, and its error is that of the pass.

* `Sink`, `Sink.Accepts`: sinks, and files that a sink takes one after the other.
* `Sink.accepts_or_refuses`: either all files are taken, or one is the first to be refused.
* `Sink.recording`: the sink that keeps the calls that were made to it.
* `Pass.run_of_accepts`, `Pass.run_of_refuses`: a pass with its log in either case.
* `Pass.outcome`: what a pass returns, and what it leaves of the sink.
* `Pass.drives_sink`: the calls, the outcome, and passes over lists that are put together.
-/

namespace SchemaGen

/-- A sink with a state of its own: whether it takes a named file, and what becomes of its state.
A file that it refuses may change the state as well. -/
structure Sink (σ ε : Type) where
  /-- Writes a file. -/
  write : String → String → σ → Except ε Unit × σ

/-- A log of events. -/
abbrev EventLog := StateM (List Event)

instance : MonadReport EventLog :=
  ⟨fun e => modify fun log => log ++ [e]⟩

variable {σ ε : Type}

namespace Sink

/-- Writing to the sink, among computations that also report. -/
def put (sink : Sink σ ε) (name content : String) : ExceptT ε (StateT σ EventLog) Unit :=
  ExceptT.mk fun s log => (sink.write name content s, log)

/-- The sink takes the files one after the other, which brings it from one state to another. -/
inductive Accepts (sink : Sink σ ε) : σ → List (String × String) → σ → Prop
  | nil (s : σ) : Accepts sink s [] s
  | cons {s s₁ s' : σ} {file : String × String} {files : List (String × String)} :
    sink.write file.1 file.2 s = (.ok (), s₁) → Accepts sink s₁ files s' →
      Accepts sink s (file :: files) s'

/-- The sink takes the files before one that it then refuses. -/
def Refuses (sink : Sink σ ε) (s : σ) (before : List (String × String)) (file : String × String)
    (e : ε) (s' : σ) : Prop :=
  ∃ s₁, sink.Accepts s before s₁ ∧ sink.write file.1 file.2 s₁ = (.error e, s')

variable {sink : Sink σ ε} {s s₁ s' : σ} {e : ε} {file : String × String}
  {files before : List (String × String)}

theorem accepts_append {more : List (String × String)} :
    sink.Accepts s (files ++ more) s' ↔
      ∃ s₁, sink.Accepts s files s₁ ∧ sink.Accepts s₁ more s' := by
  constructor
  · intro h
    induction files generalizing s with
    | nil => exact ⟨s, .nil s, h⟩
    | cons file files ih =>
      cases h with
      | cons hwrite hrest =>
        obtain ⟨s₂, hfiles, hmore⟩ := ih hrest
        exact ⟨s₂, .cons hwrite hfiles, hmore⟩
  · rintro ⟨s₁, hfiles, hmore⟩
    induction hfiles with
    | nil s => exact hmore
    | cons hwrite _ ih => exact .cons hwrite (ih hmore)

/-- Either all files are taken, or one is the first to be refused. -/
theorem accepts_or_refuses (sink : Sink σ ε) (s : σ) (files : List (String × String)) :
    (∃ s', sink.Accepts s files s') ∨
      ∃ before file after e s', files = before ++ file :: after ∧
        sink.Refuses s before file e s' := by
  induction files generalizing s with
  | nil => exact .inl ⟨s, .nil s⟩
  | cons file files ih =>
    rcases hwrite : sink.write file.1 file.2 s with ⟨e | _, s₁⟩
    · exact .inr ⟨[], file, files, e, s₁, rfl, ⟨s, .nil s, hwrite⟩⟩
    · rcases ih s₁ with ⟨s', hfiles⟩ | ⟨before, other, after, e, s', rfl, hrefuses⟩
      · exact .inl ⟨s', .cons hwrite hfiles⟩
      · obtain ⟨s₂, hbefore, herror⟩ := hrefuses
        exact .inr ⟨file :: before, other, after, e, s', rfl, ⟨s₂, .cons hwrite hbefore, herror⟩⟩

/-! ## Calls -/

/-- The sink that also keeps the calls that were made to it, with the one that failed. -/
def recording (sink : Sink σ ε) : Sink (σ × List (String × String)) ε where
  write name content state :=
    ((sink.write name content state.1).1,
      (sink.write name content state.1).2, state.2 ++ [(name, content)])

theorem Accepts.recording (h : sink.Accepts s files s') (calls : List (String × String)) :
    sink.recording.Accepts (s, calls) files (s', calls ++ files) := by
  induction h generalizing calls with
  | nil s =>
    rw [List.append_nil]
    exact .nil _
  | @cons s s₁ s' file files hwrite _ ih =>
    have hcall : sink.recording.write file.1 file.2 (s, calls) =
        (.ok (), (s₁, calls ++ [file])) := by
      simp only [Sink.recording, hwrite]
    have hrest := ih (calls ++ [file])
    rw [List.append_assoc, List.singleton_append] at hrest
    exact .cons hcall hrest

theorem Refuses.recording (h : sink.Refuses s before file e s')
    (calls : List (String × String)) :
    sink.recording.Refuses (s, calls) before file e (s', calls ++ before ++ [file]) := by
  obtain ⟨s₁, hbefore, hwrite⟩ := h
  refine ⟨(s₁, calls ++ before), hbefore.recording calls, ?_⟩
  simp only [Sink.recording, hwrite]

end Sink

/-! ## Passes -/

namespace Pass

open Run

variable {sink : Sink σ ε} {options : Options} {s s' : σ}

/-- Reporting leaves the sink alone. -/
theorem run_forM_report (events : List Event) (s : σ) (log : List Event) :
    (((events.forM report : ExceptT ε (StateT σ EventLog) PUnit).run).run s).run log =
      ((.ok (), s), log ++ events) := by
  induction events generalizing log with
  | nil =>
    rw [List.append_nil]
    rfl
  | cons event events ih =>
    have hrest := ih (log ++ [event])
    rw [List.append_assoc, List.singleton_append] at hrest
    exact hrest

/-- What is reported about a data transfer object whose file is taken. -/
def takenEvents (options : Options) (dto : Dto) : List Event :=
  (Document.ofDto options dto).events ++
    [.documentStored dto.name (moduleOf options dto).1]

/-- A step whose file is taken. -/
theorem run_step_ok {dto : Dto}
    (h : sink.write (moduleOf options dto).1 (moduleOf options dto).2 s = (.ok (), s'))
    (done : PassReport) (log : List Event) :
    ((step sink.put options done dto).run.run s).run log =
      ((.ok ⟨done.files ++ [(moduleOf options dto).1],
          done.skippedFields + (Document.ofDto options dto).skipped.length⟩, s'),
        log ++ takenEvents options dto) := by
  obtain ⟨doc, hdoc⟩ : ∃ doc, doc = Document.ofDto options dto := ⟨_, rfl⟩
  have hput : ∀ log, ((sink.put doc.fileName doc.content).run.run s).run log =
      ((.ok (), s'), log) := by
    intro log
    rw [hdoc]
    exact congrArg (·, log) h
  have hreport : ∀ log, ((report (.documentStored doc.dto doc.fileName) :
      ExceptT ε (StateT σ EventLog) Unit).run.run s').run log =
        ((.ok (), s'), log ++ [.documentStored doc.dto doc.fileName]) := fun _ => rfl
  unfold step
  simp only [← hdoc, run_bind_states, run_forM_report, hput, hreport]
  rw [hdoc, takenEvents, ← List.append_assoc]
  rfl

/-- A step whose file is refused. -/
theorem run_step_error {dto : Dto} {e : ε}
    (h : sink.write (moduleOf options dto).1 (moduleOf options dto).2 s = (.error e, s'))
    (done : PassReport) (log : List Event) :
    ((step sink.put options done dto).run.run s).run log =
      ((.error e, s'), log ++ (Document.ofDto options dto).events) := by
  have hput : ((sink.put (Document.ofDto options dto).fileName
      (Document.ofDto options dto).content).run.run s).run
        (log ++ (Document.ofDto options dto).events) =
      ((.error e, s'), log ++ (Document.ofDto options dto).events) :=
    congrArg (·, log ++ (Document.ofDto options dto).events) h
  unfold step
  simp only [run_bind_states, run_forM_report, hput]

/-- Steps whose files are all taken. -/
theorem run_steps_of_accepts {dtos : List Dto}
    (h : sink.Accepts s (dtos.map (moduleOf options)) s') (done : PassReport) (log : List Event) :
    ((dtos.foldlM (step sink.put options) done).run.run s).run log =
      ((.ok ⟨done.files ++ (reportOf options dtos).files,
          done.skippedFields + (reportOf options dtos).skippedFields⟩, s'),
        log ++ dtos.flatMap (takenEvents options)) := by
  induction dtos generalizing s done log with
  | nil =>
    cases h with
    | nil => simp [reportOf]; rfl
  | cons dto dtos ih =>
    cases h with
    | cons hwrite hrest =>
      rw [List.foldlM_cons, run_bind_states, run_step_ok hwrite]
      simp only [ih hrest]
      simp [reportOf, moduleOf, Nat.add_assoc]

/-- A pass whose files are all taken. -/
theorem run_of_accepts {dtos : List Dto}
    (h : sink.Accepts s (dtos.map (moduleOf options)) s') (log : List Event) :
    ((run sink.put options dtos).run.run s).run log =
      ((.ok (reportOf options dtos), s'),
        log ++ dtos.flatMap (takenEvents options) ++
          [.passCompleted dtos.length (reportOf options dtos).skippedFields]) := by
  have hsteps := run_steps_of_accepts h ⟨[], 0⟩ log
  have hfiles : (reportOf options dtos).files.length = dtos.length := List.length_map ..
  unfold run
  rw [run_bind_states, hsteps]
  simp only [List.nil_append, Nat.zero_add, run_bind_states, hfiles]
  rfl

/-- A pass with a file that is refused, after others that are taken. -/
theorem run_of_refuses {before after : List Dto} {dto : Dto} {e : ε}
    (h : sink.Refuses s (before.map (moduleOf options)) (moduleOf options dto) e s')
    (log : List Event) :
    ((run sink.put options (before ++ dto :: after)).run.run s).run log =
      ((.error e, s'),
        log ++ before.flatMap (takenEvents options) ++ (Document.ofDto options dto).events) := by
  obtain ⟨s₁, hbefore, hwrite⟩ := h
  have hsteps := run_steps_of_accepts hbefore ⟨[], 0⟩ log
  unfold run
  rw [run_bind_states, List.foldlM_append, run_bind_states, hsteps]
  simp only [List.foldlM_cons, run_bind_states, run_step_error hwrite]

/-- What a pass returns, and what it leaves of the state of its sink. -/
def outcome (sink : Sink σ ε) (options : Options) (dtos : List Dto) (s : σ) :
    Except ε PassReport × σ :=
  (((run sink.put options dtos).run.run s).run []).1

/-- Either all files are taken, or one is the first to be refused. -/
theorem accepts_or_refuses (sink : Sink σ ε) (options : Options) (dtos : List Dto) (s : σ) :
    (∃ s', sink.Accepts s (dtos.map (moduleOf options)) s') ∨
      ∃ before dto after e s', dtos = before ++ dto :: after ∧
        sink.Refuses s (before.map (moduleOf options)) (moduleOf options dto) e s' := by
  rcases sink.accepts_or_refuses s (dtos.map (moduleOf options)) with haccepts |
    ⟨before, file, after, e, s', hfiles, hrefuses⟩
  · exact .inl haccepts
  · obtain ⟨before', rest, rfl, rfl, hrest⟩ := List.map_eq_append_iff.mp hfiles
    obtain ⟨dto, after', rfl, rfl, rfl⟩ := List.map_eq_cons_iff.mp hrest
    exact .inr ⟨before', dto, after', e, s', rfl, hrefuses⟩

theorem outcome_of_accepts {dtos : List Dto}
    (h : sink.Accepts s (dtos.map (moduleOf options)) s') :
    outcome sink options dtos s = (.ok (reportOf options dtos), s') := by
  rw [outcome, run_of_accepts h]

theorem outcome_of_refuses {before after : List Dto} {dto : Dto} {e : ε}
    (h : sink.Refuses s (before.map (moduleOf options)) (moduleOf options dto) e s') :
    outcome sink options (before ++ dto :: after) s = (.error e, s') := by
  rw [outcome, run_of_refuses h]

/-- A pass over two lists is a pass over the first and then, unless it has failed, one over the
second. -/
theorem outcome_append (sink : Sink σ ε) (options : Options) (xs ys : List Dto) (s : σ) :
    outcome sink options (xs ++ ys) s =
      match outcome sink options xs s with
      | (.error e, s₁) => (.error e, s₁)
      | (.ok first, s₁) =>
        match outcome sink options ys s₁ with
        | (.error e, s₂) => (.error e, s₂)
        | (.ok second, s₂) =>
          (.ok ⟨first.files ++ second.files, first.skippedFields + second.skippedFields⟩, s₂) := by
  rcases accepts_or_refuses sink options xs s with ⟨s₁, hxs⟩ |
    ⟨before, dto, after, e, s₁, rfl, hrefuses⟩
  · rw [outcome_of_accepts hxs]
    rcases accepts_or_refuses sink options ys s₁ with ⟨s₂, hys⟩ |
      ⟨before, dto, after, e, s₂, rfl, s₃, hbefore, hwrite⟩
    · have hboth : sink.Accepts s ((xs ++ ys).map (moduleOf options)) s₂ := by
        rw [List.map_append]
        exact Sink.accepts_append.mpr ⟨s₁, hxs, hys⟩
      have hreport : reportOf options (xs ++ ys) =
          ⟨(reportOf options xs).files ++ (reportOf options ys).files,
            (reportOf options xs).skippedFields + (reportOf options ys).skippedFields⟩ := by
        simp [reportOf]
      rw [outcome_of_accepts hboth, hreport]
      simp only [outcome_of_accepts hys]
    · have hearlier : sink.Accepts s ((xs ++ before).map (moduleOf options)) s₃ := by
        rw [List.map_append]
        exact Sink.accepts_append.mpr ⟨s₁, hxs, hbefore⟩
      rw [← List.append_assoc, outcome_of_refuses ⟨s₃, hearlier, hwrite⟩]
      simp only [outcome_of_refuses ⟨s₃, hbefore, hwrite⟩]
  · rw [List.append_assoc, List.cons_append, outcome_of_refuses hrefuses,
      outcome_of_refuses hrefuses]

/-- A pass calls its sink once for each data transfer object, in order, until a file is refused.
Either the sink takes the files of all objects: then these are the calls, and the report has the
names of the files in order and the number of all fields that were left out.  Or it takes those
before some object and refuses the file of that one: then the calls end with it, and the pass
returns its error.  So a pass over two lists is a pass over the first and, unless it has failed,
one over the second. -/
theorem drives_sink (sink : Sink σ ε) (options : Options) :
    (∀ dtos s,
      (∃ s', sink.Accepts s (dtos.map (moduleOf options)) s' ∧
        outcome sink options dtos s =
          (.ok ⟨dtos.map fun dto => (Document.ofDto options dto).fileName,
            (dtos.map fun dto => (Document.ofDto options dto).skipped.length).sum⟩, s') ∧
        outcome sink.recording options dtos (s, []) =
          ((outcome sink options dtos s).1, (s', dtos.map (moduleOf options)))) ∨
      ∃ before dto after s₁ e s', dtos = before ++ dto :: after ∧
        sink.Accepts s (before.map (moduleOf options)) s₁ ∧
        sink.write (moduleOf options dto).1 (moduleOf options dto).2 s₁ = (.error e, s') ∧
        outcome sink options dtos s = (.error e, s') ∧
        outcome sink.recording options dtos (s, []) =
          ((outcome sink options dtos s).1, (s', (before ++ [dto]).map (moduleOf options)))) ∧
    ∀ xs ys s, outcome sink options (xs ++ ys) s =
      match outcome sink options xs s with
      | (.error e, s₁) => (.error e, s₁)
      | (.ok first, s₁) =>
        match outcome sink options ys s₁ with
        | (.error e, s₂) => (.error e, s₂)
        | (.ok second, s₂) =>
          (.ok ⟨first.files ++ second.files, first.skippedFields + second.skippedFields⟩, s₂) := by
  refine ⟨fun dtos s => ?_, outcome_append sink options⟩
  rcases accepts_or_refuses sink options dtos s with ⟨s', haccepts⟩ |
    ⟨before, dto, after, e, s', rfl, hrefuses⟩
  · left
    have hreport : reportOf options dtos =
        ⟨dtos.map fun dto => (Document.ofDto options dto).fileName,
          (dtos.map fun dto => (Document.ofDto options dto).skipped.length).sum⟩ := by
      rw [reportOf, List.length_flatMap]
    have hrecorded := outcome_of_accepts (haccepts.recording [])
    rw [List.nil_append] at hrecorded
    refine ⟨s', haccepts, ?_, ?_⟩
    · rw [outcome_of_accepts haccepts, hreport]
    · rw [hrecorded, outcome_of_accepts haccepts]
  · right
    have hcalls : (before ++ [dto]).map (moduleOf options) =
        before.map (moduleOf options) ++ [moduleOf options dto] := List.map_append
    have hrefused : outcome sink options (before ++ dto :: after) s = (.error e, s') :=
      outcome_of_refuses hrefuses
    have hrecorded : outcome sink.recording options (before ++ dto :: after) (s, []) =
        (.error e, (s', (before ++ [dto]).map (moduleOf options))) := by
      rw [hcalls]
      exact outcome_of_refuses (hrefuses.recording [])
    obtain ⟨s₁, hbefore, hwrite⟩ := hrefuses
    refine ⟨before, dto, after, s₁, e, s', rfl, hbefore, hwrite, hrefused, ?_⟩
    rw [hrecorded, hrefused]

end Pass

end SchemaGen
