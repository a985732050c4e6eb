import SchemaGen.Proofs.MappedFields
import SchemaGen.Proofs.SinkPasses

/-!
# The log of a pass

A pass reports each field that it leaves out, each document, each file that the sink has taken,
and at the end its report.  A sink may report as well while it writes, which goes to the same log;
without these notes the log of a pass is that of a pass into a silent sink.  What it holds is then
told by the files that the sink takes, and it accounts for all fields of the documents.

* `ReportingSink`, `SharedLog`, `heard`: sinks with notes of their own, and a log without them.
* `Pass.Echoes`: a computation reports what another one does, but for the notes of the sink.
* `Pass.echoes_run`: a pass into a sink echoes a pass into the silent sink.
* `LogLine`, `Pass.synthesizedLines`, `Pass.takenLines`: what the log shows.
* `Pass.log_accounts`: the log of a pass.
-/

namespace SchemaGen

variable {σ ε κ α β : Type}

/-- A sink with a state, which makes notes of its own. -/
structure ReportingSink (σ ε κ : Type) where
  /-- Writes a file. -/
  write : String → String → σ → Except ε Unit × σ × List κ

/-- A log of events that a sink adds its notes to. -/
abbrev SharedLog (κ : Type) := StateM (List (Event ⊕ κ))

instance : MonadReport (SharedLog κ) :=
  ⟨fun e => modify fun log => log ++ [.inl e]⟩

/-- The events in a shared log, without the notes of the sink. -/
def heard (log : List (Event ⊕ κ)) : List Event :=
  log.filterMap Sum.getLeft?

theorem heard_append (log more : List (Event ⊕ κ)) :
    heard (log ++ more) = heard log ++ heard more :=
  List.filterMap_append

theorem heard_notes (notes : List κ) : heard (notes.map (Sum.inr (α := Event))) = [] := by
  rw [heard, List.filterMap_map]
  exact List.filterMap_eq_nil_iff.mpr fun _ _ => rfl

namespace ReportingSink

/-- Writing to the sink, which adds its notes to the log. -/
def put (sink : ReportingSink σ ε κ) (name content : String) :
    ExceptT ε (StateT σ (SharedLog κ)) Unit :=
  ExceptT.mk fun s log =>
    (((sink.write name content s).1, (sink.write name content s).2.1),
      log ++ (sink.write name content s).2.2.map Sum.inr)

/-- The sink without its notes. -/
def silent (sink : ReportingSink σ ε κ) : Sink σ ε where
  write name content s := ((sink.write name content s).1, (sink.write name content s).2.1)

end ReportingSink

namespace Pass

open Run

/-! ## Notes of the sink -/

/-- Both computations come to the same result and the same state, and the first reports what the
second does, besides notes of a sink. -/
def Echoes (work : ExceptT ε (StateT σ (SharedLog κ)) α)
    (quiet : ExceptT ε (StateT σ EventLog) α) : Prop :=
  ∀ s log, ∃ ending more, (work.run.run s).run log = (ending, log ++ more) ∧
    ∀ before, (quiet.run.run s).run before = (ending, before ++ heard more)

theorem echoes_pure (a : α) :
    Echoes (pure a : ExceptT ε (StateT σ (SharedLog κ)) α) (pure a) := by
  intro s log
  refine ⟨(.ok a, s), [], ?_, ?_⟩
  · rw [List.append_nil]
    rfl
  · intro before
    rw [heard, List.filterMap_nil, List.append_nil]
    rfl

theorem echoes_report (event : Event) :
    Echoes (report event : ExceptT ε (StateT σ (SharedLog κ)) Unit) (report event) :=
  fun s _ => ⟨(.ok (), s), [.inl event], rfl, fun _ => rfl⟩

theorem echoes_put (sink : ReportingSink σ ε κ) (name content : String) :
    Echoes (sink.put name content) (sink.silent.put name content) := by
  intro s log
  refine ⟨_, (sink.write name content s).2.2.map Sum.inr, rfl, ?_⟩
  intro before
  rw [heard_notes, List.append_nil]
  rfl

theorem Echoes.bind {work : ExceptT ε (StateT σ (SharedLog κ)) α}
    {quiet : ExceptT ε (StateT σ EventLog) α}
    {next : α → ExceptT ε (StateT σ (SharedLog κ)) β} {then' : α → ExceptT ε (StateT σ EventLog) β}
    (h : Echoes work quiet) (hnext : ∀ a, Echoes (next a) (then' a)) :
    Echoes (work >>= next) (quiet >>= then') := by
  intro s log
  obtain ⟨⟨result, s'⟩, more, hwork, hquiet⟩ := h s log
  cases result with
  | error e =>
    refine ⟨(.error e, s'), more, ?_, ?_⟩
    · rw [run_bind_states, hwork]
    · intro before
      rw [run_bind_states, hquiet]
  | ok a =>
    obtain ⟨ending, more', hwork', hquiet'⟩ := hnext a s' (log ++ more)
    refine ⟨ending, more ++ more', ?_, ?_⟩
    · rw [run_bind_states, hwork, ← List.append_assoc, ← hwork']
    · intro before
      rw [run_bind_states, hquiet, heard_append, ← List.append_assoc, ← hquiet']

theorem echoes_forM_report (events : List Event) :
    Echoes (events.forM report : ExceptT ε (StateT σ (SharedLog κ)) PUnit)
      (events.forM report) := by
  induction events with
  | nil => exact echoes_pure PUnit.unit
  | cons event events ih => exact (echoes_report event).bind fun _ => ih

theorem echoes_step (sink : ReportingSink σ ε κ) (options : Options) (done : PassReport)
    (dto : Dto) :
    Echoes (step sink.put options done dto) (step sink.silent.put options done dto) := by
  unfold step
  refine (echoes_forM_report _).bind fun _ => ?_
  refine (echoes_put sink _ _).bind fun _ => ?_
  exact (echoes_report _).bind fun _ => echoes_pure _

theorem echoes_steps (sink : ReportingSink σ ε κ) (options : Options) (done : PassReport)
    (dtos : List Dto) :
    Echoes (dtos.foldlM (step sink.put options) done)
      (dtos.foldlM (step sink.silent.put options) done) := by
  induction dtos generalizing done with
  | nil => exact echoes_pure done
  | cons dto dtos ih =>
    rw [List.foldlM_cons, List.foldlM_cons]
    exact (echoes_step sink options done dto).bind ih

/-- A pass into a sink that makes notes echoes a pass into the sink without its notes. -/
theorem echoes_run (sink : ReportingSink σ ε κ) (options : Options) (dtos : List Dto) :
    Echoes (run sink.put options dtos) (run sink.silent.put options dtos) := by
  unfold run
  refine (echoes_steps sink options _ dtos).bind fun done => ?_
  exact (echoes_report _).bind fun _ => echoes_pure done

end Pass

/-! ## What the log shows -/

/-- What the log shows of an event. -/
structure LogLine where
  /-- How much it matters. -/
  level : Level
  /-- What has happened. -/
  message : String
  /-- The values that go with it. -/
  fields : List (String × String)
  deriving DecidableEq, Repr

def Event.logLine (e : Event) : LogLine :=
  ⟨e.level, e.message, e.fields⟩

/-- The line of a field that has no validator: its name, its type as diagnostics show it, the name
of its data transfer object, and the text of the error. -/
def Field.skippedLine? (options : Options) (owner : String) (field : Field) : Option LogLine :=
  match field.resolveIn options owner with
  | .ok _ => none
  | .error e =>
    some ⟨.error, "Could not parse field, leaving it out of the schema",
      [("field", field.name), ("field_type", field.displayType), ("dto", owner),
        ("error", e.message)]⟩

namespace Pass

open Run

variable {options : Options} {dto : Dto}

/-- The lines of a document: those of the fields that it leaves out, in their order, and then one
with the numbers of its properties, of the fields that it leaves out, and of its imports. -/
def synthesizedLines (options : Options) (dto : Dto) : List LogLine :=
  dto.fields.filterMap (Field.skippedLine? options dto.name) ++
    [⟨.debug, "Synthesized schema",
      [("dto", dto.name), ("fields", toString (Document.ofDto options dto).properties.length),
        ("skipped", toString (Document.ofDto options dto).skipped.length),
        ("imports", toString (Document.ofDto options dto).imports.size)]⟩]

/-- The lines of a document whose file the sink takes. -/
def takenLines (options : Options) (dto : Dto) : List LogLine :=
  synthesizedLines options dto ++
    [⟨.debug, "Schema handed to sink",
      [("dto", dto.name), ("file", (Document.ofDto options dto).fileName)]⟩]

/-- The last line of a pass, with the numbers of its report. -/
def completedLine (report : PassReport) : LogLine :=
  ⟨.info, "Generation pass complete",
    [("files", toString report.files.length), ("skipped_fields", toString report.skippedFields)]⟩

theorem skippedLines_eq (options : Options) (dto : Dto) :
    dto.fields.filterMap (Field.skippedLine? options dto.name) =
      (Document.ofDto options dto).skipped.map fun s =>
        (Event.fieldSkipped dto.name s.name s.type s.error).logLine := by
  have hline : ∀ field : Field, (field.toSkipped? options dto.name).map (fun s =>
      (Event.fieldSkipped dto.name s.name s.type s.error).logLine) =
        field.skippedLine? options dto.name := by
    intro field
    unfold Field.toSkipped? Field.skippedLine?
    cases field.resolveIn options dto.name with
    | ok resolved => rfl
    | error e => rfl
  show _ = (dto.fields.filterMap (Field.toSkipped? options dto.name)).map _
  rw [List.map_filterMap]
  exact List.filterMap_congr fun field _ => (hline field).symm

theorem map_logLine_events (options : Options) (dto : Dto) :
    (Document.ofDto options dto).events.map Event.logLine = synthesizedLines options dto := by
  rw [synthesizedLines, skippedLines_eq, Document.events, List.map_append, List.map_map]
  rfl

theorem map_logLine_takenEvents (options : Options) (dtos : List Dto) :
    (dtos.flatMap (takenEvents options)).map Event.logLine = dtos.flatMap (takenLines options) := by
  rw [List.map_flatMap]
  refine List.flatMap_congr fun dto _ => ?_
  rw [takenEvents, List.map_append, map_logLine_events]
  rfl

/-- The errors among the lines of documents are those of the fields that these leave out. -/
theorem countP_error_takenLines (options : Options) (dtos : List Dto) :
    (dtos.flatMap (takenLines options)).countP (fun line => line.level = .error) =
      (reportOf options dtos).skippedFields := by
  have hdto : ∀ dto : Dto, (takenLines options dto).countP (fun line => line.level = .error) =
      (Document.ofDto options dto).skipped.length := by
    intro dto
    rw [takenLines, synthesizedLines, List.countP_append, List.countP_append, skippedLines_eq,
      List.countP_map, List.countP_eq_length.mpr fun _ _ => ?_]
    · rfl
    · rfl
  rw [List.countP_flatMap, reportOf, List.length_flatMap]
  exact congrArg List.sum (List.map_congr_left fun dto _ => hdto dto)

theorem countP_info_synthesizedLines (options : Options) (dto : Dto) :
    (synthesizedLines options dto).countP (fun line => line.level = .info) = 0 := by
  rw [synthesizedLines, skippedLines_eq, List.countP_append, List.countP_map,
    List.countP_eq_zero.mpr fun _ _ => ?_]
  · rfl
  · exact Bool.false_ne_true

theorem countP_info_takenLines (options : Options) (dtos : List Dto) :
    (dtos.flatMap (takenLines options)).countP (fun line => line.level = .info) = 0 := by
  refine List.countP_eq_zero.mpr fun line hline => ?_
  obtain ⟨dto, -, hline⟩ := List.mem_flatMap.mp hline
  rcases List.mem_append.mp hline with hline | hline
  · exact List.countP_eq_zero.mp (countP_info_synthesizedLines options dto) line hline
  · rw [List.mem_singleton.mp hline]
    exact Bool.false_ne_true

/-! ## The log of a pass -/

/-- The log of a pass accounts for every field and every file, for any sink and whatever it notes
on its own.  Either the sink takes all files: then the log has the lines of all documents in order,
and a last line with the numbers of the report, which is the only one of its level; the errors are
as many as the fields that the report counts as left out.  Or the sink refuses the file of some
document: then the log has the lines of the documents before it, and of this one without the line
about its file, and nothing else.  The fields that a document has properties for and those that it
leaves out are all fields that were declared. -/
theorem log_accounts (sink : ReportingSink σ ε κ) (options : Options) (dtos : List Dto) (s : σ)
    (log : List (Event ⊕ κ)) :
    ∃ result s' more lines,
      ((run sink.put options dtos).run.run s).run log = ((result, s'), log ++ more) ∧
      (heard more).map Event.logLine = lines ∧
      ((∃ report, result = .ok report ∧
          sink.silent.Accepts s (dtos.map (moduleOf options)) s' ∧
          lines = dtos.flatMap (takenLines options) ++ [completedLine report] ∧
          lines.countP (fun line => line.level = .info) = 1 ∧
          lines.countP (fun line => line.level = .error) = report.skippedFields) ∨
        ∃ before dto after e, result = .error e ∧ dtos = before ++ dto :: after ∧
          sink.silent.Refuses s (before.map (moduleOf options)) (moduleOf options dto) e s' ∧
          lines = before.flatMap (takenLines options) ++ synthesizedLines options dto ∧
          lines.countP (fun line => line.level = .info) = 0) ∧
      ∀ dto, (Document.ofDto options dto).properties.length +
        (Document.ofDto options dto).skipped.length = dto.fields.length := by
  obtain ⟨⟨result, s'⟩, more, hrun, hquiet⟩ := echoes_run sink options dtos s log
  refine ⟨result, s', more, _, hrun, rfl, ?_,
    fun dto => Document.length_properties_add_skipped options dto⟩
  rcases accepts_or_refuses sink.silent options dtos s with ⟨s₁, haccepts⟩ |
    ⟨before, dto, after, e, s₁, rfl, hrefuses⟩
  · left
    obtain ⟨hending, hheard⟩ := Prod.mk.inj ((hquiet []).symm.trans (run_of_accepts haccepts []))
    obtain ⟨rfl, rfl⟩ := Prod.mk.inj hending
    rw [List.nil_append, List.nil_append] at hheard
    have hlines : (heard more).map Event.logLine =
        dtos.flatMap (takenLines options) ++ [completedLine (reportOf options dtos)] := by
      have hlength : (reportOf options dtos).files.length = dtos.length := List.length_map ..
      rw [hheard, List.map_append, map_logLine_takenEvents, completedLine, hlength]
      rfl
    refine ⟨reportOf options dtos, rfl, haccepts, hlines, ?_, ?_⟩
    · rw [hlines, List.countP_append, countP_info_takenLines]
      rfl
    · rw [hlines, List.countP_append, countP_error_takenLines]
      rfl
  · right
    obtain ⟨hending, hheard⟩ := Prod.mk.inj ((hquiet []).symm.trans (run_of_refuses hrefuses []))
    obtain ⟨rfl, rfl⟩ := Prod.mk.inj hending
    rw [List.nil_append, List.nil_append] at hheard
    have hlines : (heard more).map Event.logLine =
        before.flatMap (takenLines options) ++ synthesizedLines options dto := by
      rw [hheard, List.map_append, map_logLine_takenEvents, map_logLine_events]
    refine ⟨before, dto, after, e, rfl, rfl, hrefuses, hlines, ?_⟩
    rw [hlines, List.countP_append, countP_info_takenLines, countP_info_synthesizedLines]

end Pass

end SchemaGen
