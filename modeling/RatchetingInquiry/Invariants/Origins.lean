import RatchetingInquiry.Invariants.AppendOnly
import RatchetingInquiry.Core.Rebuild

/-! Where the records of a state come from. Every record was brought in by one command of the run, which was
judged in the state before it, and whatever that state owned is still owned at the end of the run. -/

namespace RatchetingInquiry

section
variable [Fingerprints] {condition : InquiryState → DomainCommand → Prop} {state next before after later : InquiryState}
  {command : DomainCommand} {body : EventBody}

/-- One command of a run from the empty aggregate: the states around it, the event that it proposed and the
rest of the run. -/
structure RunStep (condition : InquiryState → DomainCommand → Prop) (before : InquiryState) (command : DomainCommand)
    (body : EventBody) (after later : InquiryState) : Prop where
  reached : ReachableUnder condition before
  meets : condition before command
  proposed : Proposed before command.head.inquiryId command.body body
  applied : applyCommand before command = .ok after
  transition : Transition before command.head body after
  valid : AggregateValid after
  run : RunsTo after later

theorem reachableUnder_of_reachable (reached : Reachable state) : ReachableUnder (fun _ _ => True) state := by
  induction reached with
  | refl => exact .refl
  | tail _ step ih =>
    obtain ⟨command, applied⟩ := step
    exact ih.tail ⟨command, trivial, applied⟩

theorem StepUnder.runsTo (run : Relation.ReflTransGen (StepUnder condition) state next) : RunsTo state next := by
  induction run with
  | refl => exact .refl
  | tail _ step ih =>
    obtain ⟨command, -, applied⟩ := step
    exact ih.tail ⟨command, applied⟩

/-- What a state of a run has and the empty aggregate lacks was brought in by one command of the run. -/
theorem ReachableUnder.origin {P : InquiryState → Prop} (reached : ReachableUnder condition state)
    (unheld : ¬ P initialState) (held : P state) :
    ∃ before command body after, RunStep condition before command body after state ∧ ¬ P before ∧ P after := by
  obtain ⟨before, after, earlier, ⟨command, meets, applied⟩, rest, absent, present⟩ := run_brings reached unheld held
  rcases applyCommand_cases applied with rfl | ⟨body, decided, transition, valid⟩
  · exact absurd present absent
  · exact ⟨before, command, body, after, ⟨earlier, meets, decideBody_proposed decided, applied, transition, valid,
      StepUnder.runsTo rest⟩, absent, present⟩

theorem Transition.sequence_succ {head : EventMetadata} (fresh : state.status = .notStarted → state = initialState)
    (transition : Transition state head body next) : next.sequence = state.sequence + 1 := by
  rcases transition.headerView with ⟨unstarted, manifest, policy, context, rfl⟩ | ⟨-, header⟩
  · obtain rfl := fresh unstarted
    rfl
  · rw [show next.sequence = next.toInquiryHeader.sequence from rfl, header]

theorem sequence_le (replayed : Replayable state) (run : Relation.ReflTransGen EventStep state next) :
    state.sequence ≤ next.sequence := by
  induction run with
  | refl => exact Nat.le_refl _
  | tail earlier step ih =>
    obtain ⟨event, evolved⟩ := step
    obtain ⟨transition, -⟩ := evolve_eq_ok.mp evolved
    have fresh := Replayable.unstarted_eq_initial (Relation.ReflTransGen.trans replayed earlier)
    rw [transition.sequence_succ fresh]
    exact Nat.le_succ_of_le ih

/-- The pins of an inquiry stay the same along every run. -/
theorem context_kept {context : InquiryContext} (replayed : Replayable state)
    (run : Relation.ReflTransGen EventStep state next) (pinned : state.context = some context) :
    next.context = some context := by
  induction run with
  | refl => exact pinned
  | tail earlier step ih =>
    rename_i middle last
    obtain ⟨event, evolved⟩ := step
    obtain ⟨transition, -⟩ := evolve_eq_ok.mp evolved
    rcases transition.headerView with ⟨unstarted, -⟩ | ⟨-, header⟩
    · have empty := Replayable.unstarted_eq_initial (Relation.ReflTransGen.trans replayed earlier) unstarted
      rw [empty] at ih
      simp [initialState] at ih
    · rw [← ih, show last.context = last.toInquiryHeader.context from rfl, header]

/-- A command of a run changes nothing, or it is a step of the run. -/
theorem CommandStep.runStep (reached : Reachable before) (step : CommandStep before after) (run : RunsTo after later) :
    after = before ∨ ∃ command body, RunStep (fun _ _ => True) before command body after later := by
  obtain ⟨command, applied⟩ := step
  rcases applyCommand_cases applied with unchanged | ⟨body, decided, transition, valid⟩
  · exact .inl unchanged
  · exact .inr ⟨command, body, reachableUnder_of_reachable reached, trivial, decideBody_proposed decided, applied,
      transition, valid, run⟩

/-- What a later state of a run has and an earlier one lacks was brought in by one command between them. -/
theorem Reachable.origin_between {P : InquiryState → Prop} (reached : Reachable state) (run : RunsTo state later)
    (unheld : ¬ P state) (held : P later) :
    ∃ before command body after, RunStep (fun _ _ => True) before command body after later ∧ RunsTo state before ∧
      ¬ P before ∧ P after := by
  obtain ⟨before, after, earlier, brings, rest, absent, present⟩ := run_brings run unheld held
  rcases brings.runStep (Relation.ReflTransGen.trans reached earlier) rest with rfl | ⟨command, body, step⟩
  · exact absurd present absent
  · exact ⟨before, command, body, after, step, earlier, absent, present⟩

section
variable (step : RunStep condition before command body after later)
include step

theorem RunStep.replayable : Replayable before := step.reached.reachable.replayable

theorem RunStep.commandStep : CommandStep before after := ⟨command, step.applied⟩

theorem RunStep.eventRun : Relation.ReflTransGen EventStep before later :=
  RunsTo.eventRun (Relation.ReflTransGen.head step.commandStep step.run)

theorem RunStep.appended : RecordsAppended before (body.introduces before) after :=
  step.transition.recordsAppended step.replayable.unstarted_eq_initial

/-- What the state before the command owned is owned at the end of the run. -/
theorem RunStep.joined : ∃ added, RecordsAppended before added later := records_joined step.replayable step.eventRun

theorem RunStep.lasts : ∃ added, RecordsAppended after added later :=
  records_joined (step.replayable.trans step.commandStep.eventRun) step.run.eventRun

theorem RunStep.context_kept {context : InquiryContext} (pinned : before.context = some context) :
    later.context = some context := RatchetingInquiry.context_kept step.replayable step.eventRun pinned

theorem RunStep.sequence_succ : after.sequence = before.sequence + 1 :=
  step.transition.sequence_succ step.replayable.unstarted_eq_initial

theorem RunStep.grown : before.toWarrantRecords.Extends later.toWarrantRecords := by
  obtain ⟨added, joined⟩ := step.joined
  rw [joined.warrants]
  constructor <;> exact List.prefix_append _ _

end

/-- A collection of the aggregate that events only add to. -/
structure Collects {α : Type} (records : InquiryState → List α) : Prop where
  empty : records initialState = []
  grows : ∀ state added next, RecordsAppended state added next → records next = records state ++ records added

section
variable {α : Type} {records : InquiryState → List α} {record : α}

omit [Fingerprints] in
/-- What was collected stays in its place. -/
theorem Collects.kept (collects : Collects records) (joined : ∃ added, RecordsAppended state added later) :
    records state <+: records later := by
  obtain ⟨added, appended⟩ := joined
  rw [collects.grows _ _ _ appended]
  exact List.prefix_append _ _

/-- A record that a command brought in was introduced by its event. -/
theorem RunStep.introduces (collects : Collects records) (step : RunStep condition before command body after later)
    (absent : record ∉ records before) (present : record ∈ records after) :
    record ∈ records (body.introduces before) := by
  rw [collects.grows _ _ _ step.appended] at present
  exact (List.mem_append.mp present).resolve_left absent

/-- Every record of a run was introduced by the event of one command of the run. -/
theorem ReachableUnder.record_origin (collects : Collects records) (reached : ReachableUnder condition state)
    (member : record ∈ records state) : ∃ before command body after,
      RunStep condition before command body after state ∧ record ∉ records before ∧
        record ∈ records (body.introduces before) := by
  obtain ⟨before, command, body, after, step, absent, present⟩ := reached.origin
    (P := fun state => record ∈ records state) (by simp [collects.empty]) member
  exact ⟨before, command, body, after, step, absent, step.introduces collects absent present⟩

/-- A record that a later state of a run has and an earlier one lacks was introduced between them. -/
theorem Reachable.record_between (collects : Collects records) (reached : Reachable state) (run : RunsTo state later)
    (absent : record ∉ records state) (member : record ∈ records later) : ∃ before command body after,
      RunStep (fun _ _ => True) before command body after later ∧ RunsTo state before ∧
        record ∈ records (body.introduces before) := by
  obtain ⟨before, command, body, after, step, earlier, unheld, present⟩ :=
    reached.origin_between (P := fun state => record ∈ records state) run absent member
  exact ⟨before, command, body, after, step, earlier, step.introduces collects unheld present⟩

end

section
variable {α : Type} {record : α}

/-! The collections of each area. Only an event of the area introduces its records, except that the learning area
admits probes. -/

omit [Fingerprints] in
theorem collects_compression {records : CompressionRecords → List α} (empty : records {} = [])
    (joins : ∀ earlier added, records (earlier.join added) = records earlier ++ records added) :
    Collects (fun state => records state.toCompressionRecords) := by
  refine ⟨empty, ?_⟩
  intro state added next appended
  rw [appended.compression]
  exact joins _ _

omit [Fingerprints] in
theorem collects_project {records : ProjectRecords → List α} (empty : records {} = [])
    (joins : ∀ earlier added, records (earlier.join added) = records earlier ++ records added) :
    Collects (fun state => records state.toProjectRecords) := by
  refine ⟨empty, ?_⟩
  intro state added next appended
  rw [appended.project]
  exact joins _ _

omit [Fingerprints] in
theorem collects_learning {records : LearningRecords → List α} (empty : records {} = [])
    (joins : ∀ earlier added, records (earlier.join added) = records earlier ++ records added) :
    Collects (fun state => records state.toLearningRecords) := by
  refine ⟨empty, ?_⟩
  intro state added next appended
  rw [appended.learning]
  exact joins _ _

omit [Fingerprints] in
theorem collects_probe {records : ProbeRecords → List α} (empty : records {} = [])
    (joins : ∀ earlier added, records (earlier.join added) = records earlier ++ records added) :
    Collects (fun state => records state.toProbeRecords) := by
  refine ⟨empty, ?_⟩
  intro state added next appended
  rw [appended.probes]
  exact joins _ _

theorem RunStep.introduces_compression {records : CompressionRecords → List α} (empty : records {} = [])
    (step : RunStep condition before command body after later)
    (introduced : record ∈ records (body.introduces before).toCompressionRecords) :
    ∃ event, body = .compression event ∧ record ∈ records (CompressionRecords.apply {} event) ∧
      command.body = .compression event.command ∧ decideCompression before event.command = .ok (some event) := by
  cases body with
  | compression event => exact ⟨event, rfl, introduced, step.proposed.compression_command⟩
  | memory event => cases event <;> simp [EventBody.introduces, InquiryState.applyMemory, empty] at introduced
  | learning event => cases event <;> simp [EventBody.introduces, empty] at introduced
  | _ => simp [EventBody.introduces, empty] at introduced

theorem RunStep.introduces_project {records : ProjectRecords → List α} (empty : records {} = [])
    (step : RunStep condition before command body after later)
    (introduced : record ∈ records (body.introduces before).toProjectRecords) :
    ∃ event, body = .project event ∧ record ∈ records (ProjectRecords.apply {} event) ∧
      command.body = .project event.command ∧ decideProject before event.command = .ok (some event) := by
  cases body with
  | project event => exact ⟨event, rfl, introduced, step.proposed.project_command⟩
  | memory event => cases event <;> simp [EventBody.introduces, InquiryState.applyMemory, empty] at introduced
  | learning event => cases event <;> simp [EventBody.introduces, empty] at introduced
  | _ => simp [EventBody.introduces, empty] at introduced

theorem RunStep.introduces_learning {records : LearningRecords → List α} (empty : records {} = [])
    (step : RunStep condition before command body after later)
    (introduced : record ∈ records (body.introduces before).toLearningRecords) :
    ∃ event, body = .learning event ∧ record ∈ records (LearningRecords.apply {} event) ∧
      command.body = .learning event.command ∧ decideLearning before event.command = .ok (some event) := by
  cases body with
  | learning event =>
    refine ⟨event, rfl, ?_, step.proposed.learning_command⟩
    cases event <;> exact introduced
  | memory event => cases event <;> simp [EventBody.introduces, InquiryState.applyMemory, empty] at introduced
  | _ => simp [EventBody.introduces, empty] at introduced

theorem RunStep.introduces_probe {records : ProbeRecords → List α}
    (empty : ∀ probes, records { admittedProbes := probes } = [])
    (step : RunStep condition before command body after later)
    (introduced : record ∈ records (body.introduces before).toProbeRecords) :
    ∃ event, body = .probe event ∧ record ∈ records (ProbeRecords.apply {} event) ∧
      command.body = .probe event.command ∧ decideProbe before event.command = .ok (some event) := by
  cases body with
  | probe event => exact ⟨event, rfl, introduced, step.proposed.probe_command⟩
  | memory event => cases event <;> simp [EventBody.introduces, InquiryState.applyMemory, empty] at introduced
  | learning event => cases event <;> simp [EventBody.introduces, empty] at introduced
  | _ => simp [EventBody.introduces, empty] at introduced

/-- Every compression record of a run was judged by the command that brought it in. -/
theorem ReachableUnder.compression_origin (records : CompressionRecords → List α)
    (joins : ∀ earlier added, records (earlier.join added) = records earlier ++ records added)
    (empty : records {} = []) (reached : ReachableUnder condition state)
    (member : record ∈ records state.toCompressionRecords) :
    ∃ before command event after, RunStep condition before command (.compression event) after state ∧
      record ∈ records (CompressionRecords.apply {} event) ∧ command.body = .compression event.command ∧
      decideCompression before event.command = .ok (some event) := by
  obtain ⟨before, command, body, after, step, -, introduced⟩ :=
    reached.record_origin (collects_compression empty joins) member
  obtain ⟨event, rfl, listed, judged⟩ := step.introduces_compression empty introduced
  exact ⟨before, command, event, after, step, listed, judged⟩

/-- Every project record of a run was judged by the command that brought it in. -/
theorem ReachableUnder.project_origin (records : ProjectRecords → List α)
    (joins : ∀ earlier added, records (earlier.join added) = records earlier ++ records added)
    (empty : records {} = []) (reached : ReachableUnder condition state)
    (member : record ∈ records state.toProjectRecords) :
    ∃ before command event after, RunStep condition before command (.project event) after state ∧
      record ∈ records (ProjectRecords.apply {} event) ∧ command.body = .project event.command ∧
      decideProject before event.command = .ok (some event) := by
  obtain ⟨before, command, body, after, step, -, introduced⟩ :=
    reached.record_origin (collects_project empty joins) member
  obtain ⟨event, rfl, listed, judged⟩ := step.introduces_project empty introduced
  exact ⟨before, command, event, after, step, listed, judged⟩

/-- Every learning record of a run was judged by the command that brought it in. -/
theorem ReachableUnder.learning_origin (records : LearningRecords → List α)
    (joins : ∀ earlier added, records (earlier.join added) = records earlier ++ records added)
    (empty : records {} = []) (reached : ReachableUnder condition state)
    (member : record ∈ records state.toLearningRecords) :
    ∃ before command event after, RunStep condition before command (.learning event) after state ∧
      record ∈ records (LearningRecords.apply {} event) ∧ command.body = .learning event.command ∧
      decideLearning before event.command = .ok (some event) := by
  obtain ⟨before, command, body, after, step, -, introduced⟩ :=
    reached.record_origin (collects_learning empty joins) member
  obtain ⟨event, rfl, listed, judged⟩ := step.introduces_learning empty introduced
  exact ⟨before, command, event, after, step, listed, judged⟩

/-- Every probe record of a run other than an admitted probe was judged by the command that brought it in. -/
theorem ReachableUnder.probe_origin (records : ProbeRecords → List α)
    (joins : ∀ earlier added, records (earlier.join added) = records earlier ++ records added)
    (empty : ∀ probes, records { admittedProbes := probes } = []) (reached : ReachableUnder condition state)
    (member : record ∈ records state.toProbeRecords) :
    ∃ before command event after, RunStep condition before command (.probe event) after state ∧
      record ∈ records (ProbeRecords.apply {} event) ∧ command.body = .probe event.command ∧
      decideProbe before event.command = .ok (some event) := by
  obtain ⟨before, command, body, after, step, -, introduced⟩ :=
    reached.record_origin (collects_probe (empty []) joins) member
  obtain ⟨event, rfl, listed, judged⟩ := step.introduces_probe empty introduced
  exact ⟨before, command, event, after, step, listed, judged⟩

end

end

end RatchetingInquiry
