import RatchetingInquiry.Core.Evolve

/-! What one step of the reducer can do. Every invariant over runs is derived from these inversions, and
no later proof unfolds the reducer. -/

namespace RatchetingInquiry

/-- The inquiry is active under the given identity. -/
def InquiryState.isActive (state : InquiryState) (inquiryId : String) : Prop :=
  state.status = .active ∧ state.inquiryId = some inquiryId

theorem requireActive_eq_ok {state : InquiryState} {inquiryId : String} :
    requireActive state.toInquiryHeader inquiryId = .ok () ↔ state.isActive inquiryId := by
  simp [requireActive, InquiryState.isActive]

theorem requireOwnEvent_eq_ok {state : InquiryState} {event : DomainEvent} :
    requireOwnEvent state event = .ok () ↔ state.isActive event.head.inquiryId := by
  simp [requireOwnEvent, InquiryState.isActive]

section
variable [Fingerprints]

theorem advance_eq_ok {state next result : InquiryState} :
    state.advance next = .ok result ↔
      AggregateValid result ∧ result = { next with sequence := state.sequence + 1 } := by
  unfold InquiryState.advance
  rw [validateLifecycle_eq_ok]
  constructor
  · rintro ⟨valid, rfl⟩
    exact ⟨valid, rfl⟩
  · rintro ⟨valid, rfl⟩
    exact ⟨valid, rfl⟩

theorem decide_eq_ok {state : InquiryState} {command : DomainCommand} {events : List DomainEvent} :
    decide state command = .ok events ↔ ∃ body, decideBody state command.head.inquiryId command.body = .ok body ∧
      events = (body.map (fun body => (⟨command.head, body⟩ : DomainEvent))).toList := by
  unfold decide
  rw [bind_eq_ok]
  simp only [pure, Except.pure, Except.ok.injEq]
  constructor
  · rintro ⟨body, decided, same⟩
    exact ⟨body, decided, same.symm⟩
  · rintro ⟨body, decided, same⟩
    exact ⟨body, decided, same.symm⟩

/-- A decided command leaves the state alone or proposes exactly one event with the command's facts. -/
theorem decide_singleton {state : InquiryState} {command : DomainCommand} {event : DomainEvent} :
    decide state command = .ok [event] ↔ event.head = command.head ∧
      decideBody state command.head.inquiryId command.body = .ok (some event.body) := by
  rw [decide_eq_ok]
  constructor
  · rintro ⟨body, decided, same⟩
    cases body with
    | none => simp at same
    | some body =>
      simp only [Option.map_some, Option.toList_some, List.cons.injEq, and_true] at same
      subst same
      exact ⟨rfl, decided⟩
  · rintro ⟨head, decided⟩
    refine ⟨some event.body, decided, ?_⟩
    simp [← head]

theorem requireMatchingDecision_eq_ok {state : InquiryState} {event : DomainEvent} {command : CommandBody} :
    requireMatchingDecision state event command = .ok () ↔
      ∃ body, decideBody state event.head.inquiryId command = .ok (some body) ∧ body.same event.body := by
  unfold requireMatchingDecision
  constructor
  · intro lawful
    split at lawful
    next failure rejected => simp at lawful
    next expected decided =>
      rw [require_eq_ok] at lawful
      obtain ⟨body, bodyDecided, expectedIs⟩ := decide_eq_ok.mp decided
      subst expectedIs
      cases body with
      | none => simp [RecordEq.same] at lawful
      | some body =>
        refine ⟨body, bodyDecided, ?_⟩
        simpa [RecordEq.same] using lawful
  · rintro ⟨body, decided, same⟩
    have expected : decide state ⟨event.head, command⟩ = .ok [⟨event.head, body⟩] :=
      decide_singleton.mpr ⟨rfl, decided⟩
    rw [expected]
    simp [RecordEq.same, same]

omit [Fingerprints] in
/-- What the area deciders decide, behind the check that the inquiry is active. -/
theorem activeDecision_eq_some {α : Type} {state : InquiryState} {inquiryId : String}
    {decided : Except Failure (Option α)} {wrap : α → EventBody} {body : EventBody} :
    (do requireActive state.toInquiryHeader inquiryId
        return (← decided).map wrap : Except Failure (Option EventBody)) = .ok (some body) ↔
      state.isActive inquiryId ∧ ∃ event, decided = .ok (some event) ∧ body = wrap event := by
  rw [unit_bind_eq_ok, requireActive_eq_ok, bind_eq_ok]
  constructor
  · rintro ⟨active, event, decidedIs, wrapped⟩
    cases event with
    | none => simp [pure, Except.pure] at wrapped
    | some event =>
      refine ⟨active, event, decidedIs, ?_⟩
      simpa [pure, Except.pure] using wrapped.symm
  · rintro ⟨active, event, decidedIs, rfl⟩
    exact ⟨active, some event, decidedIs, rfl⟩

/-- The effect event that one step of the effect lifecycle performs, and the records it leaves. -/
inductive EffectStep (state : InquiryState) (head : EventMetadata) : EffectEvent → EffectRecords → Prop
  | backlogEffect (effect : BacklogEffect)
      (lawful : decideEffect state (.recordBacklogEffect effect) = .ok (some (.backlogEffectRecorded effect))) :
      EffectStep state head (.backlogEffectRecorded effect)
        { state.toEffectRecords with backlogEffects := state.backlogEffects ++ [effect] }
  | stepPlan (plan : StepPlan)
      (lawful : decideEffect state (.recordStepPlan plan) = .ok (some (.stepPlanRecorded plan))) :
      EffectStep state head (.stepPlanRecorded plan)
        { state.toEffectRecords with stepPlans := state.stepPlans ++ [plan] }
  | requested (request : EffectRequest) (fresh : state.requestById request.id = none)
      (planned : (state.stepPlanById request.stepPlanId).isSome) :
      EffectStep state head (.effectRequested request)
        { state.toEffectRecords with effectRequests := state.effectRequests ++ [{ request := request }] }
  | attemptPlanned (plan : EffectAttemptPlan) (replacement : EffectRequestState)
      (rebuilt : evolveAttemptPlanned state.toEffectRecords plan = .ok replacement) :
      EffectStep state head (.effectAttemptPlanned plan)
        { state.toEffectRecords with effectRequests := state.replaceRequest replacement }
  | attemptStarted (attemptId : String) (replacement : EffectRequestState)
      (rebuilt : evolveAttemptStarted state.toEffectRecords head attemptId = .ok replacement) :
      EffectStep state head (.effectAttemptStarted attemptId)
        { state.toEffectRecords with effectRequests := state.replaceRequest replacement }
  | noAttemptDisposition (disposition : NoAttemptDisposition) (replacement : EffectRequestState)
      (rebuilt : evolveNoAttemptDisposition state.toEffectRecords disposition = .ok replacement) :
      EffectStep state head (.effectNoAttemptDispositionRecorded disposition)
        { state.toEffectRecords with effectRequests := state.replaceRequest replacement }
  | attemptOutcome (requestId : String) (outcome : AttemptOutcome) (replacement : EffectRequestState)
      (rebuilt : evolveAttemptOutcome state.toEffectRecords requestId outcome = .ok replacement) :
      EffectStep state head (.effectAttemptOutcomeRecorded requestId outcome)
        { state.toEffectRecords with effectRequests := state.replaceRequest replacement }
  | decodeOutcome (requestId : String) (outcome : DecodeOutcome) (replacement : EffectRequestState)
      (rebuilt : evolveDecodeOutcome state.toEffectRecords requestId outcome = .ok replacement) :
      EffectStep state head (.effectDecodeOutcomeRecorded requestId outcome)
        { state.toEffectRecords with effectRequests := state.replaceRequest replacement }
  | resultAccepted (requestId decodedOutcomeId : String) (replacement : EffectRequestState)
      (rebuilt : evolveResultAccepted state.toEffectRecords requestId decodedOutcomeId = .ok replacement) :
      EffectStep state head (.effectResultAccepted requestId decodedOutcomeId)
        { state.toEffectRecords with effectRequests := state.replaceRequest replacement }

/-- One lawful step of the reducer, by the area of its event. The sequence grows by one and only the
records of the area change; learning events also leave residuals and probes. -/
inductive Transition (state : InquiryState) (head : EventMetadata) : EventBody → InquiryState → Prop
  | started (manifestArtifact : ArtifactRef) (policyVersion : String) (context : InquiryContext)
      (unstarted : state.status = .notStarted) :
      Transition state head (.inquiryStarted manifestArtifact policyVersion context)
        (startedState head manifestArtifact policyVersion context)
  | effect (event : EffectEvent) (records : EffectRecords) (active : state.isActive head.inquiryId)
      (lawful : EffectStep state head event records) :
      Transition state head (.effect event) { state with toEffectRecords := records, sequence := state.sequence + 1 }
  | claim (event expected : ClaimEvent) (active : state.isActive head.inquiryId)
      (lawful : decideClaim state event.command = .ok (some expected)) (same : expected.same event) :
      Transition state head (.claim event)
        { state with toClaimRecords := state.toClaimRecords.apply event, sequence := state.sequence + 1 }
  | warrant (event : WarrantEvent) (active : state.isActive head.inquiryId)
      (lawful : decideWarrant state event.command = .ok (some event)) :
      Transition state head (.warrant event)
        { state with toWarrantRecords := state.toWarrantRecords.apply event, sequence := state.sequence + 1 }
  | probe (event expected : ProbeDomainEvent) (active : state.isActive head.inquiryId)
      (lawful : decideProbe state event.command = .ok (some expected)) (same : expected.same event) :
      Transition state head (.probe event)
        { state with toProbeRecords := state.toProbeRecords.apply event, sequence := state.sequence + 1 }
  | memory (event : MemoryEvent) (active : state.isActive head.inquiryId)
      (lawful : decideMemory state event.command = .ok (some event)) :
      Transition state head (.memory event) { state.applyMemory event with sequence := state.sequence + 1 }
  | learning (event expected : LearningEvent) (active : state.isActive head.inquiryId)
      (lawful : decideLearning state event.command = .ok (some expected)) (same : expected.same event) :
      Transition state head (.learning event) { state.applyLearning event with sequence := state.sequence + 1 }
  | compression (event : CompressionEvent) (active : state.isActive head.inquiryId)
      (lawful : decideCompression state event.command = .ok (some event)) :
      Transition state head (.compression event)
        { state with toCompressionRecords := state.toCompressionRecords.apply event, sequence := state.sequence + 1 }
  | project (event : ProjectEvent) (active : state.isActive head.inquiryId)
      (lawful : decideProject state event.command = .ok (some event)) :
      Transition state head (.project event)
        { state with toProjectRecords := state.toProjectRecords.apply event, sequence := state.sequence + 1 }

/-- A rebuilt command of one area decides to an event of that area that the source takes for the given
one. -/
theorem matchingArea_eq_ok {α : Type} {state : InquiryState} {event : DomainEvent} {command : CommandBody}
    {decided : Except Failure (Option α)} {wrap : α → EventBody}
    (dispatch : decideBody state event.head.inquiryId command =
      (do requireActive state.toInquiryHeader event.head.inquiryId
          return (← decided).map wrap : Except Failure (Option EventBody))) :
    requireMatchingDecision state event command = .ok () ↔
      state.isActive event.head.inquiryId ∧ ∃ expected, decided = .ok (some expected) ∧
        (wrap expected).same event.body := by
  rw [requireMatchingDecision_eq_ok, dispatch]
  constructor
  · rintro ⟨body, bodyDecided, same⟩
    obtain ⟨active, expected, decidedIs, rfl⟩ := activeDecision_eq_some.mp bodyDecided
    exact ⟨active, expected, decidedIs, same⟩
  · rintro ⟨active, expected, decidedIs, same⟩
    exact ⟨wrap expected, activeDecision_eq_some.mpr ⟨active, expected, decidedIs, rfl⟩, same⟩

theorem matchingClaim_eq_ok {state : InquiryState} {event : DomainEvent} {command : ClaimCommand} :
    requireMatchingDecision state event (.claim command) = .ok () ↔ state.isActive event.head.inquiryId ∧
      ∃ expected, decideClaim state command = .ok (some expected) ∧ (EventBody.claim expected).same event.body :=
  matchingArea_eq_ok rfl

theorem matchingWarrant_eq_ok {state : InquiryState} {event : DomainEvent} {command : WarrantCommand} :
    requireMatchingDecision state event (.warrant command) = .ok () ↔ state.isActive event.head.inquiryId ∧
      ∃ expected, decideWarrant state command = .ok (some expected) ∧ (EventBody.warrant expected).same event.body :=
  matchingArea_eq_ok rfl

theorem matchingProbe_eq_ok {state : InquiryState} {event : DomainEvent} {command : ProbeCommand} :
    requireMatchingDecision state event (.probe command) = .ok () ↔ state.isActive event.head.inquiryId ∧
      ∃ expected, decideProbe state command = .ok (some expected) ∧ (EventBody.probe expected).same event.body :=
  matchingArea_eq_ok rfl

theorem matchingMemory_eq_ok {state : InquiryState} {event : DomainEvent} {command : MemoryCommand} :
    requireMatchingDecision state event (.memory command) = .ok () ↔ state.isActive event.head.inquiryId ∧
      ∃ expected, decideMemory state command = .ok (some expected) ∧ (EventBody.memory expected).same event.body :=
  matchingArea_eq_ok rfl

theorem matchingLearning_eq_ok {state : InquiryState} {event : DomainEvent} {command : LearningCommand} :
    requireMatchingDecision state event (.learning command) = .ok () ↔ state.isActive event.head.inquiryId ∧
      ∃ expected, decideLearning state command = .ok (some expected) ∧ (EventBody.learning expected).same event.body :=
  matchingArea_eq_ok rfl

theorem matchingCompression_eq_ok {state : InquiryState} {event : DomainEvent} {command : CompressionCommand} :
    requireMatchingDecision state event (.compression command) = .ok () ↔ state.isActive event.head.inquiryId ∧
      ∃ expected, decideCompression state command = .ok (some expected) ∧ (EventBody.compression expected).same event.body :=
  matchingArea_eq_ok rfl

theorem matchingProject_eq_ok {state : InquiryState} {event : DomainEvent} {command : ProjectCommand} :
    requireMatchingDecision state event (.project command) = .ok () ↔ state.isActive event.head.inquiryId ∧
      ∃ expected, decideProject state command = .ok (some expected) ∧ (EventBody.project expected).same event.body :=
  matchingArea_eq_ok rfl

theorem evolveEffect_eq_ok {state next : InquiryState} {head : EventMetadata} {event : EffectEvent}
    (active : state.isActive head.inquiryId) :
    evolveEffect state head event = .ok next ↔ ∃ records, EffectStep state head event records ∧
      AggregateValid next ∧ next = { state with toEffectRecords := records, sequence := state.sequence + 1 } := by
  have matching : ∀ command, requireMatchingDecision state ⟨head, .effect event⟩ (.effect command) = .ok () ↔
      decideEffect state command = .ok (some event) := by
    intro command
    rw [matchingArea_eq_ok rfl]
    simp [EventBody.same, active]
  constructor
  · intro evolved
    cases event with
    | backlogEffectRecorded effect =>
      simp only [evolveEffect, unit_bind_eq_ok, matching, advance_eq_ok] at evolved
      exact ⟨_, .backlogEffect effect evolved.1, evolved.2⟩
    | stepPlanRecorded plan =>
      simp only [evolveEffect, unit_bind_eq_ok, matching, advance_eq_ok] at evolved
      exact ⟨_, .stepPlan plan evolved.1, evolved.2⟩
    | effectRequested request =>
      simp only [evolveEffect, require_bind_eq_ok, advance_eq_ok] at evolved
      exact ⟨_, .requested request evolved.1 evolved.2.1, evolved.2.2⟩
    | effectAttemptPlanned plan =>
      simp only [evolveEffect, bind_eq_ok, advance_eq_ok] at evolved
      obtain ⟨replacement, rebuilt, done⟩ := evolved
      exact ⟨_, .attemptPlanned plan replacement rebuilt, done⟩
    | effectAttemptStarted attemptId =>
      simp only [evolveEffect, bind_eq_ok, advance_eq_ok] at evolved
      obtain ⟨replacement, rebuilt, done⟩ := evolved
      exact ⟨_, .attemptStarted attemptId replacement rebuilt, done⟩
    | effectNoAttemptDispositionRecorded disposition =>
      simp only [evolveEffect, bind_eq_ok, advance_eq_ok] at evolved
      obtain ⟨replacement, rebuilt, done⟩ := evolved
      exact ⟨_, .noAttemptDisposition disposition replacement rebuilt, done⟩
    | effectAttemptOutcomeRecorded requestId outcome =>
      simp only [evolveEffect, bind_eq_ok, advance_eq_ok] at evolved
      obtain ⟨replacement, rebuilt, done⟩ := evolved
      exact ⟨_, .attemptOutcome requestId outcome replacement rebuilt, done⟩
    | effectDecodeOutcomeRecorded requestId outcome =>
      simp only [evolveEffect, bind_eq_ok, advance_eq_ok] at evolved
      obtain ⟨replacement, rebuilt, done⟩ := evolved
      exact ⟨_, .decodeOutcome requestId outcome replacement rebuilt, done⟩
    | effectResultAccepted requestId decodedOutcomeId =>
      simp only [evolveEffect, bind_eq_ok, advance_eq_ok] at evolved
      obtain ⟨replacement, rebuilt, done⟩ := evolved
      exact ⟨_, .resultAccepted requestId decodedOutcomeId replacement rebuilt, done⟩
  · rintro ⟨records, lawful, valid, rfl⟩
    cases lawful with
    | backlogEffect effect lawful =>
      simp only [evolveEffect, unit_bind_eq_ok, matching, advance_eq_ok]
      exact ⟨lawful, valid, trivial⟩
    | stepPlan plan lawful =>
      simp only [evolveEffect, unit_bind_eq_ok, matching, advance_eq_ok]
      exact ⟨lawful, valid, trivial⟩
    | requested request fresh planned =>
      simp only [evolveEffect, require_bind_eq_ok, advance_eq_ok]
      exact ⟨fresh, planned, valid, trivial⟩
    | attemptPlanned plan replacement rebuilt =>
      simp only [evolveEffect, bind_eq_ok, advance_eq_ok]
      exact ⟨replacement, rebuilt, valid, rfl⟩
    | attemptStarted attemptId replacement rebuilt =>
      simp only [evolveEffect, bind_eq_ok, advance_eq_ok]
      exact ⟨replacement, rebuilt, valid, rfl⟩
    | noAttemptDisposition disposition replacement rebuilt =>
      simp only [evolveEffect, bind_eq_ok, advance_eq_ok]
      exact ⟨replacement, rebuilt, valid, rfl⟩
    | attemptOutcome requestId outcome replacement rebuilt =>
      simp only [evolveEffect, bind_eq_ok, advance_eq_ok]
      exact ⟨replacement, rebuilt, valid, rfl⟩
    | decodeOutcome requestId outcome replacement rebuilt =>
      simp only [evolveEffect, bind_eq_ok, advance_eq_ok]
      exact ⟨replacement, rebuilt, valid, rfl⟩
    | resultAccepted requestId decodedOutcomeId replacement rebuilt =>
      simp only [evolveEffect, bind_eq_ok, advance_eq_ok]
      exact ⟨replacement, rebuilt, valid, rfl⟩

/-- The reducer accepts an event exactly when it is a lawful transition to a valid state. -/
theorem evolve_eq_ok {state next : InquiryState} {event : DomainEvent} :
    evolve state event = .ok next ↔ Transition state event.head event.body next ∧ AggregateValid next := by
  obtain ⟨head, body⟩ := event
  cases body with
  | inquiryStarted manifestArtifact policyVersion context =>
    simp only [evolve, require_bind_eq_ok, validateLifecycle_eq_ok]
    constructor
    · rintro ⟨unstarted, valid, rfl⟩
      exact ⟨.started manifestArtifact policyVersion context unstarted, valid⟩
    · rintro ⟨transition, valid⟩
      cases transition with
      | started _ _ _ unstarted => exact ⟨unstarted, valid, rfl⟩
  | effect event =>
    simp only [evolve, unit_bind_eq_ok, requireOwnEvent_eq_ok]
    constructor
    · rintro ⟨active, evolved⟩
      obtain ⟨records, lawful, valid, rfl⟩ := (evolveEffect_eq_ok active).mp evolved
      exact ⟨.effect event records active lawful, valid⟩
    · rintro ⟨transition, valid⟩
      cases transition with
      | effect _ records active lawful =>
        exact ⟨active, (evolveEffect_eq_ok active).mpr ⟨records, lawful, valid, rfl⟩⟩
  | claim event =>
    simp only [evolve, unit_bind_eq_ok, requireOwnEvent_eq_ok, matchingClaim_eq_ok, advance_eq_ok,
      EventBody.same]
    constructor
    · rintro ⟨active, ⟨-, expected, lawful, same⟩, valid, rfl⟩
      exact ⟨.claim event expected active lawful same, valid⟩
    · rintro ⟨transition, valid⟩
      cases transition with
      | claim _ expected active lawful same => exact ⟨active, ⟨active, expected, lawful, same⟩, valid, rfl⟩
  | warrant event =>
    simp only [evolve, unit_bind_eq_ok, requireOwnEvent_eq_ok, matchingWarrant_eq_ok, advance_eq_ok,
      EventBody.same, EventBody.warrant.injEq, decide_eq_true_eq]
    constructor
    · rintro ⟨active, ⟨-, expected, lawful, rfl⟩, valid, rfl⟩
      exact ⟨.warrant expected active lawful, valid⟩
    · rintro ⟨transition, valid⟩
      cases transition with
      | warrant _ active lawful => exact ⟨active, ⟨active, event, lawful, rfl⟩, valid, rfl⟩
  | probe event =>
    simp only [evolve, unit_bind_eq_ok, requireOwnEvent_eq_ok, matchingProbe_eq_ok, advance_eq_ok,
      EventBody.same]
    constructor
    · rintro ⟨active, ⟨-, expected, lawful, same⟩, valid, rfl⟩
      exact ⟨.probe event expected active lawful same, valid⟩
    · rintro ⟨transition, valid⟩
      cases transition with
      | probe _ expected active lawful same => exact ⟨active, ⟨active, expected, lawful, same⟩, valid, rfl⟩
  | memory event =>
    simp only [evolve, unit_bind_eq_ok, requireOwnEvent_eq_ok, matchingMemory_eq_ok, advance_eq_ok,
      EventBody.same, EventBody.memory.injEq, decide_eq_true_eq]
    constructor
    · rintro ⟨active, ⟨-, expected, lawful, rfl⟩, valid, rfl⟩
      exact ⟨.memory expected active lawful, valid⟩
    · rintro ⟨transition, valid⟩
      cases transition with
      | memory _ active lawful => exact ⟨active, ⟨active, event, lawful, rfl⟩, valid, rfl⟩
  | learning event =>
    simp only [evolve, unit_bind_eq_ok, requireOwnEvent_eq_ok, matchingLearning_eq_ok, advance_eq_ok,
      EventBody.same]
    constructor
    · rintro ⟨active, ⟨-, expected, lawful, same⟩, valid, rfl⟩
      exact ⟨.learning event expected active lawful same, valid⟩
    · rintro ⟨transition, valid⟩
      cases transition with
      | learning _ expected active lawful same => exact ⟨active, ⟨active, expected, lawful, same⟩, valid, rfl⟩
  | compression event =>
    simp only [evolve, unit_bind_eq_ok, requireOwnEvent_eq_ok, matchingCompression_eq_ok, advance_eq_ok,
      EventBody.same, EventBody.compression.injEq, decide_eq_true_eq]
    constructor
    · rintro ⟨active, ⟨-, expected, lawful, rfl⟩, valid, rfl⟩
      exact ⟨.compression expected active lawful, valid⟩
    · rintro ⟨transition, valid⟩
      cases transition with
      | compression _ active lawful => exact ⟨active, ⟨active, event, lawful, rfl⟩, valid, rfl⟩
  | project event =>
    simp only [evolve, unit_bind_eq_ok, requireOwnEvent_eq_ok, matchingProject_eq_ok, advance_eq_ok,
      EventBody.same, EventBody.project.injEq, decide_eq_true_eq]
    constructor
    · rintro ⟨active, ⟨-, expected, lawful, rfl⟩, valid, rfl⟩
      exact ⟨.project expected active lawful, valid⟩
    · rintro ⟨transition, valid⟩
      cases transition with
      | project _ active lawful => exact ⟨active, ⟨active, event, lawful, rfl⟩, valid, rfl⟩

end

end RatchetingInquiry
