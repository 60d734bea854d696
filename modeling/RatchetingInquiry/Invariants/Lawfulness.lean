import RatchetingInquiry.Core.Rebuild
import RatchetingInquiry.Invariants.Effects

/-! Which events the reducer accepts that no command proposes. Most events are checked against the command
rebuilt from them; the effect lifecycle has guards of its own, and the guard of a request looks for its plan
without asking whether the plan is ready. -/

namespace RatchetingInquiry

/-- The command that an effect event answers. -/
def EffectEvent.command : EffectEvent → EffectCommand
  | .backlogEffectRecorded effect => .recordBacklogEffect effect
  | .stepPlanRecorded plan => .recordStepPlan plan
  | .effectRequested request => .requestEffect request
  | .effectAttemptPlanned plan => .planEffectAttempt plan
  | .effectAttemptStarted attemptId => .startEffectAttempt attemptId
  | .effectNoAttemptDispositionRecorded disposition => .recordNoAttemptDisposition disposition
  | .effectAttemptOutcomeRecorded requestId outcome => .recordAttemptOutcome requestId outcome
  | .effectDecodeOutcomeRecorded requestId outcome => .recordDecodeOutcome requestId outcome
  | .effectResultAccepted requestId decodedOutcomeId => .acceptEffectResult requestId decodedOutcomeId

/-- A requested effect belongs to a ready plan. -/
def DomainEvent.requestsReady (event : DomainEvent) (state : InquiryState) : Bool :=
  match event.body with
  | .effect (.effectRequested request) =>
    (state.stepPlanById request.stepPlanId).any (fun plan => plan.status = .ready)
  | _ => true

section
variable [Fingerprints] {state next : InquiryState}

theorem decideEffect_command (command : EffectCommand) :
    Returns (decideEffect state command) (fun decided => ∀ event ∈ decided, event.command = command) := by
  cases command with
  | recordBacklogEffect effect =>
    refine returns_bind fun _ => recordOnce_returns ?_
    unfold freshBacklogEffect
    split
    next => exact returns_pure rfl
    next => exact returns_error
  | recordStepPlan plan =>
    refine recordOnce_returns ?_
    unfold freshStepPlan
    refine returns_bind fun _ => ?_
    split
    next =>
      repeat refine returns_bind fun _ => ?_
      exact returns_pure rfl
    next => exact returns_pure rfl
  | requestEffect request =>
    refine recordOnce_returns ?_
    repeat refine returns_bind fun _ => ?_
    exact returns_pure rfl
  | planEffectAttempt plan =>
    refine returns_bind fun _ => recordOnce_returns ?_
    refine returns_bind fun _ => ?_
    exact returns_pure rfl
  | startEffectAttempt attemptId =>
    refine returns_bind fun _ => returns_bind fun attempt => ?_
    split
    next => exact returns_pure (by simp)
    next =>
      repeat refine returns_bind fun _ => ?_
      exact returns_pure (by simp [EffectEvent.command])
  | recordNoAttemptDisposition disposition =>
    refine returns_bind fun _ => returns_bind fun _ => recordOnce_returns ?_
    refine returns_bind fun _ => ?_
    exact returns_pure rfl
  | recordAttemptOutcome requestId outcome =>
    refine returns_bind fun _ => returns_bind fun _ => returns_bind fun _ => returns_bind fun _ => ?_
    split
    next =>
      split
      next => exact returns_pure (by simp)
      next => exact returns_error
    next =>
      refine returns_bind fun _ => ?_
      exact returns_pure (by simp [EffectEvent.command])
  | recordDecodeOutcome requestId outcome =>
    refine returns_bind fun _ => recordOnce_returns ?_
    refine returns_bind fun _ => ?_
    exact returns_pure rfl
  | acceptEffectResult requestId decodedOutcomeId =>
    refine returns_bind fun _ => ?_
    split
    next =>
      split
      next => exact returns_pure (by simp)
      next => exact returns_error
    next =>
      refine returns_bind fun _ => ?_
      exact returns_pure (by simp [EffectEvent.command])

theorem Proposed.effect_command {inquiryId : String} {command : CommandBody} {event : EffectEvent}
    (proposed : Proposed state inquiryId command (.effect event)) :
    command = .effect event.command ∧ decideEffect state event.command = .ok (some event) := by
  cases proposed with
  | effect command _ _ lawful =>
    rw [decideEffect_command command _ lawful _ rfl]
    exact ⟨rfl, lawful⟩

/-! The guards of the reducer imply those of the command side. -/

theorem requested_decided (valid : AggregateValid state) {request : EffectRequest}
    (fresh : state.requestById request.id = none)
    (ready : (state.stepPlanById request.stepPlanId).any (fun plan => plan.status = .ready)) :
    decideEffect state (.requestEffect request) = .ok (some (.effectRequested request)) := by
  rw [Option.any_eq_true] at ready
  obtain ⟨plan, hit, isReady⟩ := ready
  have status : plan.status = .ready := by simpa using isReady
  -- a recorded plan that is ready selects an owned obligation exactly
  have checked := valid.step_plans plan (List.mem_of_find?_eq_some hit)
  simp only [validateStepPlan, require_bind_eq_ok, if_pos status, found_bind_eq_ok, require_eq_ok] at checked
  obtain ⟨-, obligation, selected, key, keyed, exactly⟩ := checked
  have unique : (state.obligations.map Obligation.id).Nodup :=
    valid.identities_unique _ (by simp [identifiedCollections])
  rw [indexBy_eq_find unique] at selected
  refine recordOnce_eq_some.mpr ⟨by simp [fresh], ?_⟩
  simp only [freshRequest, found_bind_eq_ok, require_bind_eq_ok]
  exact ⟨plan, hit, status, obligation, selected, by simpa [keyed] using exactly, rfl⟩

theorem attemptPlanned_decided {plan : EffectAttemptPlan} {replacement : EffectRequestState}
    (rebuilt : evolveAttemptPlanned state.toEffectRecords plan = .ok replacement) :
    decideEffect state (.planEffectAttempt plan) = .ok (some (.effectAttemptPlanned plan)) := by
  simp only [evolveAttemptPlanned, found_bind_eq_ok, require_bind_eq_ok] at rebuilt
  obtain ⟨request, hit, unplanned, unresolved, -⟩ := rebuilt
  simp only [decideEffect, decidePlanEffectAttempt, requireRequest, found_bind_eq_ok, recordOnce_eq_some,
    require_bind_eq_ok]
  refine ⟨request, hit, ?_, unresolved, rfl⟩
  rw [Option.map_eq_none_iff, List.find?_eq_none]
  exact fun attempt member => by simpa using unplanned attempt member

theorem attemptStarted_decided (sound : EffectsSound state.toEffectRecords) {head : EventMetadata} {attemptId : String}
    {replacement : EffectRequestState}
    (rebuilt : evolveAttemptStarted state.toEffectRecords head attemptId = .ok replacement) :
    decideEffect state (.startEffectAttempt attemptId) = .ok (some (.effectAttemptStarted attemptId)) := by
  simp only [evolveAttemptStarted, found_bind_eq_ok, require_bind_eq_ok] at rebuilt
  obtain ⟨request, hit, attempt, attemptHit, unstarted, unresolved, -⟩ := rebuilt
  -- an attempt that did not start has no outcome
  have unended : attempt.outcome = none := by
    cases ended : attempt.outcome with
    | none => rfl
    | some outcome =>
      have started := ((sound.requests request (List.mem_of_find?_eq_some hit)).outcomes attempt
        (attemptById_some attemptHit).1 outcome ended).1
      rw [unstarted] at started
      simp at started
  simp only [decideEffect, decideStartEffectAttempt, found_bind_eq_ok]
  refine ⟨request, hit, attempt, attemptHit, ?_⟩
  simp only [unstarted, Bool.false_eq_true, if_false, require_bind_eq_ok]
  exact ⟨unresolved, unended, rfl⟩

theorem noAttemptDisposition_decided {disposition : NoAttemptDisposition} {replacement : EffectRequestState}
    (rebuilt : evolveNoAttemptDisposition state.toEffectRecords disposition = .ok replacement) :
    decideEffect state (.recordNoAttemptDisposition disposition) =
      .ok (some (.effectNoAttemptDispositionRecorded disposition)) := by
  simp only [evolveNoAttemptDisposition, found_bind_eq_ok, require_bind_eq_ok] at rebuilt
  obtain ⟨request, hit, planned, fresh, unresolved, -⟩ := rebuilt
  simp only [decideEffect, decideNoAttemptDisposition, requireRequest, found_bind_eq_ok, require_bind_eq_ok,
    recordOnce_eq_some]
  refine ⟨request, hit, planned, ?_, unresolved, rfl⟩
  rw [List.find?_eq_none]
  intro prior member
  obtain ⟨item, owned, recorded⟩ := List.mem_flatMap.mp member
  simpa using fresh item owned prior recorded

theorem decodeOutcome_decided {requestId : String} {outcome : DecodeOutcome} {replacement : EffectRequestState}
    (rebuilt : evolveDecodeOutcome state.toEffectRecords requestId outcome = .ok replacement) :
    decideEffect state (.recordDecodeOutcome requestId outcome) =
      .ok (some (.effectDecodeOutcomeRecorded requestId outcome)) := by
  simp only [evolveDecodeOutcome, found_bind_eq_ok, require_bind_eq_ok] at rebuilt
  obtain ⟨request, hit, fresh, captured, -⟩ := rebuilt
  simp only [decideEffect, decideDecodeOutcome, requireRequest, found_bind_eq_ok, recordOnce_eq_some,
    require_bind_eq_ok]
  refine ⟨request, hit, ?_, captured, rfl⟩
  rw [List.find?_eq_none]
  exact fun item member => by simpa using fresh item member

theorem resultAccepted_decided {requestId decodedOutcomeId : String} {replacement : EffectRequestState}
    (rebuilt : evolveResultAccepted state.toEffectRecords requestId decodedOutcomeId = .ok replacement) :
    decideEffect state (.acceptEffectResult requestId decodedOutcomeId) =
      .ok (some (.effectResultAccepted requestId decodedOutcomeId)) := by
  simp only [evolveResultAccepted, found_bind_eq_ok, require_bind_eq_ok] at rebuilt
  obtain ⟨request, hit, unresolved, decoded, -⟩ := rebuilt
  simp only [decideEffect, decideAcceptEffectResult, requireRequest, found_bind_eq_ok]
  refine ⟨request, hit, ?_⟩
  simp only [unresolved, require_bind_eq_ok]
  exact ⟨decoded, rfl⟩

omit [Fingerprints] in
/-- A return that the next state captures once was not captured before. -/
theorem returned_fresh (sound : EffectsSound state.toEffectRecords) (unique : next.capturedExternalReturnIds.Nodup)
    (continued : EffectsContinue state.toEffectRecords next.toEffectRecords) {attempt later : AttemptState}
    {captured : ExternalReturn} (owned : attempt ∈ state.attempts) (unended : attempt.outcome = none)
    (laterOwned : later ∈ next.attempts) (returned : later.outcome = some (.returned captured))
    (names : captured.attemptId = attempt.plan.id) : captured.id ∉ state.capturedExternalReturnIds := by
  intro repeated
  obtain ⟨earlier, earlierCaptured, sameId⟩ := List.mem_map.mp repeated
  obtain ⟨request, requestOwned, capturedThere⟩ := List.mem_flatMap.mp earlierCaptured
  obtain ⟨other, otherOwned, otherReturned⟩ := List.mem_filterMap.mp capturedThere
  obtain ⟨outcome, recorded, isReturn⟩ := Option.bind_eq_some_iff.mp otherReturned
  obtain rfl : outcome = .returned earlier := by
    cases outcome <;> simp_all [AttemptOutcome.externalReturn?]
  -- the earlier capture is still there, so both captures are one
  obtain ⟨after, afterOwned, goesOn⟩ := continued request requestOwned
  obtain ⟨still, stillOwned, kept⟩ := goesOn.attempts other otherOwned
  have stillCaptured : earlier ∈ next.capturedReturns := List.mem_flatMap.mpr ⟨after, afterOwned,
    List.mem_filterMap.mpr ⟨still, stillOwned, by simp [kept.outcome _ recorded, AttemptOutcome.externalReturn?]⟩⟩
  obtain ⟨holder, holderOwned, laterThere⟩ := List.mem_flatMap.mp laterOwned
  have nowCaptured : captured ∈ next.capturedReturns := List.mem_flatMap.mpr ⟨holder, holderOwned,
    List.mem_filterMap.mpr ⟨later, laterThere, by simp [returned, AttemptOutcome.externalReturn?]⟩⟩
  obtain rfl : earlier = captured := List.inj_on_of_nodup_map unique stillCaptured nowCaptured sameId
  have otherNames := ((sound.requests request requestOwned).outcomes other otherOwned _ recorded).2.1
  have same : other = attempt := List.inj_on_of_nodup_map sound.attempt_ids
    (List.mem_flatMap.mpr ⟨request, requestOwned, otherOwned⟩) owned (otherNames.symm.trans names)
  rw [same, unended] at recorded
  simp at recorded

theorem attemptOutcome_decided (sound : EffectsSound state.toEffectRecords)
    (unique : next.capturedExternalReturnIds.Nodup)
    (continued : EffectsContinue state.toEffectRecords next.toEffectRecords) {requestId : String}
    {outcome : AttemptOutcome} {replacement : EffectRequestState}
    (rebuilt : evolveAttemptOutcome state.toEffectRecords requestId outcome = .ok replacement)
    (records : next.effectRequests = state.replaceRequest replacement) :
    decideEffect state (.recordAttemptOutcome requestId outcome) =
      .ok (some (.effectAttemptOutcomeRecorded requestId outcome)) := by
  simp only [evolveAttemptOutcome, found_bind_eq_ok, require_bind_eq_ok] at rebuilt
  obtain ⟨request, hit, attempt, attemptHit, started, unended, route, rebuilt⟩ := rebuilt
  obtain ⟨replacement_is, -⟩ := rebuildRequest_built rebuilt
  obtain ⟨owned, -⟩ := requestById_some hit
  obtain ⟨attemptOwned, names⟩ := attemptById_some attemptHit
  simp only [decideEffect, decideAttemptOutcome, requireRequest, found_bind_eq_ok, require_bind_eq_ok]
  refine ⟨request, hit, attempt, attemptHit, started, route, ?_⟩
  simp only [unended, require_bind_eq_ok]
  refine ⟨?_, rfl⟩
  cases outcome with
  | returned captured =>
    have replaced : { attempt with outcome := some (.returned captured) } ∈ next.attempts := by
      refine List.mem_flatMap.mpr ⟨replacement, ?_, ?_⟩
      · rw [records]
        exact List.mem_map.mpr ⟨request, owned, if_pos (by rw [replacement_is])⟩
      · rw [replacement_is]
        exact List.mem_map.mpr ⟨attempt, attemptOwned, if_pos rfl⟩
    have listed : attempt ∈ state.attempts := List.mem_flatMap.mpr ⟨request, owned, attemptOwned⟩
    have fresh := returned_fresh sound unique continued listed unended replaced rfl names.symm
    simpa [AttemptOutcome.externalReturn?] using fresh
  | _ => simp [AttemptOutcome.externalReturn?]

/-- An accepted effect event answers its command, when a requested effect belongs to a ready plan. -/
theorem EffectStep.decided {head : EventMetadata} {event : EffectEvent} (valid : AggregateValid state)
    (sound : EffectsSound state.toEffectRecords) (unique : next.capturedExternalReturnIds.Nodup)
    (continued : EffectsContinue state.toEffectRecords next.toEffectRecords)
    (step : EffectStep state head event next.toEffectRecords)
    (ready : DomainEvent.requestsReady ⟨head, .effect event⟩ state) :
    decideEffect state event.command = .ok (some event) := by
  generalize records : next.toEffectRecords = after at step
  cases step with
  | backlogEffect effect lawful => exact lawful
  | stepPlan plan lawful => exact lawful
  | requested request fresh => exact requested_decided valid fresh ready
  | attemptPlanned plan replacement rebuilt => exact attemptPlanned_decided rebuilt
  | attemptStarted attemptId replacement rebuilt => exact attemptStarted_decided sound rebuilt
  | noAttemptDisposition disposition replacement rebuilt => exact noAttemptDisposition_decided rebuilt
  | attemptOutcome requestId outcome replacement rebuilt =>
    exact attemptOutcome_decided sound unique continued rebuilt (congrArg EffectRecords.effectRequests records)
  | decodeOutcome requestId outcome replacement rebuilt => exact decodeOutcome_decided rebuilt
  | resultAccepted requestId decodedOutcomeId replacement rebuilt => exact resultAccepted_decided rebuilt

/-! An accepted event of another area is exactly what its rebuilt command decides. -/

omit [Fingerprints] in
/-- Lists are equal when the source takes them for equal and each record is taken for equal to itself only. -/
theorem eq_of_same_list {α : Type} [RecordEq α] {left right : List α}
    (exactly : ∀ record ∈ left, ∀ other, RecordEq.same record other = true → record = other)
    (same : RecordEq.same left right = true) : left = right := by
  simp only [RecordEq.same, Bool.and_eq_true, decide_eq_true_eq] at same
  induction left generalizing right with
  | nil => exact (List.length_eq_zero_iff.mp same.1.symm).symm
  | cons record rest ih =>
    cases right with
    | nil => simp at same
    | cons other others =>
      obtain ⟨lengths, records⟩ := same
      simp only [List.zip_cons_cons, List.all_cons, Bool.and_eq_true] at records
      have first := exactly record List.mem_cons_self other records.1
      have later := ih (fun item member => exactly item (List.mem_cons_of_mem _ member))
        ⟨by simpa using lengths, records.2⟩
      rw [first, later]

omit [Fingerprints] in
theorem eq_of_same_text {argument other : BoundArgument} {text : String} (textual : argument.value = .text text)
    (same : RecordEq.same argument other = true) : argument = other := by
  obtain ⟨name, value⟩ := argument
  obtain ⟨otherName, otherValue⟩ := other
  simp only at textual
  subst textual
  simp only [RecordEq.same, Bool.and_eq_true, decide_eq_true_eq, JsonValue.numeric] at same
  obtain ⟨rfl, numeric⟩ := same
  cases otherValue with
  | text other =>
    have equal := of_decide_eq_true numeric
    simp only [JsonValue.numeric] at equal
    rw [equal]
  | float negative magnitude =>
    simp only [JsonValue.numeric] at numeric
    split at numeric <;> simp at numeric
  | _ => simp [JsonValue.numeric] at numeric

omit [Fingerprints] in
/-- An obligation whose arguments are texts is taken for equal to itself only. -/
theorem eq_of_same_obligation {obligation other : Obligation}
    (textual : ∀ argument ∈ obligation.args, ∃ text, argument.value = .text text)
    (same : RecordEq.same obligation other = true) : obligation = other := by
  simp only [RecordEq.same, Bool.and_eq_true, decide_eq_true_eq] at same
  obtain ⟨argsSame, restSame⟩ := same
  have args : obligation.args = other.args := by
    refine eq_of_same_list ?_ (by simpa [RecordEq.same] using argsSame)
    intro argument member otherArgument
    obtain ⟨text, isText⟩ := textual argument member
    exact eq_of_same_text isText
  rw [← restSame]
  cases obligation
  simp only at args
  subst args
  rfl

theorem derivedObligations_textual {claim : Claim} {obligation : Obligation}
    (derived : obligation ∈ derivedObligations state claim) :
    ∀ argument ∈ obligation.args, ∃ text, argument.value = .text text := by
  rw [derivedObligations, List.mem_insertionSort] at derived
  rcases List.mem_append.mp (freshBy_subset derived) with attack | conflict
  · rw [Option.mem_toList, pendingAttack] at attack
    split at attack
    next => simp at attack
    next =>
      unfold mandatoryAttackObligation at attack
      split at attack
      next => simp at attack
      next kind _ =>
        split at attack
        next => simp at attack
        next =>
          obtain rfl := Option.some.inj attack
          simp
  · obtain ⟨source, -, rfl⟩ := List.mem_map.mp conflict
    simp [conflictObligation]

theorem decideClaim_exact {event expected : ClaimEvent} (lawful : decideClaim state event.command = .ok (some expected))
    (same : expected.same event) : expected = event := by
  have commands := decideClaim_command event.command _ lawful expected rfl
  cases event with
  | claimAdmitted claim conflicts obligations =>
    obtain rfl := admitClaim_event lawful
    simp only [ClaimEvent.same, Bool.and_eq_true, decide_eq_true_eq] at same
    obtain ⟨⟨-, rfl⟩, obligationsSame⟩ := same
    rw [eq_of_same_list (fun _ derived _ => eq_of_same_obligation (derivedObligations_textual derived)) obligationsSame]
  | _ => cases expected <;> simp_all [ClaimEvent.command]

theorem decideProbe_exact {event expected : ProbeDomainEvent}
    (lawful : decideProbe state event.command = .ok (some expected)) : expected = event := by
  have commands := decideProbe_command event.command _ lawful expected rfl
  cases event <;> cases expected <;> simp_all [ProbeDomainEvent.command]

theorem decideLearning_exact {event expected : LearningEvent}
    (lawful : decideLearning state event.command = .ok (some expected)) : expected = event := by
  have commands := decideLearning_command event.command _ lawful expected rfl
  cases event <;> cases expected <;> simp_all [LearningEvent.command]

/-- An accepted event is proposed by a command, when a requested effect belongs to a ready plan. -/
theorem Transition.decided {head : EventMetadata} {body : EventBody} (replayed : Replayable state)
    (transition : Transition state head body next) (valid : AggregateValid next)
    (ready : DomainEvent.requestsReady ⟨head, body⟩ state) :
    ∃ command, decideBody state head.inquiryId command = .ok (some body) := by
  have evolved : evolve state ⟨head, body⟩ = .ok next := evolve_eq_ok.mpr ⟨transition, valid⟩
  have continued := effectsContinue_run replayed (.single ⟨⟨head, body⟩, evolved⟩)
  cases transition with
  | started manifestArtifact policyVersion context unstarted =>
    exact ⟨.startInquiry manifestArtifact policyVersion context, by simp [decideBody, decideStart, unstarted]⟩
  | effect event records active step =>
    have decided := step.decided replayed.aggregateValid replayed.effectsSound valid.effect_ids.2.2.1 continued ready
    exact ⟨.effect event.command, activeDecision_eq_some.mpr ⟨active, event, decided, rfl⟩⟩
  | claim event expected active lawful same =>
    obtain rfl := decideClaim_exact lawful same
    exact ⟨.claim expected.command, activeDecision_eq_some.mpr ⟨active, expected, lawful, rfl⟩⟩
  | warrant event active lawful =>
    exact ⟨.warrant event.command, activeDecision_eq_some.mpr ⟨active, event, lawful, rfl⟩⟩
  | probe event expected active lawful =>
    obtain rfl := decideProbe_exact lawful
    exact ⟨.probe expected.command, activeDecision_eq_some.mpr ⟨active, expected, lawful, rfl⟩⟩
  | memory event active lawful =>
    exact ⟨.memory event.command, activeDecision_eq_some.mpr ⟨active, event, lawful, rfl⟩⟩
  | learning event expected active lawful =>
    obtain rfl := decideLearning_exact lawful
    exact ⟨.learning expected.command, activeDecision_eq_some.mpr ⟨active, expected, lawful, rfl⟩⟩
  | compression event active lawful =>
    exact ⟨.compression event.command, activeDecision_eq_some.mpr ⟨active, event, lawful, rfl⟩⟩
  | project event active lawful =>
    exact ⟨.project event.command, activeDecision_eq_some.mpr ⟨active, event, lawful, rfl⟩⟩

/-- A proposed request belongs to a ready plan. -/
theorem Proposed.requestsReady {head : EventMetadata} {command : CommandBody} {body : EventBody}
    (proposed : Proposed state head.inquiryId command body) :
    DomainEvent.requestsReady ⟨head, body⟩ state = true := by
  cases proposed with
  | effect command event active lawful =>
    cases event with
    | effectRequested request =>
      obtain rfl := decideEffect_command command _ lawful _ rfl
      have judged := (recordOnce_eq_some.mp lawful).2
      simp only [freshRequest, found_bind_eq_ok, require_bind_eq_ok] at judged
      obtain ⟨plan, hit, isReady, -⟩ := judged
      simp [DomainEvent.requestsReady, hit, isReady]
    | _ => rfl
  | _ => rfl

/-- Apply events one after another, as long as each request among them belongs to a ready plan. -/
inductive ReplayedReady : List DomainEvent → InquiryState → Prop
  | none : ReplayedReady [] initialState
  | more (events : List DomainEvent) (state next : InquiryState) (event : DomainEvent)
      (earlier : ReplayedReady events state) (ready : event.requestsReady state)
      (evolved : evolve state event = .ok next) : ReplayedReady (events ++ [event]) next

/-- An event that the reducer accepts is decided by some command exactly when it is not a request for a plan
that is not ready. Replays of such events lead only where commands lead. -/
theorem event_lawful :
    (∀ state event next, Reachable state → evolve state event = .ok next →
      ((∃ command, decide state command = .ok [event]) ↔ event.requestsReady state)) ∧
    ∀ events state, ReplayedReady events state → Reachable state := by
  have lawful : ∀ state event next, Reachable state → evolve state event = .ok next →
      event.requestsReady state → ∃ command, decide state command = .ok [event] := by
    intro state event next reached evolved ready
    obtain ⟨transition, valid⟩ := evolve_eq_ok.mp evolved
    obtain ⟨command, decided⟩ := transition.decided reached.replayable valid ready
    exact ⟨⟨event.head, command⟩, decide_singleton.mpr ⟨rfl, decided⟩⟩
  constructor
  · intro state event next reached evolved
    constructor
    · intro proposed
      obtain ⟨command, decided⟩ := proposed
      obtain ⟨head, body⟩ := decide_singleton.mp decided
      rw [← head] at body
      exact (decideBody_proposed body).requestsReady
    · exact lawful state event next reached evolved
  · intro events state replayed
    induction replayed with
    | none => exact .refl
    | more events state next event _ ready evolved ih =>
      obtain ⟨command, decided⟩ := lawful state event next ih evolved ready
      exact ih.tail ⟨command, applyCommand_eq_ok.mpr (.inr ⟨event, decided, evolved⟩)⟩

end

/-! The worked inquiry has nothing left to do; a request for that plan is not proposed, yet accepted. -/

namespace Worked

def satisfiedPlan : StepPlan where
  id := "plan"
  inputFingerprint := "input"
  policyVersion := "scheduler"
  status := .satisfied
  reason := .noOpenObligation
  remainingBudget := 1
  ready_selects := by simp

def requestedEffect : DomainEvent where
  head := ⟨"event", "inquiry", 0⟩
  body := .effect (.effectRequested {
    id := "request"
    stepPlanId := "plan"
    effectKind := "question"
    adapterId := "adapter"
    inputArtifact := artifact "input" })

def nothingToDo : InquiryState := reached [start, .effect (.recordStepPlan satisfiedPlan)]

def readyToAsk : InquiryState := reached planned

theorem exists_next {state : InquiryState} {event : DomainEvent}
    (accepted : (evolve state event).toOption.isSome = true) : ∃ next, evolve state event = .ok next := by
  cases evolved : evolve state event with
  | ok next => exact ⟨next, rfl⟩
  | error failure => simp [evolved, Except.toOption] at accepted

/-- A request for the ready plan is what a command proposes. -/
theorem readyToAsk_lawful : ∃ command, decide readyToAsk command = .ok [requestedEffect] := by
  have accepted : (evolve readyToAsk requestedEffect).toOption.isSome = true := by decide +kernel
  have ready : requestedEffect.requestsReady readyToAsk = true := by decide +kernel
  obtain ⟨next, evolved⟩ := exists_next accepted
  exact (event_lawful.1 readyToAsk requestedEffect next (reachable_reached planned) evolved).mpr ready

theorem nothingToDo_unlawful : ¬ ∀ state event next, Reachable state → evolve state event = .ok next →
    ∃ command, decide state command = .ok [event] := by
  intro claimed
  have accepted : (evolve nothingToDo requestedEffect).toOption.isSome = true := by decide +kernel
  have unready : requestedEffect.requestsReady nothingToDo = false := by decide +kernel
  obtain ⟨next, evolved⟩ := exists_next accepted
  obtain ⟨command, decided⟩ := claimed nothingToDo requestedEffect next (reachable_reached _) evolved
  obtain ⟨head, body⟩ := decide_singleton.mp decided
  rw [← head] at body
  have ready := (decideBody_proposed body).requestsReady
  rw [show DomainEvent.mk requestedEffect.head requestedEffect.body = requestedEffect from rfl, unready] at ready
  simp at ready

end Worked

end RatchetingInquiry
