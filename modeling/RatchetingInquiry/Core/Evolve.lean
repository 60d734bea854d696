import RatchetingInquiry.Core.Apply
import RatchetingInquiry.Core.Validate

/-! The deterministic reducer. An event other than those of the effect lifecycle is lawful when the
command rebuilt from it decides to that same event; the effect lifecycle has guards of its own. Every
step ends with the aggregate check. -/

namespace RatchetingInquiry

/-- `_replace_request`. -/
def EffectRecords.replaceRequest (effects : EffectRecords) (replacement : EffectRequestState) :
    List EffectRequestState :=
  effects.effectRequests.map (fun item => if item.request.id = replacement.request.id then replacement else item)

/-- A request is rebuilt through the validators of its attempts and of itself. -/
def rebuildRequest (request : EffectRequestState) : Except Failure EffectRequestState := do
  request.attempts.forM (fun attempt => attempt.validateLifecycle.map (fun _ => ()))
  request.validateCardinalities

def evolveAttemptPlanned (effects : EffectRecords) (plan : EffectAttemptPlan) :
    Except Failure EffectRequestState := do
  let request ← found (effects.requestById plan.requestId)
    (.invalidTransition "attempt plan references an unknown request")
  require (∀ attempt ∈ effects.attempts, attempt.plan.id ≠ plan.id)
    (.invalidTransition "duplicate attempt plan event")
  require (request.acceptedDecodedOutcomeId = none)
    (.invalidTransition "resolved requests cannot gain attempts")
  rebuildRequest { request with attempts := request.attempts ++ [{ plan := plan }] }

/-- The attempt with the start metadata of the event that started it, and without any outcome. -/
def AttemptState.start (attempt : AttemptState) (head : EventMetadata) : AttemptState where
  plan := attempt.plan
  started := true
  startedEventId := some head.eventId
  startedAt := some head.occurredAt

def evolveAttemptStarted (effects : EffectRecords) (head : EventMetadata) (attemptId : String) :
    Except Failure EffectRequestState := do
  let request ← found (effects.containingRequest attemptId)
    (.invalidTransition "attempt start references an unknown attempt")
  let attempt ← found (request.attemptById attemptId)
    (.invalidTransition "attempt start references an unknown attempt")
  require (attempt.started = false) (.invalidTransition "attempt already has start metadata")
  require (request.acceptedDecodedOutcomeId = none)
    (.invalidTransition "a resolved request cannot start another attempt")
  rebuildRequest { request with
    attempts := request.attempts.map (fun item => if item.plan.id = attemptId then item.start head else item) }

def evolveNoAttemptDisposition (effects : EffectRecords) (disposition : NoAttemptDisposition) :
    Except Failure EffectRequestState := do
  let request ← found (effects.requestById disposition.requestId)
    (.invalidTransition "no-attempt disposition references an unknown request")
  require (disposition.stepPlanId = request.request.stepPlanId)
    (.invalidTransition "no-attempt disposition references a different persisted step plan")
  require (∀ item ∈ effects.effectRequests, ∀ prior ∈ item.noAttemptDispositions, prior.id ≠ disposition.id)
    (.invalidTransition "duplicate no-attempt disposition event")
  require (request.acceptedDecodedOutcomeId = none)
    (.invalidTransition "resolved requests cannot gain no-attempt dispositions")
  rebuildRequest { request with noAttemptDispositions := request.noAttemptDispositions ++ [disposition] }

def evolveAttemptOutcome (effects : EffectRecords) (requestId : String) (outcome : AttemptOutcome) :
    Except Failure EffectRequestState := do
  let request ← found (effects.requestById requestId)
    (.invalidTransition "attempt outcome references an unknown request")
  let attempt ← found (request.attemptById outcome.attemptId)
    (.invalidTransition "attempt outcome references an unknown attempt")
  require attempt.started (.invalidTransition "attempt outcome precedes attempt start")
  require (attempt.outcome = none) (.invalidTransition "an attempt already has an outcome")
  require (attempt.plan.route.id = outcome.routeId) (.invalidTransition "attempt outcome route mismatch")
  rebuildRequest { request with
    attempts := request.attempts.map (fun item =>
      if item.plan.id = attempt.plan.id then { item with outcome := some outcome } else item) }

def evolveDecodeOutcome (effects : EffectRecords) (requestId : String) (outcome : DecodeOutcome) :
    Except Failure EffectRequestState := do
  let request ← found (effects.requestById requestId)
    (.invalidTransition "decode outcome references an unknown request")
  require (∀ item ∈ effects.decodeOutcomes, item.id ≠ outcome.id)
    (.invalidTransition "duplicate decode outcome event")
  require (outcome.externalReturnId ∈ request.capturedReturnIds)
    (.invalidTransition "decode outcome has no captured external return")
  rebuildRequest { request with decodeOutcomes := request.decodeOutcomes ++ [outcome] }

def evolveResultAccepted (effects : EffectRecords) (requestId decodedOutcomeId : String) :
    Except Failure EffectRequestState := do
  let request ← found (effects.requestById requestId)
    (.invalidTransition "accepted result references an unknown request")
  require (request.acceptedDecodedOutcomeId = none)
    (.invalidTransition "an effect request already accepted a result")
  require ((request.decodeById decodedOutcomeId).any (fun decoded => decoded.result?.isSome))
    (.invalidTransition "accepted result must reference a successful decode")
  rebuildRequest { request with acceptedDecodedOutcomeId := some decodedOutcomeId }

section
variable [Fingerprints]

/-- `_advance_domain_state`: the next state, one event later, after the aggregate check. -/
def InquiryState.advance (state : InquiryState) (next : InquiryState) : Except Failure InquiryState :=
  InquiryState.validateLifecycle { next with sequence := state.sequence + 1 }

/-- `_require_matching_decision`. -/
def requireMatchingDecision (state : InquiryState) (event : DomainEvent) (command : CommandBody) :
    Except Failure Unit :=
  match decide state ⟨event.head, command⟩ with
  | .error failure => .error (if failure.isDomainError then .invalidTransition failure.message else failure)
  | .ok expected =>
    require (RecordEq.same expected [event])
      (.invalidTransition "domain event does not match the lawful command consequence")

/-- The state after a rebuilt request replaced its predecessor. -/
def InquiryState.withRequest (state : InquiryState) (replacement : EffectRequestState) : InquiryState :=
  { state with effectRequests := state.replaceRequest replacement }

def evolveEffect (state : InquiryState) (head : EventMetadata) (event : EffectEvent) :
    Except Failure InquiryState :=
  match event with
  | .backlogEffectRecorded effect => do
    requireMatchingDecision state ⟨head, .effect event⟩ (.effect (.recordBacklogEffect effect))
    state.advance { state with backlogEffects := state.backlogEffects ++ [effect] }
  | .stepPlanRecorded plan => do
    requireMatchingDecision state ⟨head, .effect event⟩ (.effect (.recordStepPlan plan))
    state.advance { state with stepPlans := state.stepPlans ++ [plan] }
  | .effectRequested request => do
    require (state.requestById request.id = none) (.invalidTransition "duplicate effect request event")
    require (state.stepPlanById request.stepPlanId).isSome
      (.invalidTransition "effect request references an unknown step plan")
    state.advance { state with effectRequests := state.effectRequests ++ [{ request := request }] }
  | .effectAttemptPlanned plan => do
    state.advance (state.withRequest (← evolveAttemptPlanned state.toEffectRecords plan))
  | .effectAttemptStarted attemptId => do
    state.advance (state.withRequest (← evolveAttemptStarted state.toEffectRecords head attemptId))
  | .effectNoAttemptDispositionRecorded disposition => do
    state.advance (state.withRequest (← evolveNoAttemptDisposition state.toEffectRecords disposition))
  | .effectAttemptOutcomeRecorded requestId outcome => do
    state.advance (state.withRequest (← evolveAttemptOutcome state.toEffectRecords requestId outcome))
  | .effectDecodeOutcomeRecorded requestId outcome => do
    state.advance (state.withRequest (← evolveDecodeOutcome state.toEffectRecords requestId outcome))
  | .effectResultAccepted requestId decodedOutcomeId => do
    state.advance (state.withRequest (← evolveResultAccepted state.toEffectRecords requestId decodedOutcomeId))

/-- The first state of an inquiry. -/
def startedState (head : EventMetadata) (manifestArtifact : ArtifactRef) (policyVersion : String)
    (context : InquiryContext) : InquiryState :=
  { initialState with
    status := .active
    inquiryId := some head.inquiryId
    sequence := 1
    manifestArtifact := some manifestArtifact
    policyVersion := some policyVersion
    context := some context }

/-- The event belongs to this active inquiry. -/
def requireOwnEvent (state : InquiryState) (event : DomainEvent) : Except Failure Unit :=
  require (state.status = .active ∧ state.inquiryId = some event.head.inquiryId)
    (.invalidTransition "event inquiry id does not match an active aggregate")

/-- Apply one event as a deterministic reducer. -/
def evolve (state : InquiryState) (event : DomainEvent) : Except Failure InquiryState :=
  match event.body with
  | .inquiryStarted manifestArtifact policyVersion context => do
    require (state.status = .notStarted)
      (.invalidTransition "InquiryStarted can only evolve an empty aggregate")
    (startedState event.head manifestArtifact policyVersion context).validateLifecycle
  | .effect body => do
    requireOwnEvent state event
    evolveEffect state event.head body
  | .claim body => do
    requireOwnEvent state event
    requireMatchingDecision state event (.claim body.command)
    state.advance { state with toClaimRecords := state.toClaimRecords.apply body }
  | .warrant body => do
    requireOwnEvent state event
    requireMatchingDecision state event (.warrant body.command)
    state.advance { state with toWarrantRecords := state.toWarrantRecords.apply body }
  | .probe body => do
    requireOwnEvent state event
    requireMatchingDecision state event (.probe body.command)
    state.advance { state with toProbeRecords := state.toProbeRecords.apply body }
  | .memory body => do
    requireOwnEvent state event
    requireMatchingDecision state event (.memory body.command)
    state.advance (state.applyMemory body)
  | .learning body => do
    requireOwnEvent state event
    requireMatchingDecision state event (.learning body.command)
    state.advance (state.applyLearning body)
  | .compression body => do
    requireOwnEvent state event
    requireMatchingDecision state event (.compression body.command)
    state.advance { state with toCompressionRecords := state.toCompressionRecords.apply body }
  | .project body => do
    requireOwnEvent state event
    requireMatchingDecision state event (.project body.command)
    state.advance { state with toProjectRecords := state.toProjectRecords.apply body }

end

end RatchetingInquiry
