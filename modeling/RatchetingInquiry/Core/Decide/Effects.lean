import RatchetingInquiry.Backlog.Apply
import RatchetingInquiry.Core.Commands

/-! Decisions over effect commands: backlog effects, step plans, requests, attempts, returns and their
interpretation. A decision is `none` for an exact repetition and the body of one event otherwise. -/

namespace RatchetingInquiry

/-- Accept a record by identity: an owned record is repeated or contradicted, a new one is judged. -/
def recordOnce {α β : Type} [RecordEq α] (existing : Option α) (record : α) (reused : String)
    (fresh : Except Failure β) : Except Failure (Option β) :=
  match existing with
  | some prior => if RecordEq.same prior record then .ok none else .error (.identityConflict reused)
  | none => fresh.map some

/-- A new event comes only from an identity that nothing owns. -/
theorem recordOnce_eq_some {α β : Type} [RecordEq α] {existing : Option α} {record : α} {reused : String}
    {fresh : Except Failure β} {event : β} :
    recordOnce existing record reused fresh = .ok (some event) ↔ existing = none ∧ fresh = .ok event := by
  cases existing with
  | none => cases fresh <;> simp [recordOnce, Except.map]
  | some prior =>
    simp only [recordOnce, reduceCtorEq, false_and, iff_false]
    split <;> simp

/-- A new step plan is judged by the context that it names and by the obligation that it selects. -/
def freshStepPlan [Fingerprints] (context : Option InquiryContext) (claims : ClaimRecords) (plan : StepPlan) :
    Except Failure EffectEvent := do
  require (context.any (fun context => plan.policyVersion = context.schedulerPolicyVersion))
    (.invalidCommand "step plan policy does not match the inquiry context")
  if plan.status = .ready then
    let obligation ← found (claims.obligationById (plan.selectedObligationId.getD ""))
      (.invalidCommand "ready step plan must select an owned obligation")
    let key ← found plan.selectedAttemptKey
      (.invalidCommand "ready step plan must select an owned obligation")
    require (claims.currentObligationStatus obligation.id = some .opened)
      (.invalidCommand "ready step plan must select an open obligation")
    require (key.obligationFingerprint = obligation.fingerprint ∧ key.bindingRevision = obligation.bindingRevision)
      (.invalidCommand "step plan attempt key does not match the exact obligation")
  return .stepPlanRecorded plan

def freshBacklogEffect (effects : EffectRecords) (effect : BacklogEffect) : Except Failure EffectEvent :=
  match effects.backlogEffects.foldlM (fun items prior => applyEffects items [prior]) [] >>= fun items =>
      applyEffects items [effect] with
  | .ok _ => .ok (.backlogEffectRecorded effect)
  | .error error => .error (.invalidCommand ("invalid backlog effect sequence: " ++ error.message))

/-- The plan selects an owned obligation by its exact fingerprint and binding. -/
def freshRequest [Fingerprints] (effects : EffectRecords) (claims : ClaimRecords) (request : EffectRequest) :
    Except Failure EffectEvent := do
  let plan ← found (effects.stepPlanById request.stepPlanId)
    (.effectLifecycle "an effect request requires a persisted step plan")
  require (plan.status = .ready) (.effectLifecycle "an effect request requires a ready step plan")
  let obligation ← found (claims.obligationById (plan.selectedObligationId.getD ""))
    (.effectLifecycle "effect request step plan does not own an exact obligation and attempt key")
  require (plan.selectedAttemptKey.any (fun key => key.obligationFingerprint = obligation.fingerprint &&
      key.bindingRevision = obligation.bindingRevision))
    (.effectLifecycle "effect request step plan does not own an exact obligation and attempt key")
  return .effectRequested request

/-- `_require_request`. -/
def requireRequest (effects : EffectRecords) (requestId : String) : Except Failure EffectRequestState :=
  found (effects.requestById requestId) (.invalidCommand ("unknown effect request: " ++ requestId))

def EffectRequestState.attemptById (request : EffectRequestState) (attemptId : String) : Option AttemptState :=
  request.attempts.find? (fun attempt => attempt.plan.id = attemptId)

/-- The request that planned an attempt. -/
def EffectRecords.containingRequest (effects : EffectRecords) (attemptId : String) : Option EffectRequestState :=
  effects.effectRequests.find? (fun request => request.attempts.any (fun attempt => attempt.plan.id = attemptId))

def decidePlanEffectAttempt (effects : EffectRecords) (plan : EffectAttemptPlan) :
    Except Failure (Option EffectEvent) := do
  let request ← requireRequest effects plan.requestId
  recordOnce ((effects.attempts.find? (fun attempt => attempt.plan.id = plan.id)).map (·.plan)) plan
    "attempt id was reused for a different plan" do
      require (request.acceptedDecodedOutcomeId = none)
        (.effectLifecycle "a resolved request cannot plan another attempt")
      return .effectAttemptPlanned plan

def decideStartEffectAttempt (effects : EffectRecords) (attemptId : String) :
    Except Failure (Option EffectEvent) := do
  let request ← found (effects.containingRequest attemptId)
    (.effectLifecycle "an attempt start requires a persisted attempt plan")
  let attempt ← found (request.attemptById attemptId)
    (.effectLifecycle "an attempt start requires a persisted attempt plan")
  if attempt.started then return none
  require (request.acceptedDecodedOutcomeId = none)
    (.effectLifecycle "a resolved request cannot start another attempt")
  require (attempt.outcome = none)
    (.effectLifecycle "an attempt cannot start after a terminal outcome")
  return some (.effectAttemptStarted attemptId)

def decideNoAttemptDisposition (effects : EffectRecords) (disposition : NoAttemptDisposition) :
    Except Failure (Option EffectEvent) := do
  let request ← requireRequest effects disposition.requestId
  require (disposition.stepPlanId = request.request.stepPlanId)
    (.effectLifecycle "a no-attempt disposition must reference its request's persisted step plan")
  recordOnce ((effects.effectRequests.flatMap (·.noAttemptDispositions)).find? (fun item => item.id = disposition.id))
    disposition "no-attempt disposition id was reused" do
      require (request.acceptedDecodedOutcomeId = none)
        (.effectLifecycle "a resolved request cannot record a new no-attempt disposition")
      return .effectNoAttemptDispositionRecorded disposition

def decideAttemptOutcome (effects : EffectRecords) (requestId : String) (outcome : AttemptOutcome) :
    Except Failure (Option EffectEvent) := do
  let request ← requireRequest effects requestId
  let attempt ← found (request.attemptById outcome.attemptId)
    (.effectLifecycle "an outcome requires a persisted attempt plan")
  require attempt.started (.effectLifecycle "an attempt must start before a terminal outcome")
  require (attempt.plan.route.id = outcome.routeId)
    (.effectLifecycle "outcome route does not match the attempt plan")
  match attempt.outcome with
  | some prior =>
    if prior = outcome then return none
    else throw (.effectLifecycle "an attempt can have only one terminal outcome")
  | none =>
    require (outcome.externalReturn?.all (fun captured => captured.id ∉ effects.capturedExternalReturnIds))
      (.identityConflict "external return id was already captured")
    return some (.effectAttemptOutcomeRecorded requestId outcome)

def decideDecodeOutcome (effects : EffectRecords) (requestId : String) (outcome : DecodeOutcome) :
    Except Failure (Option EffectEvent) := do
  let request ← requireRequest effects requestId
  recordOnce (effects.decodeOutcomes.find? (fun item => item.id = outcome.id)) outcome
    "decode outcome id was reused" do
      require (outcome.externalReturnId ∈ request.capturedReturnIds)
        (.effectLifecycle "a decode outcome requires this request's captured return")
      return .effectDecodeOutcomeRecorded requestId outcome

def decideAcceptEffectResult (effects : EffectRecords) (requestId decodedOutcomeId : String) :
    Except Failure (Option EffectEvent) := do
  let request ← requireRequest effects requestId
  match request.acceptedDecodedOutcomeId with
  | some accepted =>
    if accepted = decodedOutcomeId then return none
    else throw (.effectLifecycle "an effect request can accept at most one result")
  | none =>
    require ((request.decodeById decodedOutcomeId).any (fun decoded => decoded.result?.isSome))
      (.effectLifecycle "only a recorded successful Decoded outcome can be accepted")
    return some (.effectResultAccepted requestId decodedOutcomeId)

def decideEffect [Fingerprints] (state : InquiryState) : EffectCommand → Except Failure (Option EffectEvent)
  | .recordBacklogEffect effect => do
    require effect.kind.applicable (.invalidCommand "backlog effect close is proposal-only in G1")
    recordOnce (state.backlogEffectById effect.id) effect "backlog effect id was reused for different content"
      (freshBacklogEffect state.toEffectRecords effect)
  | .recordStepPlan plan =>
    recordOnce (state.stepPlanById plan.id) plan "step plan id was reused"
      (freshStepPlan state.context state.toClaimRecords plan)
  | .requestEffect request =>
    recordOnce ((state.requestById request.id).map (·.request)) request
      "effect request id was reused for different content"
      (freshRequest state.toEffectRecords state.toClaimRecords request)
  | .planEffectAttempt plan => decidePlanEffectAttempt state.toEffectRecords plan
  | .startEffectAttempt attemptId => decideStartEffectAttempt state.toEffectRecords attemptId
  | .recordNoAttemptDisposition disposition => decideNoAttemptDisposition state.toEffectRecords disposition
  | .recordAttemptOutcome requestId outcome => decideAttemptOutcome state.toEffectRecords requestId outcome
  | .recordDecodeOutcome requestId outcome => decideDecodeOutcome state.toEffectRecords requestId outcome
  | .acceptEffectResult requestId decodedOutcomeId =>
    decideAcceptEffectResult state.toEffectRecords requestId decodedOutcomeId

end RatchetingInquiry
