import RatchetingInquiry.Orchestration.Scheduler
import RatchetingInquiry.Sdk.Questions
import RatchetingInquiry.Sdk.Store

/-! One step of an inquiry: a pending manual request is presented again, otherwise the scheduler selects an obligation
and its question is requested. -/

namespace RatchetingInquiry

inductive StepStatus where
  | needsInput | satisfied | active | unknown
deriving DecidableEq

structure StepResult where
  inquiryId : String
  status : StepStatus
  sequence : Nat
  requestId : Option String := none
  prompt : Option String := none
deriving DecidableEq

/-- The count of a key, added to what it was before. -/
def AttemptCounts.add (counts : AttemptCounts) (key : AttemptKey) (count : Nat) : AttemptCounts where
  entries :=
    if key ∈ counts.entries.map Prod.fst then
      counts.entries.map (fun entry => if entry.1 = key then (entry.1, entry.2 + count) else entry)
    else counts.entries ++ [(key, (count : Int))]
  keys_distinct := by
    split
    next listed =>
      have same : (Prod.fst ∘ fun entry : AttemptKey × Int => if entry.1 = key then (entry.1, entry.2 + count) else entry) =
          Prod.fst := by
        funext entry
        rw [Function.comp_apply]
        split <;> rfl
      rw [List.map_map, same]
      exact counts.keys_distinct
    next unlisted =>
      rw [List.map_append, List.nodup_append]
      refine ⟨counts.keys_distinct, List.nodup_singleton key, ?_⟩
      intro listed member other single same
      rw [same, List.mem_singleton.mp single] at member
      exact unlisted member

/-- A request for a manual answer. -/
def EffectRequestState.isManual (state : EffectRequestState) : Bool :=
  state.request.effectKind = "semantic.manual_answer"

/-- A manual request without an accepted answer that has a started attempt without an outcome. -/
def EffectRequestState.isPendingManual (state : EffectRequestState) : Bool :=
  state.isManual && state.acceptedDecodedOutcomeId.isNone &&
    state.attempts.any (fun attempt => attempt.started && attempt.outcome.isNone)

/-- A manual request whose answer was captured and not accepted. -/
def EffectRequestState.isUnresolvedReturn (state : EffectRequestState) : Bool :=
  state.isManual && state.acceptedDecodedOutcomeId.isNone &&
    state.attempts.any (fun attempt => (attempt.outcome.bind AttemptOutcome.externalReturn?).isSome)

namespace RCI

section
variable [ByteFacts]

/-- `_question_envelope_for_request`. -/
def questionEnvelopeForRequest (request : EffectRequest) : SdkProgram QuestionEnvelope := do
  let data ← getBytes request.inputArtifact
  let envelope : QuestionEnvelope ← Client.lift (found (data.loads.bind JsonModel.validate)
    (.domain (.validation "question envelope is malformed")))
  let contractData ← getBytes envelope.contractArtifact
  let contract : QuestionContract ← Client.lift (found (contractData.loads.bind JsonModel.validate)
    (.domain (.validation "question contract is malformed")))
  Client.lift (require (contract.id = envelope.contractId ∧ contract.version = envelope.contractVersion)
    (.domain (.runtime "question envelope contract artifact does not match its identity")))
  return envelope

/-- One more request of `_attempt_counts`. -/
def countAttempts (state : InquiryState) (counts : AttemptCounts) (requestState : EffectRequestState) :
    SdkProgram AttemptCounts := do
  let envelope ← questionEnvelopeForRequest requestState.request
  let context ← Client.lift (found state.context
    (.domain (.runtime "question request catalog differs from the inquiry context")))
  Client.lift (require (envelope.catalogManifestDigest = context.catalogManifestDigest)
    (.domain (.runtime "question request catalog differs from the inquiry context")))
  return counts.add {
    obligationFingerprint := envelope.obligationFingerprint
    contractId := envelope.contractId
    contractVersion := envelope.contractVersion
    bindingRevision := context.bindingRevision } requestState.attempts.length

/-- `_attempt_counts`. -/
def attemptCounts (state : InquiryState) : SdkProgram AttemptCounts :=
  (state.effectRequests.filter EffectRequestState.isManual).foldlM (countAttempts state) {}

variable [Fingerprints]

omit [ByteFacts] in
/-- The scheduler's view of an obligation that has a contract. -/
def schedulerEntry (state : InquiryState) (obligation : Obligation) (creationSequence : Nat) :
    Except Failure (Option ObligationEntry) := do
  match ← contractForObligation state.context state.toProjectRecords obligation with
  | none => return none
  | some contract =>
    let currentStatus ← found (state.currentObligationStatus obligation.id)
      (.runtime "scheduler encountered an unowned obligation")
    return some {
      obligation := { obligation with status := currentStatus }
      attemptKey := ⟨obligation.fingerprint, contract.id, contract.version, obligation.bindingRevision⟩
      creationSequence := creationSequence
      dependencyDepth := obligation.parentObligationIds.length }

omit [ByteFacts] in
/-- `_scheduler_entries`. -/
def schedulerEntries (state : InquiryState) : Except Failure (List ObligationEntry) := do
  let entries ← (state.obligations.zipIdx 1).mapM (fun (obligation, creationSequence) =>
    schedulerEntry state obligation creationSequence)
  return entries.reduceOption

/-- `_schedule`. A ready plan costs the four events of its batch. -/
def schedule (state : InquiryState) : SdkProgram StepPlan := do
  let entries ← Client.lift (fromCore (schedulerEntries state))
  let completed := (state.obligations.filter (fun obligation =>
    state.currentObligationStatus obligation.id = some .satisfied)).map Obligation.id
  let context ← Client.lift (found state.context
    (.domain (.runtime "active inquiry is missing its pinned context")))
  let counts ← attemptCounts state
  Client.lift (fromCore (planNext entries completed counts state.sequence defaultStepBudget 4 defaultAttemptsPerKey
    context.schedulerPolicyVersion))

/-- `_manual_request`: the artifacts of a question, and the request, the attempt and the prompt that they give. -/
def manualRequest (inquiryId : String) (state : InquiryState) (stepPlan : StepPlan) (obligation : Obligation)
    (contract : QuestionContract) : SdkProgram (EffectRequest × EffectAttemptPlan × String) := do
  let bindings ← Client.lift (fromCore (bindingsForContract obligation contract))
  let rendered ← Client.lift (fromCore (renderQuestion contract bindings))
  let contractRef ← putBytes (canonicalBytes (JsonModel.dump contract)) "application/vnd.rci.question-contract+json"
    "utf-8"
  let context ← Client.lift (found state.context
    (.domain (.runtime "manual request requires a started inquiry context")))
  let compiled ← Client.lift (fromCore (compiledQuestionForObligation state.context state.toProjectRecords obligation))
  let envelope : QuestionEnvelope := {
    obligationId := obligation.id
    obligationFingerprint := obligation.fingerprint
    contractId := contract.id
    contractVersion := contract.version
    catalogManifestDigest := context.catalogManifestDigest
    contractArtifact := contractRef
    renderedQuestion := rendered
    generatedCompilationId := compiled.map CompiledQuestionContract.id
    generatedCandidateId := compiled.map CompiledQuestionContract.candidateId
    generatedDecisionId := compiled.map CompiledQuestionContract.decisionId
    generatedProfileId := compiled.map (fun _ => "recursive-project-v1")
    generatedComparisonPolicyId := compiled.map CompiledQuestionContract.comparisonPolicyId
    pins_together := by simp }
  let inputRef ← putBytes (canonicalBytes (JsonModel.dump envelope)) "application/vnd.rci.question-invocation+json"
    "utf-8"
  let routeDefinition ← putBytes (canonicalBytes (objectOf [("adapter", .text "manual"), ("version", .text "1.0.0")]))
    "application/json" "utf-8"
  let requestId := stableId "req" [inquiryId, stepPlan.id]
  let request : EffectRequest := {
    id := requestId
    stepPlanId := stepPlan.id
    effectKind := "semantic.manual_answer"
    adapterId := "manual"
    inputArtifact := inputRef
    timeoutSeconds := 60 }
  let environmentRef ← putBytes (canonicalBytes (objectOf [("adapter", .text "manual"),
      ("execution", .text "in-process"), ("runtime", .text "rci"), ("secrets_present", .bool false),
      ("version", .text "1.0.0")]))
    "application/vnd.rci.execution-environment+json" "utf-8"
  let route : RouteSnapshot := {
    id := stableId "route" [requestId, "manual"]
    definitionId := "manual-route"
    definitionVersion := "1.0.0"
    definitionArtifact := routeDefinition
    backendId := "human"
    adapterId := "manual"
    adapterVersion := "1.0.0"
    endpointOrChannel := some "local-cli"
    transport := some "in-process"
    executionEnvironmentArtifact := environmentRef
    requestOrActionDigest := ByteFacts.sha256 (canonicalBytes (JsonModel.dump request)) }
  return (request, ⟨stableId "attempt" [requestId, "1"], requestId, route⟩, rendered)

omit [Fingerprints] in
/-- The commands by which a ready step plans, requests and starts its question. -/
def stepCommands (inquiryId : String) (occurredAt : Timestamp) (stepPlan : StepPlan) (request : EffectRequest)
    (plan : EffectAttemptPlan) : List DomainCommand := [
  ⟨⟨stableId "evt" [stepPlan.id, "recorded"], inquiryId, occurredAt⟩, .effect (.recordStepPlan stepPlan)⟩,
  ⟨⟨stableId "evt" [request.id, "requested"], inquiryId, occurredAt⟩, .effect (.requestEffect request)⟩,
  ⟨⟨stableId "evt" [plan.id, "planned"], inquiryId, occurredAt⟩, .effect (.planEffectAttempt plan)⟩,
  ⟨⟨stableId "evt" [plan.id, "started"], inquiryId, occurredAt⟩, .effect (.startEffectAttempt plan.id)⟩]

variable [Pydantic]

/-- The rest of a step whose plan selected an obligation. -/
def requestSelected (rci : RCI) (inquiryId : String) (state : InquiryState) (stepPlan : StepPlan) :
    SdkProgram StepResult := do
  let selectedId ← Client.lift (found stepPlan.selectedObligationId
    (.domain (.runtime "ready step plan omitted its selected obligation")))
  let obligation ← Client.lift (found (state.obligationById selectedId)
    (.domain (.runtime "step plan selected an unknown obligation")))
  let asked ← Client.lift (fromCore (contractForObligation state.context state.toProjectRecords obligation))
  let contract ← Client.lift (found asked (.domain (.runtime "step plan selected an inactive contract")))
  let (request, plan, rendered) ← manualRequest inquiryId state stepPlan obligation contract
  let occurredAt ← rci.now
  let next ← applyBatch inquiryId (stepCommands inquiryId occurredAt stepPlan request plan)
  return {
    inquiryId := inquiryId
    status := .needsInput
    sequence := next.sequence
    requestId := some request.id
    prompt := some rendered }

omit [ByteFacts] [Pydantic] in
/-- An open obligation has no contract. -/
def unsupportedOpen (state : InquiryState) : Bool :=
  state.obligations.any (fun obligation =>
    Decidable.decide (state.currentObligationStatus obligation.id = some .opened) &&
      Decidable.decide (contractForObligation state.context state.toProjectRecords obligation = .ok none))

/-- The rest of a step without a pending or unresolved manual request. -/
def stepScheduled (rci : RCI) (inquiryId : String) (state : InquiryState) : SdkProgram StepResult := do
  let stepPlan ← schedule state
  match stepPlan.status with
  | .satisfied => return {
      inquiryId := inquiryId
      status := if unsupportedOpen state then .unknown else .satisfied
      sequence := state.sequence }
  | .unknown => return {
      inquiryId := inquiryId
      status := .unknown
      sequence := state.sequence }
  | .ready => rci.requestSelected inquiryId state stepPlan

/-- `RCI.step`. -/
def step (rci : RCI) (inquiryId : String) : SdkProgram StepResult := do
  let state ← inspect inquiryId
  match state.effectRequests.find? EffectRequestState.isPendingManual with
  | some pending => do
    let envelope ← questionEnvelopeForRequest pending.request
    return {
      inquiryId := inquiryId
      status := .needsInput
      sequence := state.sequence
      requestId := some pending.request.id
      prompt := some envelope.renderedQuestion }
  | none =>
    if state.effectRequests.any EffectRequestState.isUnresolvedReturn then return {
      inquiryId := inquiryId
      status := .active
      sequence := state.sequence }
    else rci.stepScheduled inquiryId state

end

end RCI

end RatchetingInquiry
