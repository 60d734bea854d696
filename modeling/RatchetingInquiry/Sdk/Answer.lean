import RatchetingInquiry.Sdk.Start
import RatchetingInquiry.Sdk.Step

/-! The answer to a pending question: its bytes are stored, bound as a claim and accepted, and the obligation that was
asked about is satisfied, all in one batch. -/

namespace RatchetingInquiry

/-- An answer: nothing, a text with its bytes in UTF-8, or bytes. -/
inductive ManualAnswer where
  | nothing
  | text (value : String) (utf8 : StoredBytes)
  | bytes (data : StoredBytes)
deriving DecidableEq

/-- `model_dump_json` of a captured payload. -/
def CapturedPayload.dumpJson : CapturedPayload → String
  | .null => "\x7b\"kind\":\"null\",\"artifact\":null\x7d"
  | .bytes artifact => "\x7b\"kind\":\"bytes\",\"artifact\":\x7b\"algorithm\":\"sha256\",\"digest\":\"" ++
      artifact.digest ++ "\",\"size\":" ++ toString artifact.size ++ ",\"media_type\":" ++
      ((artifact.mediaType.map (fun text => "\"" ++ text ++ "\"")).getD "null") ++ ",\"encoding\":" ++
      ((artifact.encoding.map (fun text => "\"" ++ text ++ "\"")).getD "null") ++ "\x7d\x7d"

/-- The bytes of `model_dump_json`, which spells the fields of a record in the order of their declarations. -/
def declaredBytes (value : JsonValue) : StoredBytes := .text 1 value

/-- `_PROJECT_DOWNSTREAM_OBLIGATION_KIND`. -/
def projectDownstreamObligationKind : LimitationKind → ObligationKind
  | .theory => .characterize
  | .question => .characterizeResidual
  | .probe => .sameClassVariation
  | .representation => .minimalBoundaryCrossing
  | .method => .characterizeResidual
  | .evidence => .localizeConflict
  | .implementation => .proposeFactor
  | .authority => .characterizeResidual

/-- The JSON of a claim. -/
def Claim.dump [Pydantic] (claim : Claim) : JsonValue := claimFields.write claim

namespace ManualAnswer

def captureEncoding : ManualAnswer → String
  | .nothing => "native-null"
  | .text _ _ => "utf-8"
  | .bytes _ => "binary"

/-- The answer as a text, where it is one. -/
def asText : ManualAnswer → Option String
  | .text value _ => some value
  | _ => none

/-- The answer as inert data, given what it was captured as. -/
def inert (answer : ManualAnswer) (captured : CapturedPayload) : InertPayload :=
  match answer, captured with
  | .nothing, _ => .json .null
  | .text value _, _ => .json (.text value)
  | .bytes _, .bytes artifact => .artifact artifact
  | .bytes _, .null => .json .null

end ManualAnswer

namespace RCI

section
variable [Fingerprints] [ByteFacts]

omit [Fingerprints] [ByteFacts] in
theorem downstream_names_unique (carrier limitationKind returnClass claimId candidateId : JsonValue) :
    (([⟨"carrier", carrier⟩, ⟨"downstream_limitation_kind", limitationKind⟩,
      ⟨"generated_return_class_id", returnClass⟩, ⟨"source_claim_id", claimId⟩,
      ⟨"source_question_candidate_id", candidateId⟩] : List BoundArgument).map BoundArgument.name).Nodup := by
  simp

omit [Fingerprints] in
/-- `_generated_downstream_obligation`, once the compiled question of the envelope and its return are known. -/
def downstreamObligation (sourceObligation : Obligation) (compiled : CompiledQuestionContract)
    (returnClassId downstreamStateId limitationKind : String) (kind : ObligationKind) (sourceClaimId : String) :
    Obligation where
  id := stableId "obl" [sourceObligation.id, compiled.id, returnClassId, downstreamStateId]
  kind := kind
  carrierId := downstreamStateId
  args := [⟨"carrier", .text downstreamStateId⟩, ⟨"downstream_limitation_kind", .text limitationKind⟩,
    ⟨"generated_return_class_id", .text returnClassId⟩, ⟨"source_claim_id", .text sourceClaimId⟩,
    ⟨"source_question_candidate_id", .text compiled.candidateId⟩]
  scope := sourceObligation.scope
  bindingRevision := sourceObligation.bindingRevision
  parentObligationIds := [sourceObligation.id]
  priorityVector := [150]
  binding_matches_scope := sourceObligation.binding_matches_scope
  names_unique := downstream_names_unique _ _ _ _ _
  parents_unique := List.nodup_singleton sourceObligation.id

/-- The value of a limitation kind. -/
def limitationText (kind : LimitationKind) : String := ((JsonModel.dump kind).asText).getD ""

/-- `_generated_downstream_obligation`. -/
def generatedDownstreamObligation (state : InquiryState) (sourceObligation : Obligation) (envelope : QuestionEnvelope)
    (answer : ManualAnswer) (sourceClaimId : String) : Except Failure (Option Obligation) :=
  match envelope.generatedCandidateId with
  | none => return none
  | some candidateId => do
    let compiled ← compileAdmittedQuestion state.context state.toProjectRecords candidateId
    require (envelope.generatedCompilationId = some compiled.id ∧
        envelope.generatedDecisionId = some compiled.decisionId ∧
        envelope.generatedProfileId = some "recursive-project-v1" ∧
        envelope.generatedComparisonPolicyId = some compiled.comparisonPolicyId)
      (.validation "generated question return differs from its persisted compilation")
    match compiled.possibleReturns.find? (fun item => answer.asText = some item.returnClassId) with
    | some item => return some (downstreamObligation sourceObligation compiled item.returnClassId
        item.downstreamStateId (limitationText item.downstreamObligationKind)
        (projectDownstreamObligationKind item.downstreamObligationKind) sourceClaimId)
    | none => return some (downstreamObligation sourceObligation compiled "unclassified"
        ("unclassified-return:" ++ compiled.candidateId) "unknown" .characterizeResidual sourceClaimId)

/-- The raw answer in the artifact store. -/
def captureAnswer : ManualAnswer → SdkProgram CapturedPayload
  | .nothing => return .null
  | .text _ utf8 => return .bytes (← putBytes utf8 "text/plain" "utf-8")
  | .bytes data => return .bytes (← putBytes data "application/octet-stream" "binary")

omit [Fingerprints] in
/-- The return of a manual request. -/
def manualReturn (request : EffectRequest) (attempt : EffectAttemptPlan) (answer : ManualAnswer)
    (captured : CapturedPayload) (occurredAt : Timestamp) : ExternalReturn where
  id := stableId "return" [request.id, captured.dumpJson]
  attemptId := attempt.id
  routeId := attempt.route.id
  sourceId := some "manual-user"
  captureBoundary := "manual-answer-submission"
  captureEncoding := answer.captureEncoding
  capturedAt := occurredAt
  rawPayload := captured

omit [Fingerprints] in
/-- The decode of a return as the claim that the artifact holds. -/
def claimDecode (externalReturn : ExternalReturn) (semanticRef : ArtifactRef) : DecodeOutcome where
  id := stableId "decode" [externalReturn.id, semanticRef.digest]
  externalReturnId := externalReturn.id
  decoderId := "l0-claim-binder"
  decoderVersion := "1.0.0"
  body := .decoded ⟨stableId "result" [semanticRef.digest], semanticRef, .success "l0_claim"⟩

omit [Fingerprints] in
/-- The batch by which an answer is captured, decoded, accepted and bound, and its obligation satisfied. -/
def answerCommands (inquiryId : String) (occurredAt : Timestamp) (requestId : String) (obligationId : String)
    (externalReturn : ExternalReturn) (decoded : DecodeOutcome) (claim : Claim) (downstream : Option Obligation) :
    List DomainCommand := [
  ⟨⟨stableId "evt" [externalReturn.id, "captured"], inquiryId, occurredAt⟩,
    .effect (.recordAttemptOutcome requestId (.returned externalReturn))⟩,
  ⟨⟨stableId "evt" [decoded.id, "decoded"], inquiryId, occurredAt⟩, .effect (.recordDecodeOutcome requestId decoded)⟩,
  ⟨⟨stableId "evt" [decoded.id, "accepted"], inquiryId, occurredAt⟩,
    .effect (.acceptEffectResult requestId decoded.id)⟩,
  ⟨⟨stableId "evt" [claim.id, "admitted"], inquiryId, occurredAt⟩, .claim (.admitClaim claim)⟩,
  ⟨⟨stableId "evt" [obligationId, decoded.id, "satisfied"], inquiryId, occurredAt⟩,
    .claim (.recordObligationDisposition {
      id := stableId "disp" [obligationId, decoded.id, "satisfied"]
      obligationId := obligationId
      status := .satisfied
      reason := "accepted answer bound as a provisional L0 claim"
      evidenceRefs := [decoded.id] })⟩] ++
  downstream.toList.map (fun obligation =>
    ⟨⟨stableId "evt" [obligation.id, "generated-downstream"], inquiryId, occurredAt⟩,
      .claim (.openObligation obligation)⟩)

omit [ByteFacts] in
/-- The obligation that the envelope of a request names. -/
def answeredObligation (state : InquiryState) (context : InquiryContext) (envelope : QuestionEnvelope) :
    Except Failure Obligation := do
  require (envelope.catalogManifestDigest = context.catalogManifestDigest)
    (.runtime "manual request catalog differs from the inquiry context")
  let obligation ← found (state.obligationById envelope.obligationId)
    (.runtime "manual request does not reference its exact obligation")
  require (obligation.fingerprint = envelope.obligationFingerprint)
    (.runtime "manual request does not reference its exact obligation")
  return obligation

omit [ByteFacts] in
/-- The claim that an answer is bound as, under the contract that the request was asked by. -/
def boundClaim (state : InquiryState) (context : InquiryContext) (obligation : Obligation)
    (recorded : QuestionContract) (answer : ManualAnswer) (externalReturn : ExternalReturn) :
    Except Failure Claim := do
  let contract ← contractForObligation state.context state.toProjectRecords obligation
  require (contract = some recorded) (.runtime "persisted question contract is not active for its obligation")
  let scope ← scopeFromContext context
  bindAnswer recorded (answer.inert externalReturn.rawPayload) obligation.args scope
    ⟨"manual_answer", externalReturn.id, none⟩

variable [Pydantic]

/-- What becomes of an answer to a pending request: its bytes and its claim are stored, and the batch is put together. -/
def prepareAnswer (rci : RCI) (inquiryId : String) (state : InquiryState) (pending : EffectRequestState)
    (answer : ManualAnswer) : SdkProgram (List DomainCommand) := do
  let attempt ← Client.lift (found pending.attempts.head?
    (.domain (.runtime "manual request has no persisted attempt plan")))
  let occurredAt ← rci.now
  let captured ← captureAnswer answer
  let externalReturn := manualReturn pending.request attempt.plan answer captured occurredAt
  let context ← Client.lift (found state.context
    (.domain (.runtime "active inquiry is missing its pinned context")))
  let envelope ← questionEnvelopeForRequest pending.request
  let obligation ← Client.lift (fromCore (answeredObligation state context envelope))
  let recordedData ← getBytes envelope.contractArtifact
  let recorded : QuestionContract ← Client.lift (found (recordedData.loads.bind JsonModel.validate)
    (.domain (.validation "question contract is malformed")))
  let claim ← Client.lift (fromCore (boundClaim state context obligation recorded answer externalReturn))
  let semanticRef ← putBytes (declaredBytes claim.dump) "application/vnd.rci.claim+json" "utf-8"
  let decoded := claimDecode externalReturn semanticRef
  let downstream ← Client.lift (fromCore (generatedDownstreamObligation state obligation envelope answer claim.id))
  return answerCommands inquiryId occurredAt pending.request.id obligation.id externalReturn decoded claim downstream

/-- The rest of an answer whose request is pending. -/
def answerPending (rci : RCI) (inquiryId : String) (state : InquiryState) (pending : EffectRequestState)
    (answer : ManualAnswer) : SdkProgram InquiryState := do
  applyBatch inquiryId (← rci.prepareAnswer inquiryId state pending answer)

/-- The claim that an accepted manual answer was bound as is this answer. -/
def claimMatches (claim : Claim) : ManualAnswer → Bool
  | .nothing => claim.payload = .json .null
  | .text value _ => claim.payload = .json (.text value)
  | .bytes data =>
    match claim.payload with
    | .artifact artifact => artifact.digest = ByteFacts.sha256 data && artifact.size = ByteFacts.length data
    | .json _ => false

/-- `_matches_last_accepted_answer`. -/
def matchesLastAcceptedAnswer (state : InquiryState) (answer : ManualAnswer) : SdkProgram Bool :=
  match state.effectRequests.reverse.find? (fun item => item.isManual && item.acceptedResult.isSome) with
  | none => return false
  | some accepted =>
    match accepted.acceptedResult with
    | none => return false
    | some result => do
      let data ← getBytes result.semanticArtifact
      let claim ← Client.lift (found (data.loads.bind Claim.validate) (.domain (.validation "claim is malformed")))
      return claimMatches claim answer

/-- `RCI.submit_answer`. Without a pending request the inquiry is stepped once. -/
def submitAnswer (rci : RCI) (inquiryId : String) (answer : ManualAnswer) : SdkProgram InquiryState := do
  let state ← inspect inquiryId
  match state.effectRequests.find? EffectRequestState.isPendingManual with
  | some pending => rci.answerPending inquiryId state pending answer
  | none => do
    let result ← rci.step inquiryId
    let state ← inspect inquiryId
    if result.status = .needsInput then
      let pending ← Client.lift (found (state.effectRequests.find? EffectRequestState.isPendingManual)
        (.domain (.runtime "step reported input without a pending request")))
      rci.answerPending inquiryId state pending answer
    else do
      let matched ← matchesLastAcceptedAnswer state answer
      if matched then return state
      else Client.lift (.error (.domain (.runtime "inquiry has no pending manual answer request")))

/-- The steps of a run that are left, behind the sequence that the last one ended at. -/
def runSteps (rci : RCI) (inquiryId : String) : Nat → Int → SdkProgram StepResult
  | 0, _ => do
    let state ← inspect inquiryId
    return {
      inquiryId := inquiryId
      status := .unknown
      sequence := state.sequence }
  | steps + 1, previousSequence => do
    let result ← rci.step inquiryId
    if result.status ≠ .active then return result
    else if result.sequence ≤ previousSequence then return result
    else runSteps rci inquiryId steps result.sequence

/-- `RCI.run`. -/
def run (rci : RCI) (inquiryId : String) (maxSteps : Nat) : SdkProgram StepResult := do
  Client.lift (require (1 ≤ maxSteps ∧ maxSteps ≤ 100)
    (.valueError "max_steps must be between 1 and the constitutional limit of 100"))
  rci.runSteps inquiryId maxSteps (-1)

omit [Fingerprints] [ByteFacts] [Pydantic] in
theorem generated_names_unique (candidateId compilationId decisionId limitationId : JsonValue) :
    (([⟨generatedCandidateArgument, candidateId⟩, ⟨generatedCompilationArgument, compilationId⟩,
      ⟨generatedDecisionArgument, decisionId⟩, ⟨"limitation", limitationId⟩] :
        List BoundArgument).map BoundArgument.name).Nodup := by
  simp [generatedCandidateArgument, generatedCompilationArgument, generatedDecisionArgument]

/-- `open_generated_question`. -/
def openGeneratedQuestion (rci : RCI) (inquiryId candidateId : String) (bindings : List (String × String)) :
    SdkProgram InquiryState := do
  let state ← inspect inquiryId
  let compiled ← Client.lift (fromCore (compileAdmittedQuestion state.context state.toProjectRecords candidateId))
  let registered := (generatedQuestionRegistry state.context state.toProjectRecords).find? (fun item =>
    item.candidateId = candidateId)
  Client.lift (require (registered = some compiled)
    (.domain (.validation "generated question is not unique in the active confined registry")))
  let _ ← Client.lift (fromCore (renderQuestion compiled.contract bindings))
  Client.lift (require (bindings = [("limitation", compiled.limitationId)])
    (.domain (.validation "generated question bindings must name the exact owned limitation")))
  let context ← Client.lift (found state.context
    (.domain (.runtime "generated question requires a started inquiry")))
  Client.lift (require (compiled.bindingRevision = context.bindingRevision ∧
      compiled.scopeFingerprint = context.scopeFingerprint)
    (.domain (.validation "generated question compilation is stale for the inquiry context")))
  let _ ← Client.lift (fromCore (scopeFromContext context))
  let obligation : Obligation := {
    id := stableId "obl" [inquiryId, compiled.id, "\x7b\"limitation\":\"" ++ compiled.limitationId ++ "\"\x7d"]
    kind := .separateConsequenceClasses
    carrierId := compiled.limitationId
    args := [⟨generatedCandidateArgument, .text compiled.candidateId⟩,
      ⟨generatedCompilationArgument, .text compiled.id⟩, ⟨generatedDecisionArgument, .text compiled.decisionId⟩,
      ⟨"limitation", .text compiled.limitationId⟩]
    scope := context.scope
    bindingRevision := context.bindingRevision
    priorityVector := [200]
    names_unique := generated_names_unique _ _ _ _ }
  let occurredAt ← rci.now
  dispatch ⟨⟨stableId "evt" [inquiryId, obligation.id, "generated-open"], inquiryId, occurredAt⟩,
    .claim (.openObligation obligation)⟩

end

end RCI

end RatchetingInquiry
