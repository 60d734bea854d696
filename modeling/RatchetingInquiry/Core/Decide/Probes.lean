import RatchetingInquiry.Core.Decide.Warrants
import RatchetingInquiry.Probes.Lifecycle

/-! Decisions over probes, cognitive plans, predictions, observations and semantic change. -/

namespace RatchetingInquiry

section
variable [Fingerprints]

def freshProbe (context : Option InquiryContext) (probe : ProbeIdentity) : Except Failure ProbeDomainEvent := do
  require (probe.questionContractKey ≠ learnedProbeContractKey)
    (.invalidCommand "learned probes require a recorded evaluation and controller admission decision")
  require (context.any (fun context => probe.bindingRevision = context.bindingRevision &&
      probe.bindingSchemaId ∈ context.carrierSchemaIds && probe.scopeFingerprint = context.scopeFingerprint))
    (.invalidCommand "probe binding does not match the inquiry context")
  return .probeAdmitted probe

def freshCognitivePlan (sequence : Nat) (effects : EffectRecords) (claims : ClaimRecords)
    (plan : CognitiveAttemptPlan) : Except Failure ProbeDomainEvent := do
  let obligation ← found (claims.obligationById plan.obligationId)
    (.invalidCommand "cognitive plan requires an obligation and effect request")
  let request ← found (effects.requestById plan.effectRequestId)
    (.invalidCommand "cognitive plan requires an obligation and effect request")
  require ((effects.stepPlanById request.request.stepPlanId).any (fun scheduled =>
      scheduled.selectedObligationId = some plan.obligationId))
    (.invalidCommand "effect request scheduler plan does not select this cognitive obligation")
  require (obligation.scope.fingerprint = plan.scopeFingerprint)
    (.invalidCommand "cognitive plan scope differs from its obligation")
  require (plan.sourceStateRevision ≤ sequence)
    (.invalidCommand "cognitive plan cannot reference a future state")
  require (plan.plannedSequence = sequence + 1)
    (.invalidCommand "cognitive plan sequence must match its event position")
  -- An attempt that is not planned yet is accepted: the plan may be linked before the attempt exists.
  let known := plan.effectAttemptPlanId.bind (fun attemptId =>
    effects.attempts.find? (fun attempt => attempt.plan.id = attemptId))
  require (known.all (fun attempt => attempt.plan.requestId = request.request.id))
    (.invalidCommand "cognitive plan references another request's attempt")
  return .cognitivePlanRecorded plan

def freshPrediction (sequence : Nat) (effects : EffectRecords) (claims : ClaimRecords) (probes : ProbeRecords)
    (prediction : PredictionSeal) : Except Failure ProbeDomainEvent := do
  let plan ← found (probes.cognitivePlanById prediction.cognitivePlanId)
    (.invalidCommand "prediction requires a recorded cognitive plan")
  require (prediction.probeOrActionId = plan.probeOrActionId ∧ prediction.scopeFingerprint = plan.scopeFingerprint)
    (.invalidCommand "prediction does not match its cognitive plan")
  require (prediction.basisClaimIds ⊆ claims.claims.map Claim.id)
    (.invalidCommand "prediction basis references an unknown claim")
  require (prediction.sealedSequence = sequence + 1)
    (.invalidCommand "prediction seal sequence must match its event position")
  let linked := plan.effectAttemptPlanId.bind (fun attemptId =>
    effects.attempts.find? (fun attempt => attempt.plan.id = attemptId))
  require (linked.all (fun attempt => attempt.outcome = none))
    (.invalidCommand "prediction must be sealed before an attempt returns")
  return .predictionSealed prediction

/-- A bridge between probes is warranted by an active lemma for its exact proposition and scope. -/
def requireBridge (state : InquiryState) (context : InquiryContext) (bridge : ComparabilityBridge) :
    Except Failure Unit := do
  let version ← found (state.lemmaVersions.find? (fun item =>
      item.id = bridge.warrantLemmaId && item.id ∈ state.activeLemmaIds))
    (.invalidCommand "probe comparison bridge requires an active hard lemma")
  require (bridge.comparisonPropositionId = version.relationId ∧
      bridge.scopeFingerprint = version.scope.fingerprint ∧ bridge.scopeFingerprint = context.scopeFingerprint)
    (.invalidCommand "probe comparison bridge warrant does not match its proposition and scope")

/-- The observations already recorded for one probe. -/
def ProbeRecords.historyOf (probes : ProbeRecords) (fingerprint : String) : List ProbeEvent :=
  probes.probeObservations.filter (fun item => item.probeIdentity.fingerprint = fingerprint)

/-- Failures that derive from `ValueError` become rejected commands. -/
def rejectValueError {α : Type} : Except Failure α → Except Failure α
  | .error (.validation reason) => .error (.invalidCommand reason)
  | outcome => outcome

def freshObservation (state : InquiryState) (observation : ProbeEvent) : Except Failure ProbeDomainEvent := do
  let fingerprint := observation.probeIdentity.fingerprint
  require (∃ probe ∈ state.admittedProbes, probe.fingerprint = fingerprint)
    (.invalidCommand "probe observation requires an admitted probe identity")
  let context ← found (state.context.filter (fun context =>
      observation.bindingRevision = context.bindingRevision &&
        observation.probeIdentity.bindingRevision = context.bindingRevision &&
        observation.probeIdentity.scopeFingerprint = context.scopeFingerprint))
    (.invalidCommand "probe observation binding does not match the inquiry")
  require (observation.stateRevision ≤ state.sequence)
    (.invalidCommand "probe observation cannot reference a future state")
  require (observation.externalReturnIds ⊆ state.capturedExternalReturnIds)
    (.invalidCommand "probe observation references an unknown raw return")
  require (observation.interpretationClaimIds ++ observation.generatedAnswerClaimId.toList ⊆
      state.claims.map Claim.id)
    (.invalidCommand "probe observation references an unknown claim")
  observation.comparabilityBridge.toList.forM (requireBridge state context)
  let trace ← ProbeTrace.validateTrace ⟨fingerprint, state.historyOf fingerprint⟩
  let _ ← rejectValueError (appendProbeEvent trace observation)
  return .probeObservationRecorded observation

def freshReconstruction (sequence : Nat) (effects : EffectRecords) (claims : ClaimRecords)
    (reconstruction : Reconstruction) : Except Failure ProbeDomainEvent := do
  require (reconstruction.externalReturnId ∈ effects.capturedExternalReturnIds)
    (.invalidCommand "reconstruction requires an owned raw return")
  require (reconstruction.decodeOutcomeIds ⊆ effects.recordedDecodeOutcomeIds)
    (.invalidCommand "reconstruction references an unknown decode outcome")
  require (∀ decodeId ∈ reconstruction.decodeOutcomeIds,
      (indexBy DecodeOutcome.id effects.decodeOutcomes decodeId).all (fun outcome =>
        outcome.externalReturnId = reconstruction.externalReturnId))
    (.invalidCommand "reconstruction decode does not belong to its raw return")
  require (reconstruction.candidateClaimIds ⊆ claims.claims.map Claim.id)
    (.invalidCommand "reconstruction references an unknown candidate claim")
  require (reconstruction.priorStateRevision ≤ sequence)
    (.invalidCommand "reconstruction cannot reference a future state")
  require (reconstruction.reconstructedSequence = sequence + 1)
    (.invalidCommand "reconstruction sequence must match its event position")
  return .reconstructionRecorded reconstruction

/-- The return was captured by the attempt that the prediction was about. -/
def returnedFromPlan (effects : EffectRecords) (attemptPlanId externalReturnId : String) : Bool :=
  effects.attempts.any (fun attempt => attempt.plan.id = attemptPlanId &&
    (attempt.outcome.bind AttemptOutcome.externalReturn?).any (fun captured => captured.id = externalReturnId))

def freshMismatch (effects : EffectRecords) (claims : ClaimRecords) (probes : ProbeRecords) (mismatch : Mismatch) :
    Except Failure ProbeDomainEvent := do
  let prediction ← found (probes.predictions.find? (fun item => item.id = mismatch.predictionId))
    (.invalidCommand "mismatch requires a sealed prediction")
  require (mismatch.scopeFingerprint = prediction.scopeFingerprint)
    (.invalidCommand "mismatch scope differs from its prediction")
  require ((claims.claimById mismatch.differenceClaimId).any (fun claim =>
      claim.scope.fingerprint = mismatch.scopeFingerprint))
    (.invalidCommand "mismatch difference claim is absent or out of scope")
  let decoded ← found ((effects.decodeOutcomes.find? (fun item => item.id = mismatch.decodeOutcomeId)).filter
      (fun item => item.result?.isSome))
    (.invalidCommand "mismatch requires a successfully decoded observation")
  require (decoded.externalReturnId = mismatch.externalReturnId)
    (.invalidCommand "mismatch decode and raw return do not match")
  let attemptPlanId ← found ((probes.cognitivePlanById prediction.cognitivePlanId).bind (·.effectAttemptPlanId))
    (.invalidCommand "mismatch prediction lacks an effect attempt")
  require (returnedFromPlan effects attemptPlanId mismatch.externalReturnId)
    (.invalidCommand "mismatch return did not arise from the predicted attempt")
  return .mismatchRecorded mismatch

/-- The operation that the two structure lists of a delta leave for one change. -/
def SemanticDelta.expectedOperation (delta : SemanticDelta) (change : WarrantedChange) : SemanticChangeOperation :=
  if change.changeId ∈ delta.reopenedStructureIds then .reopen
  else if change.changeId ∈ delta.retiredStructureIds then .retire
  else .add

/-- A change rests on an active lemma with its exact relation and scope. -/
def requireWarrantedChange (state : InquiryState) (context : InquiryContext) (delta : SemanticDelta)
    (change : WarrantedChange) : Except Failure Unit := do
  let version ← found ((indexBy LemmaVersion.id state.lemmaVersions change.warrantLemmaId).filter (fun _ =>
      change.warrantLemmaId ∈ state.activeLemmaIds))
    (.invalidCommand "semantic delta requires an active hard warrant lemma")
  require (version.relationId = change.propositionId ∧ version.scope.fingerprint = change.scopeFingerprint ∧
      change.scopeFingerprint = context.scopeFingerprint)
    (.invalidCommand "semantic change exceeds its exact warrant proposition")
  require (change.operation = delta.expectedOperation change)
    (.invalidCommand "semantic change operation does not match the delta")

def freshSemanticDelta (state : InquiryState) (delta : SemanticDelta) : Except Failure ProbeDomainEvent := do
  let reconstruction ← found (state.reconstructions.find? (fun item => item.id = delta.reconstructionId))
    (.invalidCommand "semantic delta requires an owned reconstruction")
  require (delta.committedSequence = state.sequence + 1)
    (.invalidCommand "semantic delta sequence must match its event position")
  require (reconstruction.reconstructedSequence < delta.committedSequence)
    (.invalidCommand "semantic delta must follow its reconstruction")
  let context ← found state.context (.invalidCommand "semantic delta requires inquiry context")
  delta.warrantedChanges.forM (requireWarrantedChange state context delta)
  return .semanticDeltaCommitted delta

def decideProbe (state : InquiryState) : ProbeCommand → Except Failure (Option ProbeDomainEvent)
  | .admitProbe probe =>
    recordOnce (state.admittedProbes.find? (fun item => item.fingerprint = probe.fingerprint)) probe
      "probe fingerprint was reused" (freshProbe state.context probe)
  | .recordCognitivePlan plan =>
    recordOnce (state.cognitivePlanById plan.id) plan "cognitive plan id was reused"
      (freshCognitivePlan state.sequence state.toEffectRecords state.toClaimRecords plan)
  | .sealPrediction prediction =>
    recordOnce (state.predictions.find? (fun item => item.id = prediction.id)) prediction
      "prediction id was reused"
      (freshPrediction state.sequence state.toEffectRecords state.toClaimRecords state.toProbeRecords prediction)
  | .recordProbeObservation observation =>
    recordOnce (state.probeObservations.find? (fun item => item.id = observation.id)) observation
      "probe observation id was reused" (freshObservation state observation)
  | .recordReconstruction reconstruction =>
    recordOnce (state.reconstructions.find? (fun item => item.id = reconstruction.id)) reconstruction
      "reconstruction id was reused"
      (freshReconstruction state.sequence state.toEffectRecords state.toClaimRecords reconstruction)
  | .recordMismatch mismatch =>
    recordOnce (state.mismatches.find? (fun item => item.id = mismatch.id)) mismatch "mismatch id was reused"
      (freshMismatch state.toEffectRecords state.toClaimRecords state.toProbeRecords mismatch)
  | .commitSemanticDelta delta =>
    recordOnce (state.semanticDeltas.find? (fun item => item.id = delta.id)) delta
      "semantic delta id was reused" (freshSemanticDelta state delta)

end

end RatchetingInquiry
