import RatchetingInquiry.Core.Decide.Memory
import RatchetingInquiry.Learning.Policies

/-! Decisions over consolidation, memory patches, semantic fields and learned probes. -/

namespace RatchetingInquiry

section
variable [Fingerprints]

/-- The scope, binding and horizon that the inquiry context pins. -/
def InquiryContext.retentionPins (context : InquiryContext) : RetentionPins :=
  (context.scopeFingerprint, context.bindingRevision, context.protectedHorizonId)

def freshConsolidationCheckpoint (state : InquiryState) (checkpoint : ConsolidationCheckpoint) :
    Except Failure LearningEvent := do
  require (state.context.any (fun context =>
      (checkpoint.scopeFingerprint, checkpoint.bindingRevision, checkpoint.protectedHorizonId) = context.retentionPins))
    (.invalidCommand "consolidation checkpoint pins differ from inquiry context")
  let expected ← selectConsolidationCheckpoint checkpoint.id checkpoint.policy state.sequence
    checkpoint.scopeFingerprint checkpoint.bindingRevision checkpoint.protectedHorizonId state.probeObservations
    state.claims state.conflicts state.mismatches state.effectRequests
  require (checkpoint = expected)
    (.invalidCommand "consolidation checkpoint is not the exact policy selection")
  return .consolidationCheckpointRecorded checkpoint

def freshConsolidationCandidate (context : Option InquiryContext) (claims : ClaimRecords) (learning : LearningRecords)
    (candidate : ConsolidationCandidate) : Except Failure LearningEvent := do
  require ((learning.consolidationCheckpoints.find? (fun item => item.id = candidate.checkpointId)).any
      (fun checkpoint => checkpoint.status = .ready))
    (.invalidCommand "consolidation requires a ready checkpoint")
  let claim ← found ((claims.claimById candidate.generalizationClaimId).filter (fun claim =>
      claim.role = .generalization))
    (.invalidCommand "consolidation output must be an ordinary generalization claim")
  require (candidate.boundary.scope = claim.scope ∧ context.any (fun context =>
      candidate.boundary.scope.fingerprint = context.scopeFingerprint))
    (.invalidCommand "consolidation boundary must preserve exact claim scope")
  require (∀ obligationId ∈ candidate.challengeObligationIds ++ candidate.boundary.openDependencyObligationIds,
      claims.currentObligationStatus obligationId = some .opened)
    (.invalidCommand "consolidation challenges and dependencies must be open")
  return .consolidationCandidateRecorded candidate

/-- A discharged dependency needs a hard decision about its exact relation and scope. -/
def requireDischarge (warrants : WarrantRecords) (disposition : DependencyDisposition) : Except Failure Unit :=
  match disposition.kind with
  | .transported => .ok ()
  | .hardDischarged decisionId =>
    require ((indexBy WarrantDecisionRecord.id warrants.warrantDecisions decisionId).any (fun decision =>
        (indexBy LemmaVersion.id warrants.lemmaVersions disposition.dependencyId).any (fun dependency =>
          decision.warrantClass = .hard && decision.propositionId = dependency.relationId &&
            decision.scopeFingerprint = dependency.scope.fingerprint)))
      (.invalidCommand "dependency discharge requires an exact hard decision")

/-- The dependencies of the predecessor routes that a patch names. -/
def patchDependencies (support : LemmaSupport) (patch : MemoryPatchCandidate) : List String :=
  (support.allSupportRoutes.filter (fun route => route.id ∈ patch.predecessorSupportRouteIds)).flatMap
    SupportRoute.requiredDependencyIds

def freshMemoryPatch (state : InquiryState) (patch : MemoryPatchCandidate) : Except Failure LearningEvent := do
  let version ← found ((state.lemmaVersions.find? (fun item => item.id = patch.targetLemmaId)).filter (fun item =>
      item.id ∈ state.activeLemmaIds))
    (.invalidCommand "memory patch requires an active predecessor lemma")
  require ((state.mismatches.find? (fun item => item.id = patch.triggeringMismatchId)).any (fun mismatch =>
      mismatch.externalReturnId = patch.triggeringReturnId))
    (.invalidCommand "memory patch must pin its exact mismatch and return")
  require ((state.claimById patch.proposedClaimId).any (fun claim =>
      claim.scope.fingerprint = patch.scopeFingerprint))
    (.invalidCommand "memory patch must name an owned in-scope proposed claim")
  let support ← found ((state.lemmaSupports.find? (fun item => item.lemmaVersionId = version.id)).filter (fun item =>
      patch.predecessorSupportRouteIds ⊆ item.allSupportRoutes.map SupportRoute.id))
    (.invalidCommand "memory patch support routes are not owned by its predecessor")
  let accounted := patch.dependencyDispositions.map DependencyDisposition.dependencyId
  require (accounted ⊆ patchDependencies support patch ∧ patchDependencies support patch ⊆ accounted)
    (.invalidCommand "memory patch must explicitly transport or discharge every dependency")
  patch.dependencyDispositions.forM (requireDischarge state.toWarrantRecords)
  require (∀ obligationId ∈ patch.challengeObligationIds, state.currentObligationStatus obligationId = some .opened)
    (.invalidCommand "memory patch challenges must remain open")
  return .memoryPatchCandidateRecorded patch

def freshReconsolidationLink (claims : ClaimRecords) (warrants : WarrantRecords) (learning : LearningRecords)
    (link : ReconsolidationLink) : Except Failure LearningEvent := do
  let unowned : Failure := .invalidCommand "reconsolidation link requires owned patch and succession records"
  let patch ← found (learning.memoryPatchCandidates.find? (fun item => item.id = link.memoryPatchId)) unowned
  let predecessor ← found (warrants.lemmaVersions.find? (fun item => item.id = link.predecessorLemmaId)) unowned
  let successor ← found (warrants.lemmaVersions.find? (fun item => item.id = link.successorLemmaId)) unowned
  let correction ← found (claims.corrections.find? (fun item => item.id = link.correctionId)) unowned
  require (patch.targetLemmaId = predecessor.id ∧ predecessor.id ∈ successor.predecessorRefs)
    (.invalidCommand "reconsolidation successor must preserve predecessor ancestry")
  require (correction.targetId = predecessor.id ∧ successor.id ∈ correction.relatedIds)
    (.invalidCommand "reconsolidation correction must link predecessor to successor")
  require ((warrants.promotionLinks.find? (fun item => item.lemmaVersionId = link.successorLemmaId)).any
      (fun promotion => promotion.warrantDecisionId = link.warrantDecisionId))
    (.invalidCommand "reconsolidation successor requires its exact promotion warrant")
  require (∀ obligationId ∈ patch.challengeObligationIds,
      claims.currentObligationStatus obligationId = some .satisfied)
    (.invalidCommand "reconsolidation cannot apply before all attacks are discharged")
  return .reconsolidationLinked link

/-- The scope that the inquiry context pins, as a scope record. -/
def InquiryContext.scope (context : InquiryContext) : Scope where
  id := context.scopeId
  bindingRevision := context.bindingRevision
  assumptionIds := context.assumptionIds
  applicabilityGuardId := context.guardConditionId
  finiteUniverseHash := context.finiteUniverseHash
  closedWorld := context.closedWorld
  assumptions_unique := context.assumptions_unique
  closed_world_hashed := context.closed_world_hashed

/-- An irrelevant item needs an active lemma that states exactly its consequence-nullity. -/
def irrelevanceWarranted (state : InquiryState) (item : SemanticItem) : Bool :=
  item.relevance ≠ .irrelevant ||
    (indexBy LemmaVersion.id (state.lemmaVersions.filter (fun version => version.id ∈ state.activeLemmaIds))
      (item.irrelevanceWarrantId.getD "")).any (fun version =>
        version.relationId = "consequence-null:" ++ item.structureId)

def freshSemanticFieldEvaluation (state : InquiryState) (evaluation : SemanticFieldEvaluation)
    (overflowResidual : Option Residual) : Except Failure LearningEvent := do
  require (evaluation.sourceSequence = state.sequence)
    (.invalidCommand "semantic-field evaluation must pin current source sequence")
  let expected ← evaluateConservativeField evaluation.id evaluation.field evaluation.policy evaluation.sourceSequence
    evaluation.sourceIndexFingerprint evaluation.probeFingerprint evaluation.requiredStructureIds
    evaluation.overflowStructureIds
  require (expected = evaluation) (.invalidCommand "semantic-field diagnostic is not exactly recomputed")
  let context ← found state.context (.invalidCommand "semantic-field evaluation requires inquiry context")
  require (overflowResidual = semanticFieldOverflowResidual evaluation context.scope)
    (.invalidCommand "semantic-field overflow must preserve its exact residual")
  require (∀ item ∈ evaluation.field.items, irrelevanceWarranted state item)
    (.invalidCommand "irrelevance requires an active exact hard consequence-null lemma")
  return .semanticFieldEvaluationRecorded evaluation overflowResidual

def freshRepresentationGap (context : Option InquiryContext) (claims : ClaimRecords) (probes : ProbeRecords)
    (gap : RepresentationGap) : Except Failure LearningEvent := do
  require (context.any (fun context =>
      (gap.scopeFingerprint, gap.bindingRevision, gap.protectedHorizonId) = context.retentionPins))
    (.invalidCommand "representation gap pins differ from inquiry context")
  require (claims.obligationById gap.obligationId).isSome
    (.invalidCommand "representation gap requires an owned obligation")
  require (gap.failedProbeFingerprints ⊆ probes.admittedProbes.map ProbeIdentity.fingerprint)
    (.invalidCommand "representation gap references a probe not admitted by policy")
  return .representationGapRecorded gap

def freshLearnedProbeCandidate (context : Option InquiryContext) (claims : ClaimRecords) (learning : LearningRecords)
    (candidate : LearnedProbeCandidate) : Except Failure LearningEvent := do
  require ((learning.representationGaps.find? (fun item => item.id = candidate.representationGapId)).isSome ∧
      context.any (fun context => (candidate.probeIdentity.scopeFingerprint, candidate.probeIdentity.bindingRevision,
        candidate.probeIdentity.protectedHorizonId) = context.retentionPins))
    (.invalidCommand "learned-probe candidate requires an exact owned gap and context")
  require (∀ obligationId ∈ candidate.challengeObligationIds,
      claims.currentObligationStatus obligationId = some .opened)
    (.invalidCommand "learned-probe attacks must be open obligations")
  return .learnedProbeCandidateRecorded candidate

def freshProbeEvaluation (state : InquiryState) (evaluation : ProbeEvaluation) : Except Failure LearningEvent := do
  let candidate ← found (state.learnedProbeCandidates.find? (fun item => item.id = evaluation.candidateProbeId))
    (.invalidCommand "probe evaluation requires an owned candidate")
  let expected ← buildProbeEvaluation evaluation.id evaluation.candidateProbeId evaluation.samples evaluation.protocol
    evaluation.redundancyCheck evaluation.protectedBehaviorCheck
  require (expected = evaluation) (.invalidCommand "probe evaluation is not the exact deterministic result")
  require (evaluation.trainingObservationIds ++ evaluation.holdoutObservationIds ⊆
      state.probeObservations.map ProbeEvent.id)
    (.invalidCommand "probe evaluation references unknown observations")
  [evaluation.redundancyCheck, evaluation.protectedBehaviorCheck].forM fun check =>
    requireRelationCheck state.context state.toWarrantRecords check evaluation.evaluationPropositionId
      candidate.probeIdentity.scopeFingerprint
  return .probeEvaluationRecorded evaluation

/-- The challenges are closed, both parts gain and no protected behaviour changed. -/
def qualifiesForAdmission (claims : ClaimRecords) (candidate : LearnedProbeCandidate) (evaluation : ProbeEvaluation) :
    Bool :=
  candidate.challengeObligationIds.all (fun obligationId =>
      claims.currentObligationStatus obligationId = some .satisfied) &&
    0 < evaluation.trainingDiscriminationGain && 0 < evaluation.holdoutDiscriminationGain &&
    evaluation.protectedErrorCount = 0

def freshProbeAdmission (claims : ClaimRecords) (probes : ProbeRecords) (learning : LearningRecords)
    (decision : ProbeAdmissionDecision) : Except Failure LearningEvent := do
  let unmatched : Failure := .invalidCommand "probe admission requires its exact candidate evaluation"
  let candidate ← found
    (learning.learnedProbeCandidates.find? (fun item => item.id = decision.candidateProbeId)) unmatched
  let evaluation ← found ((learning.probeEvaluations.find? (fun item => item.id = decision.evaluationId)).filter
    (fun item => item.candidateProbeId = candidate.id)) unmatched
  require (decision.outcome = .admitted → qualifiesForAdmission claims candidate evaluation)
    (.invalidCommand "learned probe does not satisfy controller admission policy")
  require (decision.outcome = .admitted →
      candidate.probeIdentity.fingerprint ∉ probes.admittedProbes.map ProbeIdentity.fingerprint)
    (.identityConflict "learned probe identity is already admitted")
  return .probeAdmissionDecisionRecorded decision

def decideLearning (state : InquiryState) : LearningCommand → Except Failure (Option LearningEvent)
  | .recordConsolidationCheckpoint checkpoint =>
    recordOnce (state.consolidationCheckpoints.find? (fun item => item.id = checkpoint.id)) checkpoint
      "consolidation checkpoint identity was reused" (freshConsolidationCheckpoint state checkpoint)
  | .recordConsolidationCandidate candidate =>
    recordOnce (state.consolidationCandidates.find? (fun item => item.id = candidate.id)) candidate
      "consolidation candidate identity was reused"
      (freshConsolidationCandidate state.context state.toClaimRecords state.toLearningRecords candidate)
  | .recordMemoryPatchCandidate patch =>
    recordOnce (state.memoryPatchCandidates.find? (fun item => item.id = patch.id)) patch
      "memory patch identity was reused" (freshMemoryPatch state patch)
  | .recordReconsolidationLink link =>
    recordOnce (state.reconsolidationLinks.find? (fun item => item.id = link.id)) link
      "reconsolidation link identity was reused"
      (freshReconsolidationLink state.toClaimRecords state.toWarrantRecords state.toLearningRecords link)
  | .recordSemanticFieldEvaluation evaluation overflowResidual =>
    recordOnce (state.semanticFieldEvaluations.find? (fun item => item.id = evaluation.id)) evaluation
      "semantic-field evaluation identity was reused"
      (freshSemanticFieldEvaluation state evaluation overflowResidual)
  | .recordRepresentationGap gap =>
    recordOnce (state.representationGaps.find? (fun item => item.id = gap.id)) gap
      "representation-gap identity was reused"
      (freshRepresentationGap state.context state.toClaimRecords state.toProbeRecords gap)
  | .recordLearnedProbeCandidate candidate =>
    recordOnce (state.learnedProbeCandidates.find? (fun item => item.id = candidate.id)) candidate
      "learned-probe candidate identity was reused"
      (freshLearnedProbeCandidate state.context state.toClaimRecords state.toLearningRecords candidate)
  | .recordProbeEvaluation evaluation =>
    recordOnce (state.probeEvaluations.find? (fun item => item.id = evaluation.id)) evaluation
      "probe-evaluation identity was reused" (freshProbeEvaluation state evaluation)
  | .recordProbeAdmissionDecision decision =>
    recordOnce (state.probeAdmissionDecisions.find? (fun item => item.id = decision.id)) decision
      "probe-admission decision identity was reused"
      (freshProbeAdmission state.toClaimRecords state.toProbeRecords state.toLearningRecords decision)

end

end RatchetingInquiry
