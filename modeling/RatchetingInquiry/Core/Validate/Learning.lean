import RatchetingInquiry.Core.Validate.Warrants

/-! The aggregate check of consolidation, memory patches and learned probes. -/

namespace RatchetingInquiry

def validateLearning (effects : EffectRecords) (claims : ClaimRecords) (warrants : WarrantRecords)
    (probes : ProbeRecords) (learning : LearningRecords) : Except Failure Unit := do
  let claimIds := claims.claims.map Claim.id
  let obligationIds := claims.obligations.map Obligation.id
  let lemmaIds := warrants.lemmaVersions.map LemmaVersion.id
  require (∀ candidate ∈ learning.consolidationCandidates,
      candidate.checkpointId ∈ learning.consolidationCheckpoints.map ConsolidationCheckpoint.id ∧
      candidate.generalizationClaimId ∈ claimIds ∧
      candidate.challengeObligationIds ++ candidate.boundary.openDependencyObligationIds ⊆ obligationIds)
    (.validation "consolidation candidates require owned source records")
  require (∀ patch ∈ learning.memoryPatchCandidates, patch.targetLemmaId ∈ lemmaIds ∧
      patch.triggeringMismatchId ∈ probes.mismatches.map Mismatch.id ∧
      patch.triggeringReturnId ∈ effects.capturedExternalReturnIds ∧ patch.proposedClaimId ∈ claimIds ∧
      patch.predecessorSupportRouteIds ⊆ warrants.supportRoutes.map SupportRoute.id ∧
      patch.challengeObligationIds ⊆ obligationIds)
    (.validation "memory patches require owned immutable predecessors")
  require (∀ link ∈ learning.reconsolidationLinks,
      link.memoryPatchId ∈ learning.memoryPatchCandidates.map MemoryPatchCandidate.id ∧
      link.predecessorLemmaId ∈ lemmaIds ∧ link.successorLemmaId ∈ lemmaIds ∧
      link.correctionId ∈ claims.corrections.map Correction.id ∧
      link.warrantDecisionId ∈ warrants.warrantDecisions.map WarrantDecisionRecord.id)
    (.validation "reconsolidation links require owned succession evidence")
  require (∀ gap ∈ learning.representationGaps, gap.obligationId ∈ obligationIds)
    (.validation "representation gaps require an owned obligation")
  require (∀ candidate ∈ learning.learnedProbeCandidates,
      candidate.representationGapId ∈ learning.representationGaps.map RepresentationGap.id ∧
      candidate.challengeObligationIds ⊆ obligationIds)
    (.validation "learned-probe candidates require owned gaps and attacks")
  require (∀ evaluation ∈ learning.probeEvaluations,
      evaluation.candidateProbeId ∈ learning.learnedProbeCandidates.map LearnedProbeCandidate.id ∧
      evaluation.trainingObservationIds ++ evaluation.holdoutObservationIds ⊆
        probes.probeObservations.map ProbeEvent.id)
    (.validation "probe evaluations require owned candidates and observations")
  require (∀ decision ∈ learning.probeAdmissionDecisions,
      decision.candidateProbeId ∈ learning.learnedProbeCandidates.map LearnedProbeCandidate.id ∧
      decision.evaluationId ∈ learning.probeEvaluations.map ProbeEvaluation.id)
    (.validation "probe admission decisions require owned evaluations")

end RatchetingInquiry
