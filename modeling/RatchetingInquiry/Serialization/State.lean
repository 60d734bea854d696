import RatchetingInquiry.Core.Evolve
import RatchetingInquiry.Serialization.Memory
import RatchetingInquiry.Serialization.Project

/-! The JSON of a folded state, which snapshots keep. A state is read through the validators of its records and
through the aggregate check. -/

namespace RatchetingInquiry

instance : JsonModel InquiryStatus := .enum [(.notStarted, "not_started"), (.active, "active")]

section
variable [Pydantic]

/-- A part that is an instant of time, or `null`. -/
def Fields.optionalDatetime {α β : Type} (before : Fields α (Option Timestamp → β)) (name : String)
    (part : α → Option Timestamp) : Fields α β :=
  before.slot name part (some none) (dumpOptional (fun instant => .text (Pydantic.isoformat instant)))
    (validateOptional (fun given => given.asText.bind Pydantic.fromIsoformat)) id
    (by
      intro value
      have reads : ∀ instant, (JsonValue.text (Pydantic.isoformat instant)).asText.bind Pydantic.fromIsoformat =
          some (id instant) := Pydantic.fromIsoformat_isoformat
      rw [validateOptional_dumpOptional reads (by simp), Option.map_id])

instance : JsonModel AttemptState :=
  .record (Fields.of AttemptState.mk |>.field "plan" (·.plan) |>.fieldOr "started" (·.started) false
    |>.optional "started_event_id" (·.startedEventId) |>.optionalDatetime "started_at" (·.startedAt)
    |>.optional "outcome" (·.outcome))

instance : JsonModel EffectRequestState :=
  .record (Fields.of EffectRequestState.mk |>.field "request" (·.request) |>.fieldOr "attempts" (·.attempts) []
    |>.fieldOr "no_attempt_dispositions" (·.noAttemptDispositions) []
    |>.fieldOr "decode_outcomes" (·.decodeOutcomes) []
    |>.optional "accepted_decoded_outcome_id" (·.acceptedDecodedOutcomeId))

def headerFields : Fields InquiryHeader InquiryHeader :=
  Fields.of InquiryHeader.mk |>.fieldOr "status" (·.status) .notStarted |>.optional "inquiry_id" (·.inquiryId)
    |>.fieldOr "sequence" (·.sequence) 0 |>.optional "manifest_artifact" (·.manifestArtifact)
    |>.optional "policy_version" (·.policyVersion) |>.optional "context" (·.context)

def effectRecordFields : Fields EffectRecords EffectRecords :=
  Fields.of EffectRecords.mk |>.fieldOr "backlog_effects" (·.backlogEffects) []
    |>.fieldOr "step_plans" (·.stepPlans) [] |>.fieldOr "effect_requests" (·.effectRequests) []

def claimRecordFields : Fields ClaimRecords ClaimRecords :=
  Fields.of ClaimRecords.mk
    |>.records "claims" (·.claims) claimFields.write Claim.validate Claim.readBack Claim.validate_write
    |>.fieldOr "conflicts" (·.conflicts) [] |>.fieldOr "obligations" (·.obligations) []
    |>.fieldOr "obligation_dispositions" (·.obligationDispositions) []
    |>.records "candidates" (·.candidates) candidateFields.write candidateFields.validate Candidate.readBack
      Candidate.validate_write
    |>.records "residuals" (·.residuals) residualFields.write residualFields.validate Residual.readBack
      Residual.validate_write
    |>.fieldOr "corrections" (·.corrections) [] |>.fieldOr "guard_changes" (·.guardChanges) []

def warrantRecordFields : Fields WarrantRecords WarrantRecords :=
  Fields.of WarrantRecords.mk |>.fieldOr "nogoods" (·.nogoods) []
    |>.fieldOr "support_route_standing_changes" (·.supportRouteStandingChanges) []
    |>.fieldOr "nogood_standing_changes" (·.nogoodStandingChanges) []
    |>.fieldOr "evidence_records" (·.evidenceRecords) [] |>.fieldOr "checker_verdicts" (·.checkerVerdicts) []
    |>.fieldOr "warrant_decisions" (·.warrantDecisions) [] |>.fieldOr "lemma_versions" (·.lemmaVersions) []
    |>.fieldOr "lemma_supports" (·.lemmaSupports) [] |>.fieldOr "promotion_links" (·.promotionLinks) []

def probeRecordFields : Fields ProbeRecords ProbeRecords :=
  Fields.of ProbeRecords.mk |>.fieldOr "admitted_probes" (·.admittedProbes) []
    |>.fieldOr "cognitive_plans" (·.cognitivePlans) [] |>.fieldOr "predictions" (·.predictions) []
    |>.fieldOr "probe_observations" (·.probeObservations) [] |>.fieldOr "reconstructions" (·.reconstructions) []
    |>.fieldOr "mismatches" (·.mismatches) [] |>.fieldOr "semantic_deltas" (·.semanticDeltas) []

def retentionRecordFields : Fields RetentionRecords RetentionRecords :=
  Fields.of RetentionRecords.mk |>.fieldOr "direct_use_routes" (·.directUseRoutes) []
    |>.fieldOr "reconstruction_routes" (·.reconstructionRoutes) []
    |>.fieldOr "consequence_evaluation_routes" (·.consequenceEvaluationRoutes) []
    |>.fieldOr "reacquisition_routes" (·.reacquisitionRoutes) []
    |>.fieldOr "reacquisition_scaffolds" (·.reacquisitionScaffolds) []
    |>.fieldOr "recovery_protocols" (·.recoveryProtocols) [] |>.fieldOr "retention_packages" (·.retentionPackages) []

def retrievalRecordFields : Fields RetrievalRecords RetrievalRecords :=
  Fields.of RetrievalRecords.mk |>.fieldOr "retrieval_policies" (·.retrievalPolicies) []
    |>.fieldOr "retrieval_queries" (·.retrievalQueries) [] |>.fieldOr "retrieval_results" (·.retrievalResults) []

def recoveryRecordFields : Fields RecoveryRecords RecoveryRecords :=
  Fields.of RecoveryRecords.mk |>.fieldOr "reacquisition_requests" (·.reacquisitionRequests) []
    |>.fieldOr "reacquisition_inquiry_links" (·.reacquisitionInquiryLinks) []
    |>.fieldOr "recovery_observations" (·.recoveryObservations) []
    |>.fieldOr "recovery_comparisons" (·.recoveryComparisons) []

def learningRecordFields : Fields LearningRecords LearningRecords :=
  Fields.of LearningRecords.mk |>.fieldOr "consolidation_checkpoints" (·.consolidationCheckpoints) []
    |>.fieldOr "consolidation_candidates" (·.consolidationCandidates) []
    |>.fieldOr "memory_patch_candidates" (·.memoryPatchCandidates) []
    |>.fieldOr "reconsolidation_links" (·.reconsolidationLinks) []
    |>.fieldOr "semantic_field_evaluations" (·.semanticFieldEvaluations) []
    |>.fieldOr "representation_gaps" (·.representationGaps) []
    |>.fieldOr "learned_probe_candidates" (·.learnedProbeCandidates) []
    |>.fieldOr "probe_evaluations" (·.probeEvaluations) []
    |>.fieldOr "probe_admission_decisions" (·.probeAdmissionDecisions) []

def compressionRecordFields : Fields CompressionRecords CompressionRecords :=
  Fields.of CompressionRecords.mk |>.fieldOr "binding_carrier_manifests" (·.bindingCarrierManifests) []
    |>.fieldOr "realized_history_derivations" (·.realizedHistoryDerivations) []
    |>.fieldOr "compression_contracts" (·.compressionContracts) []
    |>.fieldOr "compression_validations" (·.compressionValidations) []
    |>.fieldOr "exact_compression_licenses" (·.exactCompressionLicenses) []
    |>.fieldOr "path_residues" (·.pathResidues) []
    |>.fieldOr "compression_applications" (·.compressionApplications) []
    |>.fieldOr "recovery_licenses" (·.recoveryLicenses) []
    |>.fieldOr "retention_capability_links" (·.retentionCapabilityLinks) []
    |>.fieldOr "representation_successor_decisions" (·.representationSuccessorDecisions) []
    |>.fieldOr "representation_reopenings" (·.representationReopenings) []

def projectRecordFields : Fields ProjectRecords ProjectRecords :=
  Fields.of ProjectRecords.mk |>.fieldOr "project_anchors" (·.projectAnchors) []
    |>.fieldOr "capability_limitations" (·.capabilityLimitations) []
    |>.fieldOr "question_contract_candidates" (·.questionContractCandidates) []
    |>.fieldOr "question_repertoire_decisions" (·.questionRepertoireDecisions) []
    |>.fieldOr "method_binding_candidates" (·.methodBindingCandidates) []
    |>.fieldOr "method_admission_decisions" (·.methodAdmissionDecisions) []
    |>.fieldOr "capability_successor_candidates" (·.capabilitySuccessorCandidates) []
    |>.fieldOr "capability_frontiers" (·.capabilityFrontiers) []
    |>.fieldOr "implementation_goal_candidates" (·.implementationGoalCandidates) []
    |>.fieldOr "goal_admission_decisions" (·.goalAdmissionDecisions) []
    |>.fieldOr "implementation_goals" (·.implementationGoals) []
    |>.fieldOr "candidate_environments" (·.candidateEnvironments) []
    |>.fieldOr "development_evidence" (·.developmentEvidence) []
    |>.fieldOr "independent_reviews" (·.independentReviews) []
    |>.fieldOr "project_successor_decisions" (·.projectSuccessorDecisions) []
    |>.fieldOr "promotion_decisions" (·.promotionDecisions) []
    |>.fieldOr "recursive_cycle_checkpoints" (·.recursiveCycleCheckpoints) []
    |>.fieldOr "recursive_stop_dispositions" (·.recursiveStopDispositions) []

/-- The object of a state: the fields of all its areas. -/
def stateFields : Fields InquiryState InquiryState :=
  Fields.of InquiryState.mk |>.group (·.toInquiryHeader) headerFields |>.group (·.toEffectRecords) effectRecordFields
    |>.group (·.toClaimRecords) claimRecordFields |>.group (·.toWarrantRecords) warrantRecordFields
    |>.group (·.toProbeRecords) probeRecordFields |>.group (·.toRetentionRecords) retentionRecordFields
    |>.group (·.toRetrievalRecords) retrievalRecordFields |>.group (·.toRecoveryRecords) recoveryRecordFields
    |>.group (·.toLearningRecords) learningRecordFields |>.group (·.toCompressionRecords) compressionRecordFields
    |>.group (·.toProjectRecords) projectRecordFields

/-- The validators of the records that a state carries, run before its own. -/
def validateStateRecords [Fingerprints] (state : InquiryState) : Except Failure Unit := do
  state.effectRequests.forM (fun request => (rebuildRequest request).map (fun _ => ()))
  state.lemmaVersions.forM (fun version => version.validateVersion.map (fun _ => ()))
  state.lemmaSupports.forM (fun support => support.validateSupport.map (fun _ => ()))
  state.promotionLinks.forM (fun link => link.validateLink.map (fun _ => ()))
  state.recoveryComparisons.forM (fun comparison => comparison.validateComparisonShape.map (fun _ => ()))
  state.consolidationCheckpoints.forM (fun checkpoint => checkpoint.validateCheckpoint.map (fun _ => ()))
  state.semanticFieldEvaluations.forM (fun evaluation => do
    let _ ← evaluation.field.validateField
    let _ ← evaluation.validateEvaluation
    return ())
  state.probeEvaluations.forM (fun evaluation => evaluation.validateProbeEvaluation.map (fun _ => ()))
  state.capabilityFrontiers.forM (fun frontier => frontier.validateFrontier.map (fun _ => ()))

/-- `decode_state`, on the value that the persisted bytes denote. -/
def decodeState [Fingerprints] (given : JsonValue) : Except Failure InquiryState := do
  let state ← found (stateFields.validate given) (.validation "state does not match its schema")
  validateStateRecords state
  state.validateLifecycle

end

end RatchetingInquiry
