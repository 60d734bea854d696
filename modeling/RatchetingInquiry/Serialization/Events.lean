import RatchetingInquiry.Core.Run
import RatchetingInquiry.Serialization.Memory
import RatchetingInquiry.Serialization.Project

/-! The bytes of a persisted event, and reading them back. Canonical JSON writes a value in one way and its text is
read back as that value, so that the bytes are represented by the value that they denote. -/

namespace RatchetingInquiry

def EffectEvent.kind : EffectEvent → String
  | .backlogEffectRecorded .. => "backlog_effect_recorded"
  | .stepPlanRecorded .. => "step_plan_recorded"
  | .effectRequested .. => "effect_requested"
  | .effectAttemptPlanned .. => "effect_attempt_planned"
  | .effectAttemptStarted .. => "effect_attempt_started"
  | .effectNoAttemptDispositionRecorded .. => "effect_no_attempt_disposition_recorded"
  | .effectAttemptOutcomeRecorded .. => "effect_attempt_outcome_recorded"
  | .effectDecodeOutcomeRecorded .. => "effect_decode_outcome_recorded"
  | .effectResultAccepted .. => "effect_result_accepted"

def ClaimEvent.kind : ClaimEvent → String
  | .claimAdmitted .. => "claim_admitted"
  | .obligationOpened .. => "obligation_opened"
  | .obligationDispositionRecorded .. => "obligation_disposition_recorded"
  | .candidateRecorded .. => "candidate_recorded"
  | .residualRecorded .. => "residual_recorded"
  | .correctionAppended .. => "correction_appended"
  | .guardStandingChanged .. => "guard_standing_changed"

def WarrantEvent.kind : WarrantEvent → String
  | .nogoodRecorded .. => "nogood_recorded"
  | .supportRouteStandingChanged .. => "support_route_standing_changed"
  | .nogoodStandingChanged .. => "nogood_standing_changed"
  | .evidenceRecorded .. => "evidence_recorded"
  | .checkerVerdictRecorded .. => "checker_verdict_recorded"
  | .warrantDecisionRecorded .. => "warrant_decision_recorded"
  | .lemmaPromoted .. => "lemma_promoted"

def ProbeDomainEvent.kind : ProbeDomainEvent → String
  | .probeAdmitted .. => "probe_admitted"
  | .cognitivePlanRecorded .. => "cognitive_plan_recorded"
  | .predictionSealed .. => "prediction_sealed"
  | .probeObservationRecorded .. => "probe_observation_recorded"
  | .reconstructionRecorded .. => "reconstruction_recorded"
  | .mismatchRecorded .. => "mismatch_recorded"
  | .semanticDeltaCommitted .. => "semantic_delta_committed"

def MemoryEvent.kind : MemoryEvent → String
  | .retentionPackageRegistered .. => "retention_package_registered"
  | .retrievalCompleted .. => "retrieval_completed"
  | .reacquisitionRequested .. => "reacquisition_requested"
  | .reacquisitionInquiryLinked .. => "reacquisition_inquiry_linked"
  | .recoveryObservationRecorded .. => "recovery_observation_recorded"
  | .recoveryComparisonRecorded .. => "recovery_comparison_recorded"

def LearningEvent.kind : LearningEvent → String
  | .consolidationCheckpointRecorded .. => "consolidation_checkpoint_recorded"
  | .consolidationCandidateRecorded .. => "consolidation_candidate_recorded"
  | .memoryPatchCandidateRecorded .. => "memory_patch_candidate_recorded"
  | .reconsolidationLinked .. => "reconsolidation_linked"
  | .semanticFieldEvaluationRecorded .. => "semantic_field_evaluation_recorded"
  | .representationGapRecorded .. => "representation_gap_recorded"
  | .learnedProbeCandidateRecorded .. => "learned_probe_candidate_recorded"
  | .probeEvaluationRecorded .. => "probe_evaluation_recorded"
  | .probeAdmissionDecisionRecorded .. => "probe_admission_decision_recorded"

def CompressionEvent.kind : CompressionEvent → String
  | .bindingCarrierManifestRegistered .. => "binding_carrier_manifest_registered"
  | .realizedHistoryDerivationRecorded .. => "realized_history_derivation_recorded"
  | .compressionContractRegistered .. => "compression_contract_registered"
  | .compressionValidationRecorded .. => "compression_validation_recorded"
  | .exactCompressionLicenseGranted .. => "exact_compression_license_granted"
  | .compressionApplicationRecorded .. => "compression_application_recorded"
  | .recoveryLicenseGranted .. => "recovery_license_granted"
  | .retentionCapabilityLinked .. => "retention_capability_linked"
  | .representationSuccessorDecided .. => "representation_successor_decided"
  | .representationReopened .. => "representation_reopened"

def ProjectEvent.kind : ProjectEvent → String
  | .projectAnchorRecorded .. => "project_anchor_recorded"
  | .capabilityLimitationRecorded .. => "capability_limitation_recorded"
  | .questionContractCandidateRecorded .. => "question_contract_candidate_recorded"
  | .questionRepertoireDecided .. => "question_repertoire_decided"
  | .methodBindingCandidateRecorded .. => "method_binding_candidate_recorded"
  | .methodAdmissionDecided .. => "method_admission_decided"
  | .capabilitySuccessorCandidateRecorded .. => "capability_successor_candidate_recorded"
  | .capabilityFrontierRecorded .. => "capability_frontier_recorded"
  | .implementationGoalCandidateRecorded .. => "implementation_goal_candidate_recorded"
  | .goalAdmissionDecided .. => "goal_admission_decided"
  | .implementationGoalSealed .. => "implementation_goal_sealed"
  | .candidateEnvironmentRecorded .. => "candidate_environment_recorded"
  | .developmentEvidenceRecorded .. => "development_evidence_recorded"
  | .independentReviewRecorded .. => "independent_review_recorded"
  | .projectSuccessorDecided .. => "project_successor_decided"
  | .promotionDecisionRecorded .. => "promotion_decision_recorded"
  | .recursiveCycleCheckpointRecorded .. => "recursive_cycle_checkpoint_recorded"
  | .recursiveStopDispositionRecorded .. => "recursive_stop_disposition_recorded"

def EventBody.kind : EventBody → String
  | .inquiryStarted .. => "inquiry_started"
  | .effect event => event.kind
  | .claim event => event.kind
  | .warrant event => event.kind
  | .probe event => event.kind
  | .memory event => event.kind
  | .learning event => event.kind
  | .compression event => event.kind
  | .project event => event.kind

def EventBody.effectPart : EventBody → Option EffectEvent
  | .effect event => some event
  | _ => none

def EventBody.claimPart : EventBody → Option ClaimEvent
  | .claim event => some event
  | _ => none

def EventBody.warrantPart : EventBody → Option WarrantEvent
  | .warrant event => some event
  | _ => none

def EventBody.probePart : EventBody → Option ProbeDomainEvent
  | .probe event => some event
  | _ => none

def EventBody.memoryPart : EventBody → Option MemoryEvent
  | .memory event => some event
  | _ => none

def EventBody.learningPart : EventBody → Option LearningEvent
  | .learning event => some event
  | _ => none

def EventBody.compressionPart : EventBody → Option CompressionEvent
  | .compression event => some event
  | _ => none

def EventBody.projectPart : EventBody → Option ProjectEvent
  | .project event => some event
  | _ => none

section
variable [Pydantic]

def EffectEvent.members : List (Member EffectEvent) :=
  [.single "backlog_effect_recorded" "effect" .backlogEffectRecorded
      (fun | .backlogEffectRecorded effect => some effect | _ => none),
    .single "step_plan_recorded" "plan" .stepPlanRecorded (fun | .stepPlanRecorded plan => some plan | _ => none),
    .single "effect_requested" "request" .effectRequested
      (fun | .effectRequested request => some request | _ => none),
    .single "effect_attempt_planned" "plan" .effectAttemptPlanned
      (fun | .effectAttemptPlanned plan => some plan | _ => none),
    .single "effect_attempt_started" "attempt_id" .effectAttemptStarted
      (fun | .effectAttemptStarted attemptId => some attemptId | _ => none),
    .single "effect_no_attempt_disposition_recorded" "disposition" .effectNoAttemptDispositionRecorded
      (fun | .effectNoAttemptDispositionRecorded disposition => some disposition | _ => none),
    .of "effect_attempt_outcome_recorded" (Fields.of EffectEvent.effectAttemptOutcomeRecorded
        |>.field "request_id" (·.1) |>.field "outcome" (·.2))
      (fun | .effectAttemptOutcomeRecorded requestId outcome => some (requestId, outcome) | _ => none),
    .of "effect_decode_outcome_recorded" (Fields.of EffectEvent.effectDecodeOutcomeRecorded
        |>.field "request_id" (·.1) |>.field "outcome" (·.2))
      (fun | .effectDecodeOutcomeRecorded requestId outcome => some (requestId, outcome) | _ => none),
    .of "effect_result_accepted" (Fields.of EffectEvent.effectResultAccepted
        |>.field "request_id" (·.1) |>.field "decoded_outcome_id" (·.2))
      (fun | .effectResultAccepted requestId decodedOutcomeId => some (requestId, decodedOutcomeId) | _ => none)]

def ClaimEvent.members : List (Member ClaimEvent) :=
  [.of "claim_admitted" (Fields.of ClaimEvent.claimAdmitted
        |>.slot "claim" (·.1) none claimFields.write Claim.validate Claim.readBack Claim.validate_write
        |>.fieldOr "derived_conflicts" (·.2.1) [] |>.fieldOr "derived_obligations" (·.2.2) [])
      (fun | .claimAdmitted claim conflicts obligations => some (claim, conflicts, obligations) | _ => none),
    .single "obligation_opened" "obligation" .obligationOpened
      (fun | .obligationOpened obligation => some obligation | _ => none),
    .single "obligation_disposition_recorded" "disposition" .obligationDispositionRecorded
      (fun | .obligationDispositionRecorded disposition => some disposition | _ => none),
    .of "candidate_recorded" (Fields.of ClaimEvent.candidateRecorded
        |>.slot "candidate" id none candidateFields.write candidateFields.validate Candidate.readBack
          Candidate.validate_write)
      (fun | .candidateRecorded candidate => some candidate | _ => none),
    .of "residual_recorded" (Fields.of ClaimEvent.residualRecorded
        |>.slot "residual" id none residualFields.write residualFields.validate Residual.readBack
          Residual.validate_write)
      (fun | .residualRecorded residual => some residual | _ => none),
    .single "correction_appended" "correction" .correctionAppended
      (fun | .correctionAppended correction => some correction | _ => none),
    .single "guard_standing_changed" "change" .guardStandingChanged
      (fun | .guardStandingChanged change => some change | _ => none)]

def WarrantEvent.members : List (Member WarrantEvent) :=
  [.single "nogood_recorded" "nogood" .nogoodRecorded (fun | .nogoodRecorded nogood => some nogood | _ => none),
    .single "support_route_standing_changed" "change" .supportRouteStandingChanged
      (fun | .supportRouteStandingChanged change => some change | _ => none),
    .single "nogood_standing_changed" "change" .nogoodStandingChanged
      (fun | .nogoodStandingChanged change => some change | _ => none),
    .single "evidence_recorded" "evidence" .evidenceRecorded
      (fun | .evidenceRecorded evidence => some evidence | _ => none),
    .single "checker_verdict_recorded" "checker_verdict" .checkerVerdictRecorded
      (fun | .checkerVerdictRecorded verdict => some verdict | _ => none),
    .of "warrant_decision_recorded" (Fields.of WarrantEvent.warrantDecisionRecorded
        |>.field "scope" (·.1) |>.field "decision" (·.2))
      (fun | .warrantDecisionRecorded scope decision => some (scope, decision) | _ => none),
    .of "lemma_promoted" (Fields.of WarrantEvent.lemmaPromoted
        |>.field "version" (·.1) |>.field "support" (·.2.1) |>.field "link" (·.2.2))
      (fun | .lemmaPromoted version support link => some (version, support, link) | _ => none)]

def ProbeDomainEvent.members : List (Member ProbeDomainEvent) :=
  [.single "probe_admitted" "probe" .probeAdmitted (fun | .probeAdmitted probe => some probe | _ => none),
    .single "cognitive_plan_recorded" "plan" .cognitivePlanRecorded
      (fun | .cognitivePlanRecorded plan => some plan | _ => none),
    .single "prediction_sealed" "prediction" .predictionSealed
      (fun | .predictionSealed prediction => some prediction | _ => none),
    .single "probe_observation_recorded" "observation" .probeObservationRecorded
      (fun | .probeObservationRecorded observation => some observation | _ => none),
    .single "reconstruction_recorded" "reconstruction" .reconstructionRecorded
      (fun | .reconstructionRecorded reconstruction => some reconstruction | _ => none),
    .single "mismatch_recorded" "mismatch" .mismatchRecorded
      (fun | .mismatchRecorded mismatch => some mismatch | _ => none),
    .single "semantic_delta_committed" "delta" .semanticDeltaCommitted
      (fun | .semanticDeltaCommitted delta => some delta | _ => none)]

def MemoryEvent.members : List (Member MemoryEvent) :=
  [.single "retention_package_registered" "registration" .retentionPackageRegistered
      (fun | .retentionPackageRegistered registration => some registration | _ => none),
    .of "retrieval_completed" (Fields.of MemoryEvent.retrievalCompleted
        |>.field "policy" (·.1) |>.field "query" (·.2.1) |>.field "result" (·.2.2))
      (fun | .retrievalCompleted policy query result => some (policy, query, result) | _ => none),
    .single "reacquisition_requested" "request" .reacquisitionRequested
      (fun | .reacquisitionRequested request => some request | _ => none),
    .single "reacquisition_inquiry_linked" "link" .reacquisitionInquiryLinked
      (fun | .reacquisitionInquiryLinked link => some link | _ => none),
    .single "recovery_observation_recorded" "observation" .recoveryObservationRecorded
      (fun | .recoveryObservationRecorded observation => some observation | _ => none),
    .single "recovery_comparison_recorded" "comparison" .recoveryComparisonRecorded
      (fun | .recoveryComparisonRecorded comparison => some comparison | _ => none)]

def LearningEvent.members : List (Member LearningEvent) :=
  [.single "consolidation_checkpoint_recorded" "checkpoint" .consolidationCheckpointRecorded
      (fun | .consolidationCheckpointRecorded checkpoint => some checkpoint | _ => none),
    .single "consolidation_candidate_recorded" "candidate" .consolidationCandidateRecorded
      (fun | .consolidationCandidateRecorded candidate => some candidate | _ => none),
    .single "memory_patch_candidate_recorded" "candidate" .memoryPatchCandidateRecorded
      (fun | .memoryPatchCandidateRecorded candidate => some candidate | _ => none),
    .single "reconsolidation_linked" "link" .reconsolidationLinked
      (fun | .reconsolidationLinked link => some link | _ => none),
    .of "semantic_field_evaluation_recorded" (Fields.of LearningEvent.semanticFieldEvaluationRecorded
        |>.field "evaluation" (·.1)
        |>.slot "overflow_residual" (·.2) (some none) (dumpOptional residualFields.write)
          (validateOptional residualFields.validate) (Option.map Residual.readBack)
          (validateOptional_dumpOptional Residual.validate_write residualFields.write_ne_null))
      (fun | .semanticFieldEvaluationRecorded evaluation residual => some (evaluation, residual) | _ => none),
    .single "representation_gap_recorded" "gap" .representationGapRecorded
      (fun | .representationGapRecorded gap => some gap | _ => none),
    .single "learned_probe_candidate_recorded" "candidate" .learnedProbeCandidateRecorded
      (fun | .learnedProbeCandidateRecorded candidate => some candidate | _ => none),
    .single "probe_evaluation_recorded" "evaluation" .probeEvaluationRecorded
      (fun | .probeEvaluationRecorded evaluation => some evaluation | _ => none),
    .single "probe_admission_decision_recorded" "decision" .probeAdmissionDecisionRecorded
      (fun | .probeAdmissionDecisionRecorded decision => some decision | _ => none)]

def CompressionEvent.members : List (Member CompressionEvent) :=
  [.single "binding_carrier_manifest_registered" "manifest" .bindingCarrierManifestRegistered
      (fun | .bindingCarrierManifestRegistered manifest => some manifest | _ => none),
    .single "realized_history_derivation_recorded" "derivation" .realizedHistoryDerivationRecorded
      (fun | .realizedHistoryDerivationRecorded derivation => some derivation | _ => none),
    .single "compression_contract_registered" "contract" .compressionContractRegistered
      (fun | .compressionContractRegistered contract => some contract | _ => none),
    .single "compression_validation_recorded" "validation" .compressionValidationRecorded
      (fun | .compressionValidationRecorded validation => some validation | _ => none),
    .single "exact_compression_license_granted" "license" .exactCompressionLicenseGranted
      (fun | .exactCompressionLicenseGranted license => some license | _ => none),
    .of "compression_application_recorded" (Fields.of CompressionEvent.compressionApplicationRecorded
        |>.field "application" (·.1) |>.fieldOr "path_residues" (·.2) [])
      (fun | .compressionApplicationRecorded application pathResidues => some (application, pathResidues) | _ => none),
    .single "recovery_license_granted" "license" .recoveryLicenseGranted
      (fun | .recoveryLicenseGranted license => some license | _ => none),
    .single "retention_capability_linked" "link" .retentionCapabilityLinked
      (fun | .retentionCapabilityLinked link => some link | _ => none),
    .single "representation_successor_decided" "decision" .representationSuccessorDecided
      (fun | .representationSuccessorDecided decision => some decision | _ => none),
    .single "representation_reopened" "reopening" .representationReopened
      (fun | .representationReopened reopening => some reopening | _ => none)]

def ProjectEvent.members : List (Member ProjectEvent) :=
  [.single "project_anchor_recorded" "anchor" .projectAnchorRecorded
      (fun | .projectAnchorRecorded anchor => some anchor | _ => none),
    .single "capability_limitation_recorded" "limitation" .capabilityLimitationRecorded
      (fun | .capabilityLimitationRecorded limitation => some limitation | _ => none),
    .single "question_contract_candidate_recorded" "candidate" .questionContractCandidateRecorded
      (fun | .questionContractCandidateRecorded candidate => some candidate | _ => none),
    .single "question_repertoire_decided" "decision" .questionRepertoireDecided
      (fun | .questionRepertoireDecided decision => some decision | _ => none),
    .single "method_binding_candidate_recorded" "candidate" .methodBindingCandidateRecorded
      (fun | .methodBindingCandidateRecorded candidate => some candidate | _ => none),
    .single "method_admission_decided" "decision" .methodAdmissionDecided
      (fun | .methodAdmissionDecided decision => some decision | _ => none),
    .single "capability_successor_candidate_recorded" "candidate" .capabilitySuccessorCandidateRecorded
      (fun | .capabilitySuccessorCandidateRecorded candidate => some candidate | _ => none),
    .single "capability_frontier_recorded" "frontier" .capabilityFrontierRecorded
      (fun | .capabilityFrontierRecorded frontier => some frontier | _ => none),
    .single "implementation_goal_candidate_recorded" "candidate" .implementationGoalCandidateRecorded
      (fun | .implementationGoalCandidateRecorded candidate => some candidate | _ => none),
    .single "goal_admission_decided" "decision" .goalAdmissionDecided
      (fun | .goalAdmissionDecided decision => some decision | _ => none),
    .single "implementation_goal_sealed" "goal" .implementationGoalSealed
      (fun | .implementationGoalSealed goal => some goal | _ => none),
    .single "candidate_environment_recorded" "manifest" .candidateEnvironmentRecorded
      (fun | .candidateEnvironmentRecorded manifest => some manifest | _ => none),
    .single "development_evidence_recorded" "evidence" .developmentEvidenceRecorded
      (fun | .developmentEvidenceRecorded evidence => some evidence | _ => none),
    .single "independent_review_recorded" "review" .independentReviewRecorded
      (fun | .independentReviewRecorded review => some review | _ => none),
    .single "project_successor_decided" "decision" .projectSuccessorDecided
      (fun | .projectSuccessorDecided decision => some decision | _ => none),
    .single "promotion_decision_recorded" "decision" .promotionDecisionRecorded
      (fun | .promotionDecisionRecorded decision => some decision | _ => none),
    .single "recursive_cycle_checkpoint_recorded" "checkpoint" .recursiveCycleCheckpointRecorded
      (fun | .recursiveCycleCheckpointRecorded checkpoint => some checkpoint | _ => none),
    .single "recursive_stop_disposition_recorded" "disposition" .recursiveStopDispositionRecorded
      (fun | .recursiveStopDispositionRecorded disposition => some disposition | _ => none)]

def inquiryStartedMember : Member EventBody :=
  .of "inquiry_started" (Fields.of EventBody.inquiryStarted |>.field "manifest_artifact" (·.1)
      |>.field "policy_version" (·.2.1) |>.field "context" (·.2.2))
    (fun | .inquiryStarted manifest version context => some (manifest, version, context) | _ => none)

/-- The members of each area, as members of the whole. -/
def eventAreas : List (List (Member EventBody)) :=
  [EffectEvent.members.map (·.within .effect EventBody.effectPart),
    ClaimEvent.members.map (·.within .claim EventBody.claimPart),
    WarrantEvent.members.map (·.within .warrant EventBody.warrantPart),
    ProbeDomainEvent.members.map (·.within .probe EventBody.probePart),
    MemoryEvent.members.map (·.within .memory EventBody.memoryPart),
    LearningEvent.members.map (·.within .learning EventBody.learningPart),
    CompressionEvent.members.map (·.within .compression EventBody.compressionPart),
    ProjectEvent.members.map (·.within .project EventBody.projectPart)]

def eventMembers : List (Member EventBody) :=
  inquiryStartedMember :: eventAreas.flatten

/-- The objects of events: the facts that every event carries, its kind, and the fields of that kind. -/
def eventUnion : Union DomainEvent (EventBody → DomainEvent) EventBody where
  tagName := "kind"
  common := Fields.of (fun eventId inquiryId occurredAt body => ⟨⟨eventId, inquiryId, occurredAt⟩, body⟩)
    |>.field "event_id" (·.head.eventId) |>.field "inquiry_id" (·.head.inquiryId)
    |>.datetime "occurred_at" (·.head.occurredAt) |>.literal "schema_version" (.int 1)
  members := eventMembers

/-- What is read of an event once it was written: its payloads as they are resolved, all else as it was. -/
def ClaimEvent.readBack : ClaimEvent → ClaimEvent
  | .claimAdmitted claim conflicts obligations => .claimAdmitted claim.readBack conflicts obligations
  | .candidateRecorded candidate => .candidateRecorded candidate.readBack
  | .residualRecorded residual => .residualRecorded residual.readBack
  | event => event

def LearningEvent.readBack : LearningEvent → LearningEvent
  | .semanticFieldEvaluationRecorded evaluation residual =>
    .semanticFieldEvaluationRecorded evaluation (residual.map Residual.readBack)
  | event => event

def EventBody.readBack : EventBody → EventBody
  | .claim event => .claim event.readBack
  | .learning event => .learning event.readBack
  | body => body

def DomainEvent.readBack (event : DomainEvent) : DomainEvent :=
  { event with body := event.body.readBack }

theorem EffectEvent.covers (event : EffectEvent) : Covers EffectEvent.members event.kind event event := by
  cases event <;> exact ⟨_, rfl, Member.of_reads rfl rfl⟩

theorem ClaimEvent.covers (event : ClaimEvent) : Covers ClaimEvent.members event.kind event event.readBack := by
  cases event <;> exact ⟨_, rfl, Member.of_reads rfl rfl⟩

omit [Pydantic] in
theorem WarrantEvent.covers (event : WarrantEvent) : Covers WarrantEvent.members event.kind event event := by
  cases event <;> exact ⟨_, rfl, Member.of_reads rfl rfl⟩

omit [Pydantic] in
theorem ProbeDomainEvent.covers (event : ProbeDomainEvent) :
    Covers ProbeDomainEvent.members event.kind event event := by
  cases event <;> exact ⟨_, rfl, Member.of_reads rfl rfl⟩

omit [Pydantic] in
theorem MemoryEvent.covers (event : MemoryEvent) : Covers MemoryEvent.members event.kind event event := by
  cases event <;> exact ⟨_, rfl, Member.of_reads rfl rfl⟩

theorem LearningEvent.covers (event : LearningEvent) :
    Covers LearningEvent.members event.kind event event.readBack := by
  cases event <;> exact ⟨_, rfl, Member.of_reads rfl rfl⟩

omit [Pydantic] in
theorem CompressionEvent.covers (event : CompressionEvent) :
    Covers CompressionEvent.members event.kind event event := by
  cases event <;> exact ⟨_, rfl, Member.of_reads rfl rfl⟩

omit [Pydantic] in
theorem ProjectEvent.covers (event : ProjectEvent) : Covers ProjectEvent.members event.kind event event := by
  cases event <;> exact ⟨_, rfl, Member.of_reads rfl rfl⟩

theorem eventMembers_tags : (eventMembers.map Member.tag).Nodup := of_decide_eq_true rfl

theorem eventUnion_names : ∀ member ∈ eventUnion.members, (eventUnion.names member).Nodup := of_decide_eq_true rfl

theorem mem_eventMembers {σ : Type} {members : List (Member σ)} {inject : σ → EventBody} {part : EventBody → Option σ}
    (area : members.map (·.within inject part) ∈ eventAreas) :
    ∀ member ∈ members, member.within inject part ∈ eventMembers := by
  intro member listed
  have lifted := List.mem_map_of_mem (f := (·.within inject part)) listed
  exact List.mem_cons_of_mem _ (List.mem_flatten_of_mem area lifted)

theorem EventBody.covers (body : EventBody) : Covers eventUnion.members body.kind body body.readBack := by
  have distinct := eventMembers_tags
  cases body with
  | inquiryStarted manifest version context => exact ⟨_, rfl, Member.of_reads rfl rfl⟩
  | effect event =>
    exact event.covers.within distinct .effect EventBody.effectPart (mem_eventMembers (by simp [eventAreas])) rfl
  | claim event =>
    exact event.covers.within distinct .claim EventBody.claimPart (mem_eventMembers (by simp [eventAreas])) rfl
  | warrant event =>
    exact event.covers.within distinct .warrant EventBody.warrantPart (mem_eventMembers (by simp [eventAreas])) rfl
  | probe event =>
    exact event.covers.within distinct .probe EventBody.probePart (mem_eventMembers (by simp [eventAreas])) rfl
  | memory event =>
    exact event.covers.within distinct .memory EventBody.memoryPart (mem_eventMembers (by simp [eventAreas])) rfl
  | learning event =>
    exact event.covers.within distinct .learning EventBody.learningPart (mem_eventMembers (by simp [eventAreas])) rfl
  | compression event =>
    exact event.covers.within distinct .compression EventBody.compressionPart (mem_eventMembers (by simp [eventAreas])) rfl
  | project event =>
    exact event.covers.within distinct .project EventBody.projectPart (mem_eventMembers (by simp [eventAreas])) rfl

/-- `encode_event`: the canonical JSON of an event. -/
def encodeEvent (event : DomainEvent) : JsonValue :=
  eventUnion.write event.body.kind event event.body

/-- `upcast_event_payload`. No upcaster is registered, so a payload of another version has no way forward. -/
def upcastEventPayload (payload : List (String × JsonValue)) : Except Failure (List (String × JsonValue)) :=
  match fieldOf payload "kind", fieldOf payload "schema_version" with
  | some (.text kind), some (.int version) =>
    if version = 1 then .ok payload
    else .error (.validation ("no reviewed upcaster for " ++ kind ++ " schema version " ++ toString version))
  | _, _ => .error (.validation "event kind and integer version are required")

/-- `decode_event`, on the value that the persisted bytes denote. -/
def decodeEvent : JsonValue → Except Failure DomainEvent
  | .object payload => do
    let current ← upcastEventPayload payload
    let (build, body) ← found (eventUnion.validate (.object current)) (.validation "event does not match its schema")
    return build body
  | _ => .error (.validation "persisted event must be a JSON object")

theorem decodeEvent_encodeEvent (event : DomainEvent) : decodeEvent (encodeEvent event) = .ok event.readBack := by
  have reads := Union.validate_write event.body.covers eventUnion_names event
  obtain ⟨-, written, -, writes, -, tag, common, -⟩ := Union.write_eq event.body.covers eventUnion_names event
  have kind : fieldOf written "kind" = some (.text event.body.kind) := tag
  have version : fieldOf written "schema_version" = some (.int 1) :=
    common ("schema_version", .int 1) List.mem_cons_self
  have upcast : upcastEventPayload written = .ok written := by
    unfold upcastEventPayload
    rw [kind, version]
    rfl
  rw [writes] at reads
  unfold encodeEvent
  rw [writes]
  simp only [decodeEvent, upcast, reads, found, bind, Except.bind, pure, Except.pure]
  rfl

end

end RatchetingInquiry
