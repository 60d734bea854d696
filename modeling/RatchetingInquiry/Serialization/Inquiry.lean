import RatchetingInquiry.Backlog.Models
import RatchetingInquiry.Core.Effects
import RatchetingInquiry.Library.Codec
import RatchetingInquiry.Probes.Models
import RatchetingInquiry.Warrant.Models

/-! The JSON of the records that an inquiry keeps of its claims, warrants, probes and effects. Every record is the
object of its fields, under the names that the source gives them. -/

namespace RatchetingInquiry

/-- What the event codec takes from the serializer it is built on: the text of an instant of time, which is read
back as that instant, and its choice where a JSON value can be read as either member of an untagged union. -/
class Pydantic where
  isoformat : Timestamp → String
  fromIsoformat : String → Option Timestamp
  fromIsoformat_isoformat : ∀ instant, fromIsoformat (isoformat instant) = some instant
  prefersRecord : JsonValue → Bool

instance : JsonModel ArtifactRef :=
  .record (Fields.of ArtifactRef.mk |>.literal "algorithm" (.text "sha256") |>.field "digest" (·.digest)
    |>.field "size" (·.size) |>.optional "media_type" (·.mediaType) |>.optional "encoding" (·.encoding))

def CapturedPayload.kind : CapturedPayload → String
  | .bytes _ => "bytes"
  | .null => "null"

def CapturedPayload.artifact : CapturedPayload → Option ArtifactRef
  | .bytes artifact => some artifact
  | .null => none

instance : JsonModel CapturedPayload :=
  .checked (Fields.of (fun (kind : String) (artifact : Option ArtifactRef) =>
      match artifact with
      | some artifact => if kind = "bytes" then some (CapturedPayload.bytes artifact) else none
      | none => if kind = "null" then some .null else none)
    |>.field "kind" (·.kind) |>.optional "artifact" (·.artifact))
    (by intro payload; cases payload <;> rfl)

def InertPayload.dump : InertPayload → JsonValue
  | .artifact reference => JsonModel.dump reference
  | .json value => value

section
variable [Pydantic]

/-- The member of the untagged union that reads a value. Every value is JSON; where it is an artifact reference
too, the serializer takes one of the two. -/
def InertPayload.resolve (given : JsonValue) : InertPayload :=
  match (JsonModel.validate given : Option ArtifactRef) with
  | some reference => if Pydantic.prefersRecord given then .artifact reference else .json given
  | none => .json given

/-- What is read of a payload once it was written. -/
def InertPayload.readBack (payload : InertPayload) : InertPayload :=
  resolve payload.dump

/-- A part that is an inert payload. -/
def Fields.payload {α β : Type} (before : Fields α (InertPayload → β)) (name : String) (part : α → InertPayload) :
    Fields α β :=
  before.slot name part none InertPayload.dump (fun given => some (InertPayload.resolve given)) InertPayload.readBack
    (fun _ => rfl)

/-- A part that is an instant of time. -/
def Fields.datetime {α β : Type} (before : Fields α (Timestamp → β)) (name : String) (part : α → Timestamp) :
    Fields α β :=
  before.slot name part none (fun instant => .text (Pydantic.isoformat instant))
    (fun given => given.asText.bind Pydantic.fromIsoformat) id Pydantic.fromIsoformat_isoformat

end

instance : JsonModel InquiryContext :=
  .checked (Fields.of (fun bindingRevision carrierSchemaIds relationSchemaIds consequenceProfileId protectedHorizonId
      admissibleOperationIds dischargeMechanismIds scopeId scopeFingerprint assumptionIds guardConditionId guardAst
      finiteUniverseHash closedWorld catalogManifestDigest schedulerPolicyVersion warrantPolicyVersion
      provenanceRefs =>
      if valid : (carrierSchemaIds ≠ [] ∧ relationSchemaIds ≠ []) ∧ (provenanceRefs ≠ []) ∧ assumptionIds.Nodup ∧
        dischargeMechanismIds.Nodup ∧ (closedWorld = true → finiteUniverseHash.isSome) ∧
        (guardConditionId.isSome = guardAst.isSome) then
        some ⟨bindingRevision, carrierSchemaIds, relationSchemaIds, consequenceProfileId, protectedHorizonId,
          admissibleOperationIds, dischargeMechanismIds, scopeId, scopeFingerprint, assumptionIds, guardConditionId,
          guardAst, finiteUniverseHash, closedWorld, catalogManifestDigest, schedulerPolicyVersion,
          warrantPolicyVersion, provenanceRefs, valid.1, valid.2.1, valid.2.2.1, valid.2.2.2.1, valid.2.2.2.2.1,
          valid.2.2.2.2.2⟩
      else none)
    |>.field "binding_revision" (·.bindingRevision) |>.field "carrier_schema_ids" (·.carrierSchemaIds)
    |>.field "relation_schema_ids" (·.relationSchemaIds) |>.field "consequence_profile_id" (·.consequenceProfileId)
    |>.field "protected_horizon_id" (·.protectedHorizonId)
    |>.fieldOr "admissible_operation_ids" (·.admissibleOperationIds) []
    |>.fieldOr "discharge_mechanism_ids" (·.dischargeMechanismIds) [] |>.field "scope_id" (·.scopeId)
    |>.field "scope_fingerprint" (·.scopeFingerprint) |>.fieldOr "assumption_ids" (·.assumptionIds) []
    |>.optional "guard_condition_id" (·.guardConditionId) |>.optional "guard_ast" (·.guardAst)
    |>.optional "finite_universe_hash" (·.finiteUniverseHash) |>.fieldOr "closed_world" (·.closedWorld) false
    |>.field "catalog_manifest_digest" (·.catalogManifestDigest)
    |>.field "scheduler_policy_version" (·.schedulerPolicyVersion)
    |>.field "warrant_policy_version" (·.warrantPolicyVersion) |>.field "provenance_refs" (·.provenanceRefs))
    (by intro context; exact dif_pos ⟨context.carriers_pinned, context.provenance_pinned, context.assumptions_unique,
      context.mechanisms_unique, context.closed_world_hashed, context.guard_pinned_together⟩)

instance : JsonModel ClaimRole :=
  .enum [(.observation, "observation"), (.characterization, "characterization"), (.variation, "variation"),
    (.boundary, "boundary"), (.factor, "factor"), (.necessity, "necessity"), (.sufficiency, "sufficiency"),
    (.prerequisite, "prerequisite"), (.conflict, "conflict"), (.residual, "residual"),
    (.localization, "localization"), (.generalization, "generalization"), (.actualization, "actualization"),
    (.invariant, "invariant"), (.pattern, "pattern"), (.interpretation, "interpretation"), (.unknown, "unknown")]

instance : JsonModel ClaimStatus :=
  .enum [(.provisional, "provisional"), (.suspended, "suspended"), (.superseded, "superseded")]

instance : JsonModel ClaimAssessment :=
  .enum [(.unassessed, "unassessed"), (.supported, "supported"), (.contested, "contested"), (.refuted, "refuted"),
    (.unknown, "unknown")]

instance : JsonModel RepresentationLevel :=
  .enum [(.l0Opaque, "l0_opaque"), (.l1Structured, "l1_structured"), (.l2Formal, "l2_formal")]

instance : JsonModel Polarity :=
  .enum [(.positive, "positive"), (.negative, "negative"), (.unspecified, "unspecified")]

instance : JsonModel ConflictKind :=
  .enum [(.structuralPolarity, "structural_polarity"), (.candidateSemantic, "candidate_semantic")]

instance : JsonModel ObligationKind :=
  .enum [(.characterize, "characterize"), (.sameClassVariation, "same_class_variation"),
    (.minimalBoundaryCrossing, "minimal_boundary_crossing"), (.proposeFactor, "propose_factor"),
    (.necessityCounterexample, "necessity_counterexample"),
    (.sufficiencyCounterexample, "sufficiency_counterexample"), (.prerequisiteBypass, "prerequisite_bypass"),
    (.localizeConflict, "localize_conflict"), (.characterizeResidual, "characterize_residual"),
    (.dischargeOpenDependency, "discharge_open_dependency"), (.clarifyReification, "clarify_reification"),
    (.discriminateReconstruction, "discriminate_reconstruction"),
    (.separateConsequenceClasses, "separate_consequence_classes")]

instance : JsonModel ObligationStatus :=
  .enum [(.opened, "open"), (.blocked, "blocked"), (.satisfied, "satisfied"), (.impossible, "impossible"),
    (.unknown, "unknown")]

instance : JsonModel CandidateKind :=
  .enum [(.questionAnswer, "question_answer"), (.formalization, "formalization"),
    (.reconstruction, "reconstruction"), (.generatedProbe, "generated_probe")]

instance : JsonModel CorrectionKind :=
  .enum [(.supersedes, "supersedes"), (.splitsFrom, "splits_from"), (.mergesFrom, "merges_from"),
    (.rebinds, "rebinds"), (.refutes, "refutes"), (.suspends, "suspends"), (.promotes, "promotes"),
    (.reopens, "reopens")]

instance : JsonModel GuardStanding := .enum [(.standing, "standing"), (.invalidated, "invalidated")]

instance : JsonModel BoundArgument :=
  .record (Fields.of BoundArgument.mk |>.field "name" (·.name) |>.json "value" (·.value))

instance : JsonModel Scope :=
  .checked (Fields.of (fun id bindingRevision assumptionIds applicabilityGuardId finiteUniverseHash closedWorld =>
      if valid : assumptionIds.Nodup ∧ (closedWorld = true → finiteUniverseHash.isSome) then
        some ⟨id, bindingRevision, assumptionIds, applicabilityGuardId, finiteUniverseHash, closedWorld, valid.1,
          valid.2⟩
      else none)
    |>.field "id" (·.id) |>.field "binding_revision" (·.bindingRevision)
    |>.fieldOr "assumption_ids" (·.assumptionIds) [] |>.optional "applicability_guard_id" (·.applicabilityGuardId)
    |>.optional "finite_universe_hash" (·.finiteUniverseHash) |>.fieldOr "closed_world" (·.closedWorld) false)
    (by intro scope; exact dif_pos ⟨scope.assumptions_unique, scope.closed_world_hashed⟩)

instance : JsonModel Provenance :=
  .record (Fields.of Provenance.mk |>.field "kind" (·.kind) |>.field "source_id" (·.sourceId)
    |>.optional "source_revision" (·.sourceRevision))

section
variable [Pydantic]

def claimFields : Fields Claim (Option Claim) :=
  Fields.of (fun id role boundArgs payload scope provenance status assessment representationLevel parentIds
      propositionId polarity =>
      if valid : (boundArgs.map BoundArgument.name).Nodup ∧ parentIds.Nodup then
        some ⟨id, role, boundArgs, payload, scope, provenance, status, assessment, representationLevel, parentIds,
          propositionId, polarity, valid.1, valid.2⟩
      else none)
    |>.field "id" (·.id) |>.field "role" (·.role) |>.field "bound_args" (·.boundArgs) |>.payload "payload" (·.payload)
    |>.field "scope" (·.scope) |>.field "provenance" (·.provenance) |>.fieldOr "status" (·.status) .provisional
    |>.fieldOr "assessment" (·.assessment) .unassessed
    |>.fieldOr "representation_level" (·.representationLevel) .l0Opaque |>.fieldOr "parent_ids" (·.parentIds) []
    |>.optional "proposition_id" (·.propositionId) |>.fieldOr "polarity" (·.polarity) .unspecified

def Claim.validate (given : JsonValue) : Option Claim :=
  (claimFields.validate given).join

def Claim.readBack (claim : Claim) : Claim :=
  { claim with payload := claim.payload.readBack }

theorem Claim.validate_write (claim : Claim) : Claim.validate (claimFields.write claim) = some claim.readBack := by
  unfold Claim.validate
  rw [claimFields.validate_write (of_decide_eq_true rfl)]
  exact dif_pos ⟨claim.names_unique, claim.parents_unique⟩

end

instance : JsonModel Conflict :=
  .record (Fields.of Conflict.mk |>.field "id" (·.id) |>.field "claim_ids" (·.claimIds) |>.field "kind" (·.kind)
    |>.field "scope" (·.scope) |>.optional "proposition_id" (·.propositionId))

instance : JsonModel Obligation :=
  .checked (Fields.of (fun id kind carrierId args scope bindingRevision parentObligationIds priorityVector status =>
      if valid : (bindingRevision = scope.bindingRevision) ∧ (args.map BoundArgument.name).Nodup ∧
        parentObligationIds.Nodup then
        some ⟨id, kind, carrierId, args, scope, bindingRevision, parentObligationIds, priorityVector, status,
          valid.1, valid.2.1, valid.2.2⟩
      else none)
    |>.field "id" (·.id) |>.field "kind" (·.kind) |>.field "carrier_id" (·.carrierId) |>.field "args" (·.args)
    |>.field "scope" (·.scope) |>.field "binding_revision" (·.bindingRevision)
    |>.fieldOr "parent_obligation_ids" (·.parentObligationIds) [] |>.fieldOr "priority_vector" (·.priorityVector) [0]
    |>.fieldOr "status" (·.status) .opened)
    (by intro obligation; exact dif_pos ⟨obligation.binding_matches_scope, obligation.names_unique,
      obligation.parents_unique⟩)

section
variable [Pydantic]

def candidateFields : Fields Candidate Candidate :=
  Fields.of Candidate.mk |>.field "id" (·.id) |>.field "kind" (·.kind) |>.payload "payload" (·.payload)
    |>.field "scope" (·.scope) |>.field "provenance" (·.provenance) |>.fieldOr "source_ids" (·.sourceIds) []

def Candidate.readBack (candidate : Candidate) : Candidate :=
  { candidate with payload := candidate.payload.readBack }

theorem Candidate.validate_write (candidate : Candidate) :
    candidateFields.validate (candidateFields.write candidate) = some candidate.readBack :=
  candidateFields.validate_write (of_decide_eq_true rfl) candidate

def residualFields : Fields Residual Residual :=
  Fields.of Residual.mk |>.field "id" (·.id) |>.field "carrier_id" (·.carrierId)
    |>.payload "payload" (·.payload) |>.field "scope" (·.scope) |>.field "provenance" (·.provenance)
    |>.fieldOr "source_obligation_ids" (·.sourceObligationIds) []

def Residual.readBack (residual : Residual) : Residual :=
  { residual with payload := residual.payload.readBack }

theorem Residual.validate_write (residual : Residual) :
    residualFields.validate (residualFields.write residual) = some residual.readBack :=
  residualFields.validate_write (of_decide_eq_true rfl) residual

end

instance : JsonModel Correction :=
  .record (Fields.of Correction.mk |>.field "id" (·.id) |>.field "kind" (·.kind) |>.field "target_id" (·.targetId)
    |>.field "related_ids" (·.relatedIds) |>.field "scope" (·.scope) |>.field "provenance" (·.provenance))

instance : JsonModel ObligationDisposition :=
  .record (Fields.of ObligationDisposition.mk |>.field "id" (·.id) |>.field "obligation_id" (·.obligationId)
    |>.field "status" (·.status) |>.field "reason" (·.reason) |>.fieldOr "evidence_refs" (·.evidenceRefs) []
    |>.optional "predecessor_id" (·.predecessorId))

instance : JsonModel GuardChange :=
  .record (Fields.of GuardChange.mk |>.field "id" (·.id) |>.field "condition_id" (·.conditionId)
    |>.field "scope_fingerprint" (·.scopeFingerprint) |>.field "standing" (·.standing) |>.field "reason" (·.reason)
    |>.optional "predecessor_id" (·.predecessorId))

instance : JsonModel CheckerVerdict :=
  .enum [(.valid, "valid"), (.invalid, "invalid"), (.indeterminate, "indeterminate"), (.timeout, "timeout"),
    (.unsupported, "unsupported"), (.failed, "failed")]

instance : JsonModel WarrantClass :=
  .enum [(.none, "none"), (.soft, "soft"), (.solverTrusted, "solver_trusted"), (.hard, "hard")]

instance : JsonModel SupportStanding := .enum [(.standing, "standing"), (.withdrawn, "withdrawn")]

instance : JsonModel EvidenceKind :=
  .enum [(.modelOutput, "model_output"), (.reification, "reification"), (.heuristic, "heuristic"),
    (.retrieval, "retrieval"), (.observation, "observation"), (.independentWitness, "independent_witness"),
    (.exhaustiveUnsat, "exhaustive_unsat"), (.z3Unsat, "z3_unsat")]

instance : JsonModel PropositionKind :=
  .enum [(.existential, "existential"), (.universal, "universal"), (.relation, "relation")]

instance : JsonModel Applicability :=
  .record (Fields.of Applicability.mk |>.field "condition_id" (·.conditionId)
    |>.fieldOr "required_context_ids" (·.requiredContextIds) [])

instance : JsonModel CheckReference :=
  .record (Fields.of CheckReference.mk |>.field "evidence_id" (·.evidenceId)
    |>.field "checker_verdict_id" (·.checkerVerdictId))

instance : JsonModel SupportEnvironment :=
  .checked (Fields.of (fun id scopeFingerprint bindingRevision assumptionIds finiteUniverseHash realizabilityCheck =>
      if valid : assumptionIds.Pairwise (· < ·) then
        some ⟨id, scopeFingerprint, bindingRevision, assumptionIds, finiteUniverseHash, realizabilityCheck, valid⟩
      else none)
    |>.field "id" (·.id) |>.field "scope_fingerprint" (·.scopeFingerprint)
    |>.field "binding_revision" (·.bindingRevision) |>.field "assumption_ids" (·.assumptionIds)
    |>.nullable "finite_universe_hash" (·.finiteUniverseHash) |>.field "realizability_check" (·.realizabilityCheck))
    (by intro environment; exact dif_pos environment.assumptions_canonical)

instance : JsonModel Nogood :=
  .checked (Fields.of (fun id scopeFingerprint bindingRevision finiteUniverseHash policyVersion
      incompatibleAssumptionIds check warrantDecisionId reason =>
      if valid : (incompatibleAssumptionIds ≠ []) ∧ incompatibleAssumptionIds.Pairwise (· < ·) then
        some ⟨id, scopeFingerprint, bindingRevision, finiteUniverseHash, policyVersion, incompatibleAssumptionIds,
          check, warrantDecisionId, reason, valid.1, valid.2⟩
      else none)
    |>.field "id" (·.id) |>.field "scope_fingerprint" (·.scopeFingerprint)
    |>.field "binding_revision" (·.bindingRevision) |>.nullable "finite_universe_hash" (·.finiteUniverseHash)
    |>.field "policy_version" (·.policyVersion) |>.field "incompatible_assumption_ids" (·.incompatibleAssumptionIds)
    |>.field "check" (·.check) |>.field "warrant_decision_id" (·.warrantDecisionId) |>.field "reason" (·.reason))
    (by intro nogood; exact dif_pos ⟨nogood.assumptions_named, nogood.assumptions_canonical⟩)

instance : JsonModel SupportRouteStandingChange :=
  .record (Fields.of SupportRouteStandingChange.mk |>.field "id" (·.id) |>.field "support_route_id" (·.supportRouteId)
    |>.field "standing" (·.standing) |>.field "reason" (·.reason) |>.optional "predecessor_id" (·.predecessorId))

instance : JsonModel NogoodStandingChange :=
  .record (Fields.of NogoodStandingChange.mk |>.field "id" (·.id) |>.field "nogood_id" (·.nogoodId)
    |>.field "standing" (·.standing) |>.field "reason" (·.reason) |>.optional "predecessor_id" (·.predecessorId))

instance : JsonModel SupportRoute :=
  .checked (Fields.of (fun id conclusionId environment requiredDependencyIds openDependencyIds certificateCheck
      warrantRefs justificationRefs provenanceRefs =>
      if valid : requiredDependencyIds.Pairwise (· < ·) ∧ openDependencyIds.Pairwise (· < ·) ∧
        openDependencyIds ⊆ requiredDependencyIds then
        some ⟨id, conclusionId, environment, requiredDependencyIds, openDependencyIds, certificateCheck, warrantRefs,
          justificationRefs, provenanceRefs, valid.1, valid.2.1, valid.2.2⟩
      else none)
    |>.field "id" (·.id) |>.field "conclusion_id" (·.conclusionId) |>.field "environment" (·.environment)
    |>.field "required_dependency_ids" (·.requiredDependencyIds) |>.field "open_dependency_ids" (·.openDependencyIds)
    |>.field "certificate_check" (·.certificateCheck) |>.fieldOr "warrant_refs" (·.warrantRefs) []
    |>.fieldOr "justification_refs" (·.justificationRefs) [] |>.fieldOr "provenance_refs" (·.provenanceRefs) [])
    (by intro route; exact dif_pos ⟨route.required_canonical, route.open_canonical, route.open_required⟩)

instance : JsonModel Evidence :=
  .checked (Fields.of (fun id kind propositionId propositionKind scopeFingerprint artifact closedFiniteUniverse
      finiteUniverseHash =>
      if valid : closedFiniteUniverse = true → finiteUniverseHash.isSome then
        some ⟨id, kind, propositionId, propositionKind, scopeFingerprint, artifact, closedFiniteUniverse,
          finiteUniverseHash, valid⟩
      else none)
    |>.field "id" (·.id) |>.field "kind" (·.kind) |>.field "proposition_id" (·.propositionId)
    |>.field "proposition_kind" (·.propositionKind) |>.field "scope_fingerprint" (·.scopeFingerprint)
    |>.field "artifact" (·.artifact) |>.fieldOr "closed_finite_universe" (·.closedFiniteUniverse) false
    |>.optional "finite_universe_hash" (·.finiteUniverseHash))
    (by intro evidence; exact dif_pos evidence.closed_hashed)

instance : JsonModel CheckerVerdictRecord :=
  .checked (Fields.of (fun id evidenceId evidenceArtifact propositionId propositionKind scopeFingerprint checkerId
      checkerVersion verdict verdictArtifact certificateArtifact =>
      if valid : verdict = .valid → certificateArtifact.isSome then
        some ⟨id, evidenceId, evidenceArtifact, propositionId, propositionKind, scopeFingerprint, checkerId,
          checkerVersion, verdict, verdictArtifact, certificateArtifact, valid⟩
      else none)
    |>.field "id" (·.id) |>.field "evidence_id" (·.evidenceId) |>.field "evidence_artifact" (·.evidenceArtifact)
    |>.field "proposition_id" (·.propositionId) |>.field "proposition_kind" (·.propositionKind)
    |>.field "scope_fingerprint" (·.scopeFingerprint) |>.field "checker_id" (·.checkerId)
    |>.field "checker_version" (·.checkerVersion) |>.field "verdict" (·.verdict)
    |>.field "verdict_artifact" (·.verdictArtifact) |>.optional "certificate_artifact" (·.certificateArtifact))
    (by intro record; exact dif_pos record.valid_certified)

instance : JsonModel LemmaVersion :=
  .record (Fields.of LemmaVersion.mk |>.field "id" (·.id) |>.field "relation_id" (·.relationId)
    |>.field "proposition_kind" (·.propositionKind) |>.field "scope" (·.scope)
    |>.field "applicability" (·.applicability) |>.field "source_claim_ids" (·.sourceClaimIds)
    |>.fieldOr "predecessor_refs" (·.predecessorRefs) [])

instance : JsonModel LemmaSupport :=
  .record (Fields.of LemmaSupport.mk |>.field "lemma_version_id" (·.lemmaVersionId)
    |>.field "policy_version" (·.policyVersion) |>.field "support_routes" (·.supportRoutes)
    |>.fieldOr "historical_support_routes" (·.historicalSupportRoutes) [] |>.field "warrant_class" (·.warrantClass)
    |>.field "certificate_refs" (·.certificateRefs) |>.field "provenance_refs" (·.provenanceRefs))

instance : JsonModel WarrantDecisionRecord :=
  .record (Fields.of WarrantDecisionRecord.mk |>.field "id" (·.id) |>.field "evidence_id" (·.evidenceId)
    |>.field "checker_verdict_id" (·.checkerVerdictId) |>.field "proposition_id" (·.propositionId)
    |>.field "proposition_kind" (·.propositionKind) |>.field "scope_fingerprint" (·.scopeFingerprint)
    |>.field "warrant_class" (·.warrantClass) |>.field "reason" (·.reason)
    |>.field "policy_version" (·.policyVersion))

instance : JsonModel PromotionLink :=
  .record (Fields.of PromotionLink.mk |>.field "id" (·.id) |>.field "lemma_version_id" (·.lemmaVersionId)
    |>.field "source_claim_ids" (·.sourceClaimIds) |>.field "warrant_decision_id" (·.warrantDecisionId))

instance : JsonModel ProbeIdentity :=
  .record (Fields.of ProbeIdentity.mk |>.field "question_contract_key" (·.questionContractKey)
    |>.field "relational_role" (·.relationalRole) |>.field "binding_schema_id" (·.bindingSchemaId)
    |>.field "binding_revision" (·.bindingRevision) |>.field "scope_fingerprint" (·.scopeFingerprint)
    |>.field "comparison_semantics_id" (·.comparisonSemanticsId)
    |>.field "applicability_guard_id" (·.applicabilityGuardId) |>.field "protected_horizon_id" (·.protectedHorizonId))

instance : JsonModel ComparabilityBridge :=
  .record (Fields.of ComparabilityBridge.mk |>.field "from_probe_fingerprint" (·.fromProbeFingerprint)
    |>.field "to_probe_fingerprint" (·.toProbeFingerprint)
    |>.field "comparison_proposition_id" (·.comparisonPropositionId) |>.field "scope_fingerprint" (·.scopeFingerprint)
    |>.field "warrant_lemma_id" (·.warrantLemmaId))

instance : JsonModel PriorAnswerExposure :=
  .enum [(.notApplicable, "not_applicable"), (.withheldUntilCapture, "withheld_until_capture"),
    (.exposedBeforeCapture, "exposed_before_capture")]

instance : JsonModel ProbeEvent :=
  .record (Fields.of ProbeEvent.mk |>.field "id" (·.id) |>.field "probe_identity" (·.probeIdentity)
    |>.field "bound_referents" (·.boundReferents) |>.field "binding_revision" (·.bindingRevision)
    |>.field "state_revision" (·.stateRevision) |>.field "semantic_field_id" (·.semanticFieldId)
    |>.optional "generated_answer_claim_id" (·.generatedAnswerClaimId)
    |>.fieldOr "external_return_ids" (·.externalReturnIds) []
    |>.fieldOr "interpretation_claim_ids" (·.interpretationClaimIds) [] |>.field "sequence_index" (·.sequenceIndex)
    |>.optional "comparability_bridge" (·.comparabilityBridge)
    |>.fieldOr "fresh_observation_required" (·.freshObservationRequired) false
    |>.fieldOr "prior_answer_exposure" (·.priorAnswerExposure) .notApplicable)

instance : JsonModel RelevanceStatus :=
  .enum [(.active, "active"), (.undetermined, "undetermined"), (.irrelevant, "irrelevant")]

instance : JsonModel SemanticItem :=
  .record (Fields.of SemanticItem.mk |>.field "structure_id" (·.structureId) |>.field "relevance" (·.relevance)
    |>.optional "irrelevance_warrant_id" (·.irrelevanceWarrantId)
    |>.optional "reopening_condition_id" (·.reopeningConditionId))

instance : JsonModel SemanticField :=
  .record (Fields.of SemanticField.mk |>.field "id" (·.id) |>.field "probe_fingerprint" (·.probeFingerprint)
    |>.field "protected_horizon_id" (·.protectedHorizonId) |>.field "items" (·.items)
    |>.fieldOr "same_probe_history_event_ids" (·.sameProbeHistoryEventIds) []
    |>.fieldOr "cross_probe_trace_ids" (·.crossProbeTraceIds) []
    |>.fieldOr "retrieval_result_ids" (·.retrievalResultIds) []
    |>.fieldOr "method_contract_ids" (·.methodContractIds) []
    |>.fieldOr "reopening_condition_ids" (·.reopeningConditionIds) [])

instance : JsonModel CognitiveAttemptPlan :=
  .record (Fields.of CognitiveAttemptPlan.mk |>.field "id" (·.id) |>.field "obligation_id" (·.obligationId)
    |>.field "probe_or_action_id" (·.probeOrActionId) |>.field "effect_request_id" (·.effectRequestId)
    |>.nullable "effect_attempt_plan_id" (·.effectAttemptPlanId)
    |>.field "source_state_revision" (·.sourceStateRevision) |>.field "scope_fingerprint" (·.scopeFingerprint)
    |>.field "planned_sequence" (·.plannedSequence))

instance : JsonModel PredictionSeal :=
  .record (Fields.of PredictionSeal.mk |>.field "id" (·.id) |>.field "cognitive_plan_id" (·.cognitivePlanId)
    |>.field "probe_or_action_id" (·.probeOrActionId) |>.field "predicted_return_class" (·.predictedReturnClass)
    |>.json "predicted_consequence" (·.predictedConsequence) |>.json "acceptable_variation" (·.acceptableVariation)
    |>.field "scope_fingerprint" (·.scopeFingerprint) |>.field "basis_claim_ids" (·.basisClaimIds)
    |>.field "sealed_sequence" (·.sealedSequence))

instance : JsonModel Mismatch :=
  .record (Fields.of Mismatch.mk |>.field "id" (·.id) |>.field "prediction_id" (·.predictionId)
    |>.field "external_return_id" (·.externalReturnId) |>.field "decode_outcome_id" (·.decodeOutcomeId)
    |>.field "difference_claim_id" (·.differenceClaimId) |>.field "scope_fingerprint" (·.scopeFingerprint)
    |>.field "protected_consequence_changed" (·.protectedConsequenceChanged)
    |>.field "classification" (·.classification))

instance : JsonModel Reconstruction :=
  .record (Fields.of Reconstruction.mk |>.field "id" (·.id) |>.field "prior_state_revision" (·.priorStateRevision)
    |>.field "external_return_id" (·.externalReturnId) |>.field "decode_outcome_ids" (·.decodeOutcomeIds)
    |>.fieldOr "activated_memory_ids" (·.activatedMemoryIds) []
    |>.fieldOr "candidate_claim_ids" (·.candidateClaimIds) []
    |>.fieldOr "candidate_repair_ids" (·.candidateRepairIds) []
    |>.fieldOr "residual_obligation_ids" (·.residualObligationIds) []
    |>.fieldOr "generated_detail_ids" (·.generatedDetailIds) []
    |>.fieldOr "historical_fact_ids" (·.historicalFactIds) []
    |>.field "reconstructed_sequence" (·.reconstructedSequence))

instance : JsonModel SemanticChangeOperation := .enum [(.add, "add"), (.reopen, "reopen"), (.retire, "retire")]

instance : JsonModel WarrantedChange :=
  .record (Fields.of WarrantedChange.mk |>.field "change_id" (·.changeId) |>.field "proposition_id" (·.propositionId)
    |>.field "scope_fingerprint" (·.scopeFingerprint) |>.field "operation" (·.operation)
    |>.field "warrant_lemma_id" (·.warrantLemmaId))

instance : JsonModel SemanticDelta :=
  .checked (Fields.of (fun id reconstructionId warrantedChanges reopenedStructureIds retiredStructureIds
      committedSequence =>
      if valid : (warrantedChanges.map WarrantedChange.changeId).Nodup ∧
        (∀ structureId ∈ reopenedStructureIds, structureId ∉ retiredStructureIds) then
        some ⟨id, reconstructionId, warrantedChanges, reopenedStructureIds, retiredStructureIds, committedSequence,
          valid.1, valid.2⟩
      else none)
    |>.field "id" (·.id) |>.field "reconstruction_id" (·.reconstructionId)
    |>.field "warranted_changes" (·.warrantedChanges) |>.fieldOr "reopened_structure_ids" (·.reopenedStructureIds) []
    |>.fieldOr "retired_structure_ids" (·.retiredStructureIds) [] |>.field "committed_sequence" (·.committedSequence))
    (by intro delta; exact dif_pos ⟨delta.changes_unique, delta.reopened_not_retired⟩)

instance : JsonModel PlanStatus :=
  .enum [(.ready, "ready"), (.satisfied, "satisfied"), (.unknown, "unknown_under_present_binding")]

instance : JsonModel PlanReason :=
  .enum [(.stepBudgetExhausted, "step_budget_exhausted"), (.insufficientEventBudget, "insufficient_event_budget"),
    (.noOpenObligation, "no_open_obligation"), (.unresolvedNonopenObligation, "unresolved_nonopen_obligation"),
    (.dependenciesOrAttemptsExhausted, "dependencies_or_attempt_budget_exhausted"),
    (.deterministicPriority, "deterministic_priority_order")]

instance : JsonModel AttemptKey :=
  .record (Fields.of AttemptKey.mk |>.field "obligation_fingerprint" (·.obligationFingerprint)
    |>.field "contract_id" (·.contractId) |>.field "contract_version" (·.contractVersion)
    |>.field "binding_revision" (·.bindingRevision))

instance : JsonModel StepPlan :=
  .checked (Fields.of (fun id inputFingerprint policyVersion status selectedObligationId selectedAttemptKey reason
      remainingBudget =>
      if valid : ((status = .ready) = (selectedObligationId.isSome = true)) ∧
        (selectedObligationId.isSome = selectedAttemptKey.isSome) then
        some ⟨id, inputFingerprint, policyVersion, status, selectedObligationId, selectedAttemptKey, reason,
          remainingBudget, valid.1, valid.2⟩
      else none)
    |>.field "id" (·.id) |>.field "input_fingerprint" (·.inputFingerprint) |>.field "policy_version" (·.policyVersion)
    |>.field "status" (·.status) |>.optional "selected_obligation_id" (·.selectedObligationId)
    |>.optional "selected_attempt_key" (·.selectedAttemptKey) |>.field "reason" (·.reason)
    |>.field "remaining_budget" (·.remainingBudget))
    (by intro plan; exact dif_pos ⟨plan.ready_selects, plan.selected_together⟩)

instance : JsonModel TransformEvidence :=
  .record (Fields.of TransformEvidence.mk |>.field "id" (·.id) |>.field "version" (·.version)
    |>.field "input_artifact" (·.inputArtifact) |>.field "output_artifact" (·.outputArtifact))

instance : JsonModel RouteSnapshot :=
  .record (Fields.of RouteSnapshot.mk |>.field "id" (·.id) |>.field "definition_id" (·.definitionId)
    |>.field "definition_version" (·.definitionVersion) |>.field "definition_artifact" (·.definitionArtifact)
    |>.field "backend_id" (·.backendId) |>.field "adapter_id" (·.adapterId)
    |>.field "adapter_version" (·.adapterVersion) |>.optional "endpoint_or_channel" (·.endpointOrChannel)
    |>.optional "transport" (·.transport) |>.field "execution_environment_artifact" (·.executionEnvironmentArtifact)
    |>.field "request_or_action_digest" (·.requestOrActionDigest)
    |>.fieldOr "transform_evidence" (·.transformEvidence) [])

instance : JsonModel EffectRequest :=
  .record (Fields.of EffectRequest.mk |>.field "id" (·.id) |>.field "step_plan_id" (·.stepPlanId)
    |>.field "effect_kind" (·.effectKind) |>.field "adapter_id" (·.adapterId)
    |>.field "input_artifact" (·.inputArtifact) |>.fieldOr "timeout_seconds" (·.timeoutSeconds) 60)

instance : JsonModel EffectAttemptPlan :=
  .record (Fields.of EffectAttemptPlan.mk |>.field "id" (·.id) |>.field "request_id" (·.requestId)
    |>.field "route" (·.route))

instance : JsonModel NoAttemptReason :=
  .enum [(.policyDenied, "policy_denied"), (.unsupported, "unsupported"), (.budgetExhausted, "budget_exhausted"),
    (.dependenciesOpen, "dependencies_open")]

instance : JsonModel NotPresentedReason :=
  .enum [(.policyDenied, "policy_denied"), (.unsupported, "unsupported"), (.preflightFailed, "preflight_failed")]

instance : JsonModel CaptureFailureReason :=
  .enum [(.captureError, "capture_error"), (.outputLimit, "output_limit"), (.storageError, "storage_error")]

instance : JsonModel PresentationUnknownReason :=
  .enum [(.timeout, "timeout"), (.transportError, "transport_error"), (.internalFailure, "internal_failure")]

instance : JsonModel CancellationReason :=
  .enum [(.callerCancelled, "caller_cancelled"), (.policyCancelled, "policy_cancelled"), (.shutdown, "shutdown")]

instance : JsonModel NoAttemptDisposition :=
  .record (Fields.of NoAttemptDisposition.mk |>.literal "kind" (.text "no_attempt") |>.field "id" (·.id)
    |>.field "request_id" (·.requestId) |>.field "step_plan_id" (·.stepPlanId) |>.field "reason_kind" (·.reasonKind)
    |>.optional "diagnostics" (·.diagnostics))

def ResultRole.kind : ResultRole → String
  | .witness .. => "witness"
  | .counterexample .. => "counterexample"
  | .separator .. => "separator"
  | .equivalenceCertificate .. => "equivalence_certificate"
  | .conflict .. => "conflict"
  | .prerequisite .. => "prerequisite"
  | .reachabilityWitness .. => "reachability_witness"
  | .unreachabilityCertificate .. => "unreachability_certificate"
  | .success .. => "success"
  | .failure .. => "failure"
  | .unknown .. => "unknown"

def resultMembers : List (Member ResultRole) :=
  [.of "witness" (Fields.of ResultRole.witness |>.field "proposition_id" (·.1) |>.field "witness_artifact" (·.2))
      (fun | .witness propositionId artifact => some (propositionId, artifact) | _ => none),
    .of "counterexample" (Fields.of ResultRole.counterexample |>.field "proposition_id" (·.1)
        |>.field "counterexample_artifact" (·.2))
      (fun | .counterexample propositionId artifact => some (propositionId, artifact) | _ => none),
    .of "separator" (Fields.of ResultRole.separator |>.field "left_class_id" (·.1) |>.field "right_class_id" (·.2.1)
        |>.field "separator_artifact" (·.2.2))
      (fun | .separator left right artifact => some (left, right, artifact) | _ => none),
    .of "equivalence_certificate" (Fields.of ResultRole.equivalenceCertificate |>.field "relation_id" (·.1)
        |>.field "certificate_artifact" (·.2))
      (fun | .equivalenceCertificate relationId artifact => some (relationId, artifact) | _ => none),
    .of "conflict" (Fields.of ResultRole.conflict |>.field "left_proposition_id" (·.1)
        |>.field "right_proposition_id" (·.2))
      (fun | .conflict left right => some (left, right) | _ => none),
    .of "prerequisite" (Fields.of ResultRole.prerequisite |>.field "condition_id" (·.1)
        |>.field "consequence_id" (·.2.1) |>.field "evidence_artifact" (·.2.2))
      (fun | .prerequisite condition consequence artifact => some (condition, consequence, artifact) | _ => none),
    .of "reachability_witness" (Fields.of ResultRole.reachabilityWitness |>.field "source_id" (·.1)
        |>.field "target_id" (·.2.1) |>.field "path_artifact" (·.2.2))
      (fun | .reachabilityWitness source target artifact => some (source, target, artifact) | _ => none),
    .of "unreachability_certificate" (Fields.of ResultRole.unreachabilityCertificate |>.field "source_id" (·.1)
        |>.field "target_id" (·.2.1) |>.field "certificate_artifact" (·.2.2))
      (fun | .unreachabilityCertificate source target artifact => some (source, target, artifact) | _ => none),
    .single "success" "operation_id" .success (fun | .success operationId => some operationId | _ => none),
    .of "failure" (Fields.of ResultRole.failure |>.field "failure_kind" (·.1) |>.optional "diagnostics" (·.2))
      (fun | .failure kind diagnostics => some (kind, diagnostics) | _ => none),
    .single "unknown" "reason_kind" .unknown (fun | .unknown reasonKind => some reasonKind | _ => none)]

instance : JsonModel CanonicalResult :=
  .union ⟨"kind", Fields.of CanonicalResult.mk |>.field "id" (·.id) |>.field "semantic_artifact" (·.semanticArtifact),
      resultMembers⟩ ResultRole.kind (·.role)
    (by intro role; cases role <;> exact ⟨_, rfl, Member.of_reads rfl rfl⟩)

def DecodeBody.kind : DecodeBody → String
  | .decoded _ => "decoded"
  | .malformed _ => "malformed"
  | .unsupported _ => "unsupported"
  | .failed _ => "failed"

def decodeMembers : List (Member DecodeBody) :=
  [.single "decoded" "result" .decoded (fun | .decoded result => some result | _ => none),
    .single "malformed" "diagnostics" .malformed (fun | .malformed diagnostics => some diagnostics | _ => none),
    .single "unsupported" "reason" .unsupported (fun | .unsupported reason => some reason | _ => none),
    .single "failed" "diagnostics" .failed (fun | .failed diagnostics => some diagnostics | _ => none)]

instance : JsonModel DecodeOutcome :=
  .union ⟨"kind", Fields.of DecodeOutcome.mk |>.field "id" (·.id) |>.field "external_return_id" (·.externalReturnId)
      |>.field "decoder_id" (·.decoderId) |>.field "decoder_version" (·.decoderVersion), decodeMembers⟩
    DecodeBody.kind (·.body) (by intro body; cases body <;> exact ⟨_, rfl, Member.of_reads rfl rfl⟩)

instance : JsonModel BacklogEffectKind :=
  .enum [(.create, "create"), (.dedupe, "dedupe"), (.rank, "rank"), (.block, "block"), (.close, "close")]

instance : JsonModel BacklogEffect :=
  .record (Fields.of BacklogEffect.mk |>.field "id" (·.id) |>.field "kind" (·.kind)
    |>.field "finding_id" (·.findingId) |>.field "target_item_id" (·.targetItemId)
    |>.field "fingerprint" (·.fingerprint) |>.field "title" (·.title)
    |>.field "protected_consequence" (·.protectedConsequence) |>.field "source" (·.source)
    |>.optional "recurrence_of" (·.recurrenceOf) |>.optional "rank" (·.rank)
    |>.field "evidence_digest" (·.evidenceDigest) |>.field "workspace_digest" (·.workspaceDigest)
    |>.field "reason" (·.reason))

section
variable [Pydantic]

instance : JsonModel ExternalReturn :=
  .record (Fields.of ExternalReturn.mk |>.field "id" (·.id) |>.field "attempt_id" (·.attemptId)
    |>.field "route_id" (·.routeId) |>.optional "source_id" (·.sourceId)
    |>.optional "source_revision" (·.sourceRevision) |>.field "capture_boundary" (·.captureBoundary)
    |>.field "capture_encoding" (·.captureEncoding) |>.datetime "captured_at" (·.capturedAt)
    |>.field "raw_payload" (·.rawPayload))

def AttemptOutcome.kind : AttemptOutcome → String
  | .notPresented .. => "not_presented"
  | .captureFailed .. => "capture_failed"
  | .presentationUnknown .. => "presentation_unknown"
  | .cancelled .. => "cancelled"
  | .returned .. => "returned"

def attemptOutcomeMembers : List (Member AttemptOutcome) :=
  [.of "not_presented" (Fields.of AttemptOutcome.notPresented |>.field "attempt_id" (·.1) |>.field "route_id" (·.2.1)
        |>.field "reason_kind" (·.2.2.1) |>.optional "diagnostics" (·.2.2.2))
      (fun | .notPresented attempt route reason diagnostics => some (attempt, route, reason, diagnostics) | _ => none),
    .of "capture_failed" (Fields.of AttemptOutcome.captureFailed |>.field "attempt_id" (·.1)
        |>.field "route_id" (·.2.1) |>.field "reason_kind" (·.2.2.1) |>.field "diagnostics" (·.2.2.2))
      (fun | .captureFailed attempt route reason diagnostics => some (attempt, route, reason, diagnostics) | _ => none),
    .of "presentation_unknown" (Fields.of AttemptOutcome.presentationUnknown |>.field "attempt_id" (·.1)
        |>.field "route_id" (·.2.1) |>.field "reason_kind" (·.2.2.1) |>.field "diagnostics" (·.2.2.2))
      (fun
        | .presentationUnknown attempt route reason diagnostics => some (attempt, route, reason, diagnostics)
        | _ => none),
    .of "cancelled" (Fields.of AttemptOutcome.cancelled |>.field "attempt_id" (·.1) |>.field "route_id" (·.2.1)
        |>.field "reason_kind" (·.2.2.1) |>.optional "diagnostics" (·.2.2.2))
      (fun | .cancelled attempt route reason diagnostics => some (attempt, route, reason, diagnostics) | _ => none),
    .checked "returned" (Fields.of (fun attemptId routeId (externalReturn : ExternalReturn) =>
        if externalReturn.attemptId = attemptId ∧ externalReturn.routeId = routeId then
          some (AttemptOutcome.returned externalReturn)
        else none)
        |>.field "attempt_id" (·.attemptId) |>.field "route_id" (·.routeId) |>.field "external_return" id)
      (fun | .returned externalReturn => some externalReturn | _ => none)]

instance : JsonModel AttemptOutcome :=
  .union ⟨"kind", Fields.of id, attemptOutcomeMembers⟩ AttemptOutcome.kind id (by
    intro outcome
    cases outcome with
    | returned externalReturn => exact ⟨_, rfl, Member.checked_reads rfl (if_pos ⟨rfl, rfl⟩)⟩
    | _ => exact ⟨_, rfl, Member.of_reads rfl rfl⟩)

end

end RatchetingInquiry
