import RatchetingInquiry.Compression.Models
import RatchetingInquiry.Project.Models
import RatchetingInquiry.Questions.Models
import RatchetingInquiry.Serialization.Inquiry

/-! The JSON of the records of representations and of the project loop. -/

namespace RatchetingInquiry

instance : JsonModel ContractMaturity :=
  .enum [(.draft, "draft"), (.experimental, "experimental"), (.stable, "stable"), (.deprecated, "deprecated")]

instance : JsonModel AnswerShape := .enum [(.opaqueL0Inert, "opaque_l0_inert")]

instance : JsonModel QuestionContract :=
  .checked (Fields.of (fun id version family inputRoles outputClaimRole preconditionPolicyId renderTemplate
      answerShape answerSchemaId bindPolicyId reifierId verifierId updateRuleId nextObligationRuleIds maturity
      recurrentProbe comparisonSemanticsId canonicalProbeRendering applicabilityGuardId historyPolicyId =>
      if valid : inputRoles.Nodup ∧
        (recurrentProbe = true →
          comparisonSemanticsId.isSome ∧ applicabilityGuardId.isSome ∧ historyPolicyId.isSome) then
        some ⟨id, version, family, inputRoles, outputClaimRole, preconditionPolicyId, renderTemplate, answerShape,
          answerSchemaId, bindPolicyId, reifierId, verifierId, updateRuleId, nextObligationRuleIds, maturity,
          recurrentProbe, comparisonSemanticsId, canonicalProbeRendering, applicabilityGuardId, historyPolicyId,
          valid.1, valid.2⟩
      else none)
    |>.field "id" (·.id) |>.field "version" (·.version) |>.field "family" (·.family)
    |>.field "input_roles" (·.inputRoles) |>.field "output_claim_role" (·.outputClaimRole)
    |>.field "precondition_policy_id" (·.preconditionPolicyId) |>.field "render_template" (·.renderTemplate)
    |>.fieldOr "answer_shape" (·.answerShape) .opaqueL0Inert
    |>.fieldOr "answer_schema_id" (·.answerSchemaId) "rci.inert-payload.v1"
    |>.fieldOr "bind_policy_id" (·.bindPolicyId) "bind-l0-v1" |>.optional "reifier_id" (·.reifierId)
    |>.optional "verifier_id" (·.verifierId)
    |>.fieldOr "update_rule_id" (·.updateRuleId) "append-provisional-claim-v1"
    |>.fieldOr "next_obligation_rule_ids" (·.nextObligationRuleIds) [] |>.fieldOr "maturity" (·.maturity) .draft
    |>.fieldOr "recurrent_probe" (·.recurrentProbe) false
    |>.optional "comparison_semantics_id" (·.comparisonSemanticsId)
    |>.optional "canonical_probe_rendering" (·.canonicalProbeRendering)
    |>.optional "applicability_guard_id" (·.applicabilityGuardId) |>.optional "history_policy_id" (·.historyPolicyId))
    (by intro contract; exact dif_pos ⟨contract.roles_unique, contract.recurrent_pinned⟩)

instance : JsonModel CarrierRole :=
  .enum [(.configuration, "configuration"), (.realizedHistory, "realized_history"),
    (.priorRetainedState, "prior_retained_state"), (.otherDeclared, "other_declared")]

instance : JsonModel HistoryDerivationStatus :=
  .enum [(.derived, "derived"), (.notDefined, "not_defined"), (.incomplete, "incomplete"), (.failed, "failed")]

instance : JsonModel ExactClaimKind :=
  .enum [(.consequenceSufficient, "consequence_sufficient"), (.coarsestExactQuotient, "coarsest_exact_quotient"),
    (.executableRetainedState, "executable_retained_state")]

instance : JsonModel ValidationProperty :=
  .enum [(.consequenceFactorization, "consequence_factorization"), (.exactEquivalence, "exact_equivalence"),
    (.continuationCompatibility, "continuation_compatibility"), (.recursiveUpdate, "recursive_update"),
    (.determinationDescent, "determination_descent"), (.residueCompleteness, "residue_completeness")]

instance : JsonModel ValidationOutcome :=
  .enum [(.valid, "valid"), (.invalid, "invalid"), (.notClaimed, "not_claimed")]

instance : JsonModel RepresentationGainKind :=
  .enum [(.breaker, "breaker"), (.separator, "separator"), (.quotient, "quotient"), (.scope, "scope"),
    (.composition, "composition"), (.recovery, "recovery"), (.warrant, "warrant")]

instance : JsonModel SuccessorDisposition :=
  .enum [(.replace, "replace"), (.keep, "keep"), (.incomparable, "incomparable"), (.reject, "reject")]

instance : JsonModel ReopeningOutcome :=
  .enum [(.recoverable, "recoverable"), (.reacquisitionRequired, "reacquisition_required"), (.unknown, "unknown")]

instance : JsonModel CarrierContract :=
  .record (Fields.of CarrierContract.mk |>.literal "schema_version" (.int 1) |>.field "id" (·.id)
    |>.field "role" (·.role) |>.field "schema_id" (·.schemaId) |>.field "binding_revision" (·.bindingRevision))

instance : JsonModel BindingCarrierManifest :=
  .checked (Fields.of (fun id bindingRevision configurationCarrier realizedHistoryCarrier otherCarriers
      historyDerivationPolicyId configurationProjectionPolicyId manifestArtifact provenanceRefs =>
      if valid : (configurationCarrier.role = .configuration) ∧ (realizedHistoryCarrier.role = .realizedHistory) ∧
        (∀ carrier ∈ configurationCarrier :: realizedHistoryCarrier :: otherCarriers,
          carrier.bindingRevision = bindingRevision) ∧
        (∀ carrier ∈ otherCarriers, carrier.role ≠ .configuration ∧ carrier.role ≠ .realizedHistory) ∧
        ((configurationCarrier :: realizedHistoryCarrier :: otherCarriers).map CarrierContract.id).Nodup ∧
        (provenanceRefs ≠ [] ∧ CanonicalIds provenanceRefs) then
        some ⟨id, bindingRevision, configurationCarrier, realizedHistoryCarrier, otherCarriers,
          historyDerivationPolicyId, configurationProjectionPolicyId, manifestArtifact, provenanceRefs, valid.1,
          valid.2.1, valid.2.2.1, valid.2.2.2.1, valid.2.2.2.2.1, valid.2.2.2.2.2⟩
      else none)
    |>.literal "schema_version" (.int 1) |>.field "id" (·.id) |>.field "binding_revision" (·.bindingRevision)
    |>.field "configuration_carrier" (·.configurationCarrier)
    |>.field "realized_history_carrier" (·.realizedHistoryCarrier) |>.fieldOr "other_carriers" (·.otherCarriers) []
    |>.field "history_derivation_policy_id" (·.historyDerivationPolicyId)
    |>.field "configuration_projection_policy_id" (·.configurationProjectionPolicyId)
    |>.field "manifest_artifact" (·.manifestArtifact) |>.field "provenance_refs" (·.provenanceRefs))
    (by intro manifest; exact dif_pos ⟨manifest.configuration_role, manifest.history_role, manifest.carriers_pinned,
      manifest.other_roles, manifest.carriers_unique, manifest.provenance_given⟩)

instance : JsonModel RealizedHistoryDerivation :=
  .checked (Fields.of (fun id carrierManifestId sourceLedgerSequence sourcePrefixDigest status historyArtifact
      realizedExtensionIds derivationCheck diagnosticsArtifact =>
      if valid : 1 ≤ sourceLedgerSequence ∧ ((status = .derived) = (historyArtifact.isSome = true)) ∧
        (status = .derived → realizedExtensionIds ≠ []) ∧ ((status = .derived) = (derivationCheck.isSome = true)) ∧
        realizedExtensionIds.Nodup then
        some ⟨id, carrierManifestId, sourceLedgerSequence, sourcePrefixDigest, status, historyArtifact,
          realizedExtensionIds, derivationCheck, diagnosticsArtifact, valid.1, valid.2.1, valid.2.2.1, valid.2.2.2.1,
          valid.2.2.2.2⟩
      else none)
    |>.literal "schema_version" (.int 1) |>.field "id" (·.id) |>.field "carrier_manifest_id" (·.carrierManifestId)
    |>.field "source_ledger_sequence" (·.sourceLedgerSequence) |>.field "source_prefix_digest" (·.sourcePrefixDigest)
    |>.field "status" (·.status) |>.optional "history_artifact" (·.historyArtifact)
    |>.fieldOr "realized_extension_ids" (·.realizedExtensionIds) [] |>.optional "derivation_check" (·.derivationCheck)
    |>.optional "diagnostics_artifact" (·.diagnosticsArtifact))
    (by intro derivation; exact dif_pos ⟨derivation.prefix_committed, derivation.derived_artifact,
      derivation.derived_extended, derivation.derived_checked, derivation.extensions_unique⟩)

instance : JsonModel CompressionContract :=
  .checked (Fields.of (fun id carrierManifestId sourceCarrierId targetCarrier bindingRevision scopeFingerprint
      protectedHorizonId continuationOperationIds consequenceQueryIds equalitySemanticsId recoverySemanticsIds
      claimKinds representationPolicyId provenanceRefs =>
      if valid : (targetCarrier.role = .priorRetainedState ∨ targetCarrier.role = .otherDeclared) ∧
        (targetCarrier.bindingRevision = bindingRevision) ∧
        (consequenceQueryIds ≠ [] ∧ claimKinds ≠ [] ∧ provenanceRefs ≠ []) ∧ CanonicalIds continuationOperationIds ∧
        CanonicalIds consequenceQueryIds ∧ CanonicalIds recoverySemanticsIds ∧
        CanonicalIds (claimKinds.map ExactClaimKind.value) ∧ CanonicalIds provenanceRefs ∧
        (ExactClaimKind.executableRetainedState ∈ claimKinds → continuationOperationIds ≠ []) then
        some ⟨id, carrierManifestId, sourceCarrierId, targetCarrier, bindingRevision, scopeFingerprint,
          protectedHorizonId, continuationOperationIds, consequenceQueryIds, equalitySemanticsId,
          recoverySemanticsIds, claimKinds, representationPolicyId, provenanceRefs, valid.1, valid.2.1, valid.2.2.1,
          valid.2.2.2.1, valid.2.2.2.2.1, valid.2.2.2.2.2.1, valid.2.2.2.2.2.2.1, valid.2.2.2.2.2.2.2.1,
          valid.2.2.2.2.2.2.2.2⟩
      else none)
    |>.literal "schema_version" (.int 1) |>.field "id" (·.id) |>.field "carrier_manifest_id" (·.carrierManifestId)
    |>.field "source_carrier_id" (·.sourceCarrierId) |>.field "target_carrier" (·.targetCarrier)
    |>.field "binding_revision" (·.bindingRevision) |>.field "scope_fingerprint" (·.scopeFingerprint)
    |>.field "protected_horizon_id" (·.protectedHorizonId)
    |>.field "continuation_operation_ids" (·.continuationOperationIds)
    |>.field "consequence_query_ids" (·.consequenceQueryIds) |>.field "equality_semantics_id" (·.equalitySemanticsId)
    |>.field "recovery_semantics_ids" (·.recoverySemanticsIds) |>.field "claim_kinds" (·.claimKinds)
    |>.field "representation_policy_id" (·.representationPolicyId) |>.field "provenance_refs" (·.provenanceRefs))
    (by intro contract; exact dif_pos ⟨contract.target_role, contract.target_binding, contract.queries_given,
      contract.operations_canonical, contract.queries_canonical, contract.semantics_canonical,
      contract.kinds_canonical, contract.provenance_canonical, contract.executable_continues⟩)

instance : JsonModel ExactPropertyValidation :=
  .checked (Fields.of (fun property outcome propositionId check witnessArtifact =>
      if valid : ((outcome ≠ .notClaimed) = (propositionId.isSome = true ∧ check.isSome = true)) ∧
        (outcome = .invalid → witnessArtifact.isSome) then
        some ⟨property, outcome, propositionId, check, witnessArtifact, valid.1, valid.2⟩
      else none)
    |>.field "property" (·.property) |>.field "outcome" (·.outcome) |>.optional "proposition_id" (·.propositionId)
    |>.optional "check" (·.check) |>.optional "witness_artifact" (·.witnessArtifact))
    (by intro validation; exact dif_pos ⟨validation.claimed_checked, validation.invalid_witnessed⟩)

instance : JsonModel CompressionValidation :=
  .checked (Fields.of (fun id contractId contractFingerprint properties validatorId validatorVersion
      validationArtifact =>
      if valid : (properties.map ExactPropertyValidation.property).Nodup ∧
        (∀ property ∈ ValidationProperty.all, property ∈ properties.map ExactPropertyValidation.property) then
        some ⟨id, contractId, contractFingerprint, properties, validatorId, validatorVersion, validationArtifact,
          valid.1, valid.2⟩
      else none)
    |>.literal "schema_version" (.int 1) |>.field "id" (·.id) |>.field "contract_id" (·.contractId)
    |>.field "contract_fingerprint" (·.contractFingerprint) |>.field "properties" (·.properties)
    |>.field "validator_id" (·.validatorId) |>.field "validator_version" (·.validatorVersion)
    |>.field "validation_artifact" (·.validationArtifact))
    (by intro validation; exact dif_pos ⟨validation.properties_unique, validation.properties_complete⟩)

instance : JsonModel ExactCompressionLicense :=
  .checked (Fields.of (fun id contractId validationId warrantDecisionId policyVersion grantedCapabilityIds
      predecessorLicenseId =>
      if valid : (grantedCapabilityIds ≠ [] ∧ CanonicalIds grantedCapabilityIds) ∧
        (predecessorLicenseId ≠ some id) then
        some ⟨id, contractId, validationId, warrantDecisionId, policyVersion, grantedCapabilityIds,
          predecessorLicenseId, valid.1, valid.2⟩
      else none)
    |>.literal "schema_version" (.int 1) |>.field "id" (·.id) |>.field "contract_id" (·.contractId)
    |>.field "validation_id" (·.validationId) |>.field "warrant_decision_id" (·.warrantDecisionId)
    |>.field "policy_version" (·.policyVersion) |>.field "granted_capability_ids" (·.grantedCapabilityIds)
    |>.optional "predecessor_license_id" (·.predecessorLicenseId))
    (by intro license; exact dif_pos ⟨license.capabilities_given, license.not_own_predecessor⟩)

instance : JsonModel PathResidue :=
  .checked (Fields.of (fun id contractId sourceHistoryDerivationId residueArtifact distinctionIds recoveryRouteIds
      provenanceRefs =>
      if valid : (distinctionIds ≠ [] ∧ provenanceRefs ≠ []) ∧ CanonicalIds distinctionIds ∧
        CanonicalIds recoveryRouteIds ∧ CanonicalIds provenanceRefs then
        some ⟨id, contractId, sourceHistoryDerivationId, residueArtifact, distinctionIds, recoveryRouteIds,
          provenanceRefs, valid.1, valid.2.1, valid.2.2.1, valid.2.2.2⟩
      else none)
    |>.literal "schema_version" (.int 1) |>.field "id" (·.id) |>.field "contract_id" (·.contractId)
    |>.field "source_history_derivation_id" (·.sourceHistoryDerivationId)
    |>.field "residue_artifact" (·.residueArtifact) |>.field "distinction_ids" (·.distinctionIds)
    |>.fieldOr "recovery_route_ids" (·.recoveryRouteIds) [] |>.field "provenance_refs" (·.provenanceRefs))
    (by intro residue; exact dif_pos ⟨residue.residue_given, residue.distinctions_canonical,
      residue.routes_canonical, residue.provenance_canonical⟩)

instance : JsonModel CompressionApplication :=
  .checked (Fields.of (fun id licenseId sourceHistoryDerivationId sourceArtifact retainedStateArtifact
      retainedStateFingerprint pathResidueIds appliedRepresentationId provenanceRefs =>
      if valid : CanonicalIds pathResidueIds ∧ (provenanceRefs ≠ [] ∧ CanonicalIds provenanceRefs) then
        some ⟨id, licenseId, sourceHistoryDerivationId, sourceArtifact, retainedStateArtifact,
          retainedStateFingerprint, pathResidueIds, appliedRepresentationId, provenanceRefs, valid.1, valid.2⟩
      else none)
    |>.literal "schema_version" (.int 1) |>.field "id" (·.id) |>.field "license_id" (·.licenseId)
    |>.field "source_history_derivation_id" (·.sourceHistoryDerivationId)
    |>.field "source_artifact" (·.sourceArtifact) |>.field "retained_state_artifact" (·.retainedStateArtifact)
    |>.field "retained_state_fingerprint" (·.retainedStateFingerprint)
    |>.fieldOr "path_residue_ids" (·.pathResidueIds) []
    |>.field "applied_representation_id" (·.appliedRepresentationId) |>.field "provenance_refs" (·.provenanceRefs))
    (by intro application; exact dif_pos ⟨application.residues_canonical, application.provenance_given⟩)

instance : JsonModel RecoveryLicense :=
  .record (Fields.of RecoveryLicense.mk |>.literal "schema_version" (.int 1) |>.field "id" (·.id)
    |>.field "compression_application_id" (·.compressionApplicationId)
    |>.field "retention_package_id" (·.retentionPackageId) |>.field "route_id" (·.routeId)
    |>.field "recovery_semantics_id" (·.recoverySemanticsId) |>.field "warrant_decision_id" (·.warrantDecisionId)
    |>.field "policy_version" (·.policyVersion))

instance : JsonModel RetentionCapabilityLink :=
  .record (Fields.of RetentionCapabilityLink.mk |>.literal "schema_version" (.int 1) |>.field "id" (·.id)
    |>.field "retention_package_id" (·.retentionPackageId) |>.field "route_id" (·.routeId)
    |>.field "compression_application_id" (·.compressionApplicationId)
    |>.field "recovery_license_id" (·.recoveryLicenseId))

instance : JsonModel RepresentationSuccessorDecision :=
  .checked (Fields.of (fun id incumbentLicenseId candidateLicenseId disposition preservedCapabilityIds
      explicitlyDisposedCapabilityIds gainKinds warrantDecisionId reason =>
      if valid : CanonicalIds preservedCapabilityIds ∧ CanonicalIds explicitlyDisposedCapabilityIds ∧
        CanonicalIds (gainKinds.map RepresentationGainKind.value) ∧
        (disposition = .replace → gainKinds ≠ [] ∧ warrantDecisionId.isSome) ∧
        (disposition ≠ .replace → warrantDecisionId = none) then
        some ⟨id, incumbentLicenseId, candidateLicenseId, disposition, preservedCapabilityIds,
          explicitlyDisposedCapabilityIds, gainKinds, warrantDecisionId, reason, valid.1, valid.2.1, valid.2.2.1,
          valid.2.2.2.1, valid.2.2.2.2⟩
      else none)
    |>.literal "schema_version" (.int 1) |>.field "id" (·.id) |>.field "incumbent_license_id" (·.incumbentLicenseId)
    |>.field "candidate_license_id" (·.candidateLicenseId) |>.field "disposition" (·.disposition)
    |>.field "preserved_capability_ids" (·.preservedCapabilityIds)
    |>.fieldOr "explicitly_disposed_capability_ids" (·.explicitlyDisposedCapabilityIds) []
    |>.fieldOr "gain_kinds" (·.gainKinds) [] |>.optional "warrant_decision_id" (·.warrantDecisionId)
    |>.field "reason" (·.reason))
    (by intro decision; exact dif_pos ⟨decision.preserved_canonical, decision.disposed_canonical,
      decision.gains_canonical, decision.replacement_warranted, decision.only_replacement_warranted⟩)

instance : JsonModel RepresentationReopening :=
  .checked (Fields.of (fun id licenseId priorHorizonId expandedHorizonId factorizationFailureCheck
      counterexampleArtifact outcome pathResidueId recoveryLicenseId =>
      if valid : (priorHorizonId ≠ expandedHorizonId) ∧ (outcome = .recoverable → pathResidueId.isSome) ∧
        (outcome = .reacquisitionRequired → recoveryLicenseId.isSome) ∧
        (outcome = .unknown → pathResidueId = none ∧ recoveryLicenseId = none) then
        some ⟨id, licenseId, priorHorizonId, expandedHorizonId, factorizationFailureCheck, counterexampleArtifact,
          outcome, pathResidueId, recoveryLicenseId, valid.1, valid.2.1, valid.2.2.1, valid.2.2.2⟩
      else none)
    |>.literal "schema_version" (.int 1) |>.field "id" (·.id) |>.field "license_id" (·.licenseId)
    |>.field "prior_horizon_id" (·.priorHorizonId) |>.field "expanded_horizon_id" (·.expandedHorizonId)
    |>.field "factorization_failure_check" (·.factorizationFailureCheck)
    |>.field "counterexample_artifact" (·.counterexampleArtifact) |>.field "outcome" (·.outcome)
    |>.optional "path_residue_id" (·.pathResidueId) |>.optional "recovery_license_id" (·.recoveryLicenseId))
    (by intro reopening; exact dif_pos ⟨reopening.horizon_changes, reopening.recoverable_residue,
      reopening.reacquisition_licensed, reopening.unknown_bare⟩)

instance : JsonModel LimitationKind :=
  .enum [(.theory, "theory"), (.question, "question"), (.probe, "probe"), (.representation, "representation"),
    (.method, "method"), (.evidence, "evidence"), (.implementation, "implementation"), (.authority, "authority")]

instance : JsonModel SuccessorKind :=
  .enum [(.theory, "theory"), (.questionRepertoire, "question_repertoire"), (.probeRepertoire, "probe_repertoire"),
    (.representation, "representation"), (.methodRepertoire, "method_repertoire"),
    (.implementation, "implementation"), (.goalDecomposition, "goal_decomposition")]

instance : JsonModel ProjectGainKind :=
  .enum [(.repairedFailure, "repaired_failure"), (.newSeparator, "new_separator"),
    (.executableRelation, "executable_relation"), (.complexityReduction, "complexity_reduction"),
    (.developmentRecovery, "development_recovery"), (.scopeExtension, "scope_extension"), (.newMethod, "new_method"),
    (.independentCheckability, "independent_checkability")]

instance : JsonModel AdmissionOutcome :=
  .enum [(.admitted, "admit"), (.reject, "reject"), (.inconclusive, "inconclusive")]

instance : JsonModel DevelopmentEvidenceKind :=
  .enum [(.reproduction, "reproduction"), (.test, "test"), (.staticCheck, "static_check"),
    (.propertyCheck, "property_check"), (.benchmark, "benchmark"), (.solver, "solver"),
    (.referenceImplementation, "reference_implementation"), (.build, "build"), (.ci, "ci"), (.research, "research")]

instance : JsonModel EvidenceOutcome :=
  .enum [(.pass, "pass"), (.fail, "fail"), (.indeterminate, "indeterminate"), (.unsupported, "unsupported")]

instance : JsonModel ReviewOutcome :=
  .enum [(.valid, "valid"), (.invalid, "invalid"), (.indeterminate, "indeterminate")]

instance : JsonModel ProjectDisposition :=
  .enum [(.replace, "replace"), (.keep, "keep"), (.frontier, "frontier"), (.reject, "reject")]

instance : JsonModel ProjectPromotionOutcome :=
  .enum [(.proposed, "proposed"), (.merged, "merged"), (.rejected, "rejected"), (.revertRequired, "revert_required")]

instance : JsonModel CyclePhase :=
  .enum [(.anchored, "anchored"), (.limitationRecorded, "limitation_recorded"), (.basisTested, "basis_tested"),
    (.frontierConstructed, "frontier_constructed"), (.goalSealed, "goal_sealed"),
    (.candidateDeveloped, "candidate_developed"), (.locallyVerified, "locally_verified"),
    (.independentlyReviewed, "independently_reviewed"), (.prVerified, "pr_verified"), (.merged, "merged"),
    (.postmergeVerified, "postmerge_verified"), (.retained, "retained")]

instance : JsonModel StopReason :=
  .enum [(.noConsequentialResidue, "no_consequential_residue"), (.noDiscriminator, "no_discriminator"),
    (.repeatedBlocker, "repeated_blocker"), (.authorityExpansionRequired, "authority_expansion_required"),
    (.evidenceInvalid, "evidence_invalid"), (.evidenceIndeterminate, "evidence_indeterminate"), (.unknown, "unknown")]

instance : JsonModel ProjectAnchor :=
  .record (Fields.of ProjectAnchor.mk |>.literal "schema_version" (.int 1) |>.literal "clean" (.bool true) false
    |>.field "id" (·.id) |>.field "repository" (·.repository) |>.field "protected_branch" (·.protectedBranch)
    |>.field "commit_sha" (·.commitSha) |>.field "tree_digest" (·.treeDigest)
    |>.field "authority_digest" (·.authorityDigest) |>.field "gate_digest" (·.gateDigest))

instance : JsonModel CapabilityLimitation :=
  .checked (Fields.of (fun id anchorId kind currentCapability missingCapability consequentialBoundary
      protectedConsequenceIds observedEvidence existingQuestionContractKeys blockedDependencyIds =>
      if valid : (protectedConsequenceIds ≠ [] ∧ CanonicalIds protectedConsequenceIds) ∧
        CanonicalIds existingQuestionContractKeys ∧ CanonicalIds blockedDependencyIds ∧ (observedEvidence ≠ []) then
        some ⟨id, anchorId, kind, currentCapability, missingCapability, consequentialBoundary,
          protectedConsequenceIds, observedEvidence, existingQuestionContractKeys, blockedDependencyIds, valid.1,
          valid.2.1, valid.2.2.1, valid.2.2.2⟩
      else none)
    |>.literal "schema_version" (.int 1) |>.field "id" (·.id) |>.field "anchor_id" (·.anchorId)
    |>.field "kind" (·.kind) |>.field "current_capability" (·.currentCapability)
    |>.field "missing_capability" (·.missingCapability) |>.field "consequential_boundary" (·.consequentialBoundary)
    |>.field "protected_consequence_ids" (·.protectedConsequenceIds) |>.field "observed_evidence" (·.observedEvidence)
    |>.fieldOr "existing_question_contract_keys" (·.existingQuestionContractKeys) []
    |>.fieldOr "blocked_dependency_ids" (·.blockedDependencyIds) [])
    (by intro limitation; exact dif_pos ⟨limitation.consequences_canonical, limitation.contracts_canonical,
      limitation.dependencies_canonical, limitation.observed⟩)

instance : JsonModel ConsequentialReturn :=
  .record (Fields.of ConsequentialReturn.mk |>.field "return_class_id" (·.returnClassId)
    |>.field "downstream_state_id" (·.downstreamStateId)
    |>.field "downstream_obligation_kind" (·.downstreamObligationKind))

instance : JsonModel QuestionContractCandidate :=
  .checked (Fields.of (fun id limitationId contract typedReferentIds preconditionIds possibleReturns
      comparisonPolicyId downstreamConsumerIds falsifyingAttackIds =>
      if valid : (typedReferentIds ≠ [] ∧ CanonicalIds typedReferentIds) ∧ CanonicalIds preconditionIds ∧
        (downstreamConsumerIds ≠ [] ∧ CanonicalIds downstreamConsumerIds) ∧
        (falsifyingAttackIds ≠ [] ∧ CanonicalIds falsifyingAttackIds) ∧
        2 ≤ (possibleReturns.map ConsequentialReturn.downstreamStateId).dedup.length ∧
        (contract.maturity ≠ .stable) then
        some ⟨id, limitationId, contract, typedReferentIds, preconditionIds, possibleReturns, comparisonPolicyId,
          downstreamConsumerIds, falsifyingAttackIds, valid.1, valid.2.1, valid.2.2.1, valid.2.2.2.1,
          valid.2.2.2.2.1, valid.2.2.2.2.2⟩
      else none)
    |>.literal "schema_version" (.int 1) |>.literal "status" (.text "inert_candidate") |>.field "id" (·.id)
    |>.field "limitation_id" (·.limitationId) |>.field "contract" (·.contract)
    |>.field "typed_referent_ids" (·.typedReferentIds) |>.field "precondition_ids" (·.preconditionIds)
    |>.field "possible_returns" (·.possibleReturns) |>.field "comparison_policy_id" (·.comparisonPolicyId)
    |>.field "downstream_consumer_ids" (·.downstreamConsumerIds)
    |>.field "falsifying_attack_ids" (·.falsifyingAttackIds))
    (by intro candidate; exact dif_pos ⟨candidate.referents_canonical, candidate.preconditions_canonical,
      candidate.consumers_canonical, candidate.attacks_canonical, candidate.returns_distinct, candidate.not_stable⟩)

def QuestionRepertoireDecision.admittedProfileId (decision : QuestionRepertoireDecision) : Option String :=
  if decision.profileAdmitted then some "recursive-project-v1" else none

instance : JsonModel QuestionRepertoireDecision :=
  .checked (Fields.of (fun id candidateId outcome controllerPolicyVersion evidenceIds (profileId : Option String) =>
      if valid : profileId.all (· = "recursive-project-v1") ∧ (evidenceIds ≠ [] ∧ CanonicalIds evidenceIds) ∧
          (outcome = .admitted) = (profileId.isSome = true) then
        some ⟨id, candidateId, outcome, controllerPolicyVersion, evidenceIds, profileId.isSome, valid.2.1, valid.2.2⟩
      else none)
    |>.literal "schema_version" (.int 1) |>.field "id" (·.id) |>.field "candidate_id" (·.candidateId)
    |>.field "outcome" (·.outcome) |>.field "controller_policy_version" (·.controllerPolicyVersion)
    |>.field "evidence_ids" (·.evidenceIds) |>.optional "admitted_profile_id" (·.admittedProfileId))
    (by
      intro decision
      obtain ⟨id, candidateId, outcome, version, evidenceIds, admitted, canonical, profile⟩ := decision
      cases admitted <;> exact dif_pos ⟨rfl, canonical, profile⟩)

instance : JsonModel MethodBindingCandidate :=
  .checked (Fields.of (fun id limitationId relationId nativeField methodId primarySourceUrls sourceArtifacts
      assumptionIds applicabilityCheckIds licenseId adapterRequired =>
      if valid : (primarySourceUrls ≠ [] ∧ sourceArtifacts ≠ []) ∧
        (assumptionIds ≠ [] ∧ CanonicalIds assumptionIds) ∧
        (applicabilityCheckIds ≠ [] ∧ CanonicalIds applicabilityCheckIds) then
        some ⟨id, limitationId, relationId, nativeField, methodId, primarySourceUrls, sourceArtifacts, assumptionIds,
          applicabilityCheckIds, licenseId, adapterRequired, valid.1, valid.2.1, valid.2.2⟩
      else none)
    |>.literal "schema_version" (.int 1) |>.literal "status" (.text "inert_candidate") |>.field "id" (·.id)
    |>.field "limitation_id" (·.limitationId) |>.field "relation_id" (·.relationId)
    |>.field "native_field" (·.nativeField) |>.field "method_id" (·.methodId)
    |>.field "primary_source_urls" (·.primarySourceUrls) |>.field "source_artifacts" (·.sourceArtifacts)
    |>.field "assumption_ids" (·.assumptionIds) |>.field "applicability_check_ids" (·.applicabilityCheckIds)
    |>.field "license_id" (·.licenseId) |>.field "adapter_required" (·.adapterRequired))
    (by intro candidate; exact dif_pos ⟨candidate.sources_given, candidate.assumptions_canonical,
      candidate.checks_canonical⟩)

instance : JsonModel MethodAdmissionDecision :=
  .checked (Fields.of (fun id candidateId outcome methodPolicyVersion evidenceIds implementationGoalId =>
      if valid : evidenceIds ≠ [] ∧ CanonicalIds evidenceIds then
        some ⟨id, candidateId, outcome, methodPolicyVersion, evidenceIds, implementationGoalId, valid⟩
      else none)
    |>.literal "schema_version" (.int 1) |>.field "id" (·.id) |>.field "candidate_id" (·.candidateId)
    |>.field "outcome" (·.outcome) |>.field "method_policy_version" (·.methodPolicyVersion)
    |>.field "evidence_ids" (·.evidenceIds) |>.optional "implementation_goal_id" (·.implementationGoalId))
    (by intro decision; exact dif_pos decision.evidence_canonical)

instance : JsonModel ProjectCost :=
  .record (Fields.of ProjectCost.mk |>.field "axis" (·.axis) |>.optional "value" (·.value))

instance : JsonModel CapabilitySuccessorCandidate :=
  .checked (Fields.of (fun id anchorId limitationId kind currentState desiredState preservedCapabilityIds
      explicitlyDisposedCapabilityIds gainKinds discriminatorId evidenceMechanismIds estimatedCosts reversible =>
      if valid : (preservedCapabilityIds ≠ [] ∧ CanonicalIds preservedCapabilityIds) ∧
        CanonicalIds explicitlyDisposedCapabilityIds ∧
        (gainKinds ≠ [] ∧ CanonicalIds (gainKinds.map ProjectGainKind.value)) ∧
        (evidenceMechanismIds ≠ [] ∧ CanonicalIds evidenceMechanismIds) ∧
        (estimatedCosts ≠ [] ∧ CanonicalIds (estimatedCosts.map ProjectCost.axis)) ∧
        (∀ capability ∈ preservedCapabilityIds, capability ∉ explicitlyDisposedCapabilityIds) then
        some ⟨id, anchorId, limitationId, kind, currentState, desiredState, preservedCapabilityIds,
          explicitlyDisposedCapabilityIds, gainKinds, discriminatorId, evidenceMechanismIds, estimatedCosts,
          reversible, valid.1, valid.2.1, valid.2.2.1, valid.2.2.2.1, valid.2.2.2.2.1, valid.2.2.2.2.2⟩
      else none)
    |>.literal "schema_version" (.int 1) |>.field "id" (·.id) |>.field "anchor_id" (·.anchorId)
    |>.field "limitation_id" (·.limitationId) |>.field "kind" (·.kind) |>.field "current_state" (·.currentState)
    |>.field "desired_state" (·.desiredState) |>.field "preserved_capability_ids" (·.preservedCapabilityIds)
    |>.fieldOr "explicitly_disposed_capability_ids" (·.explicitlyDisposedCapabilityIds) []
    |>.field "gain_kinds" (·.gainKinds) |>.nullable "discriminator_id" (·.discriminatorId)
    |>.field "evidence_mechanism_ids" (·.evidenceMechanismIds) |>.field "estimated_costs" (·.estimatedCosts)
    |>.field "reversible" (·.reversible))
    (by intro candidate; exact dif_pos ⟨candidate.preserved_canonical, candidate.disposed_canonical,
      candidate.gains_canonical, candidate.mechanisms_canonical, candidate.costs_canonical,
      candidate.preserved_not_disposed⟩)

instance : JsonModel FrontierStatus := .enum [(.ready, "ready"), (.unknown, "unknown")]

instance : JsonModel CapabilityFrontier :=
  .record (Fields.of CapabilityFrontier.mk |>.literal "schema_version" (.int 1)
    |>.literal "selection_policy_version" (.text "project-frontier-v1") |>.field "id" (·.id)
    |>.field "anchor_id" (·.anchorId) |>.field "limitation_id" (·.limitationId)
    |>.field "candidate_ids" (·.candidateIds) |>.field "nondominated_candidate_ids" (·.nondominatedCandidateIds)
    |>.field "incomparable_pairs" (·.incomparablePairs)
    |>.nullable "selected_discriminator_candidate_id" (·.selectedDiscriminatorCandidateId)
    |>.field "status" (·.status))

instance : JsonModel ImplementationGoalContract :=
  .record (Fields.of ImplementationGoalContract.mk |>.literal "schema_version" (.int 1) |>.field "id" (·.id)
    |>.field "cycle_id" (·.cycleId) |>.field "anchor_id" (·.anchorId) |>.field "frontier_id" (·.frontierId)
    |>.field "candidate_id" (·.candidateId) |>.field "current" (·.current) |>.field "desired" (·.desired)
    |>.field "separator" (·.separator) |>.field "expected_incumbent_return" (·.expectedIncumbentReturn)
    |>.field "expected_candidate_return" (·.expectedCandidateReturn)
    |>.field "preserve_capability_ids" (·.preserveCapabilityIds) |>.field "acceptance_commands" (·.acceptanceCommands)
    |>.field "allowed_mutation_roots" (·.allowedMutationRoots)
    |>.field "forbidden_authority_roots" (·.forbiddenAuthorityRoots) |>.field "assumption_ids" (·.assumptionIds)
    |>.field "incumbent_gate_digest" (·.incumbentGateDigest) |>.field "proposed_gate_digest" (·.proposedGateDigest)
    |>.field "rollback_condition" (·.rollbackCondition) |>.field "reopening_condition" (·.reopeningCondition))

instance : JsonModel ImplementationGoalCandidate :=
  .record (Fields.of ImplementationGoalCandidate.mk |>.literal "schema_version" (.int 1)
    |>.literal "compiler_version" (.text "implementation-goal-compiler-v1")
    |>.literal "status" (.text "inert_candidate")
    |>.literal "matched_return_class_id" (.text "goal-derivation-required") false
    |>.literal "acceptance_registry_version" (.text "project-gate-registry-v1")
    |>.literal "mutation_registry_version" (.text "project-mutation-registry-v1") |>.field "id" (·.id)
    |>.field "question_candidate_id" (·.questionCandidateId)
    |>.field "question_candidate_fingerprint" (·.questionCandidateFingerprint)
    |>.field "question_decision_id" (·.questionDecisionId)
    |>.field "question_decision_fingerprint" (·.questionDecisionFingerprint)
    |>.field "compiled_question_id" (·.compiledQuestionId)
    |>.field "compiled_question_fingerprint" (·.compiledQuestionFingerprint)
    |>.field "source_obligation_id" (·.sourceObligationId)
    |>.field "source_obligation_fingerprint" (·.sourceObligationFingerprint)
    |>.field "effect_request_id" (·.effectRequestId) |>.field "accepted_decode_id" (·.acceptedDecodeId)
    |>.field "accepted_decode_fingerprint" (·.acceptedDecodeFingerprint) |>.field "source_claim_id" (·.sourceClaimId)
    |>.field "source_claim_fingerprint" (·.sourceClaimFingerprint)
    |>.field "downstream_obligation_id" (·.downstreamObligationId)
    |>.field "downstream_obligation_fingerprint" (·.downstreamObligationFingerprint) |>.field "anchor_id" (·.anchorId)
    |>.field "anchor_fingerprint" (·.anchorFingerprint) |>.field "limitation_id" (·.limitationId)
    |>.field "limitation_fingerprint" (·.limitationFingerprint) |>.field "frontier_id" (·.frontierId)
    |>.field "frontier_fingerprint" (·.frontierFingerprint) |>.field "selected_candidate_id" (·.selectedCandidateId)
    |>.field "selected_candidate_fingerprint" (·.selectedCandidateFingerprint)
    |>.field "binding_revision" (·.bindingRevision) |>.field "scope_fingerprint" (·.scopeFingerprint)
    |>.field "protected_horizon_id" (·.protectedHorizonId) |>.field "goal" (·.goal)
    |>.field "goal_fingerprint" (·.goalFingerprint))

instance : JsonModel GoalAdmissionDecision :=
  .checked (Fields.of (fun id candidateId candidateFingerprint outcome evidenceRecordIds admittedGoalId =>
      if valid : (evidenceRecordIds ≠ [] ∧ CanonicalIds evidenceRecordIds) ∧
        ((outcome = .admitted) = (admittedGoalId.isSome = true)) then
        some ⟨id, candidateId, candidateFingerprint, outcome, evidenceRecordIds, admittedGoalId, valid.1, valid.2⟩
      else none)
    |>.literal "schema_version" (.int 1) |>.literal "controller_policy_version" (.text "goal-admission-policy-v1")
    |>.field "id" (·.id) |>.field "candidate_id" (·.candidateId)
    |>.field "candidate_fingerprint" (·.candidateFingerprint) |>.field "outcome" (·.outcome)
    |>.field "evidence_record_ids" (·.evidenceRecordIds) |>.optional "admitted_goal_id" (·.admittedGoalId))
    (by intro decision; exact dif_pos ⟨decision.evidence_canonical, decision.admitted_named⟩)

instance : JsonModel CandidateEnvironmentManifest :=
  .record (Fields.of CandidateEnvironmentManifest.mk |>.literal "schema_version" (.int 1)
    |>.literal "direct_promotion_authorized" (.bool false) |>.field "id" (·.id) |>.field "goal_id" (·.goalId)
    |>.field "developer_id" (·.developerId) |>.field "base_commit_sha" (·.baseCommitSha)
    |>.field "candidate_branch" (·.candidateBranch) |>.field "worktree_path" (·.worktreePath)
    |>.field "initial_tree_digest" (·.initialTreeDigest) |>.field "toolchain_artifact" (·.toolchainArtifact)
    |>.field "toolchain_digest" (·.toolchainDigest))

instance : JsonModel DevelopmentEvidence :=
  .record (Fields.of DevelopmentEvidence.mk |>.literal "schema_version" (.int 1) |>.field "id" (·.id)
    |>.field "goal_id" (·.goalId) |>.field "candidate_environment_id" (·.candidateEnvironmentId)
    |>.field "kind" (·.kind) |>.field "command_or_method" (·.commandOrMethod) |>.field "outcome" (·.outcome)
    |>.field "observed_return" (·.observedReturn) |>.field "base_commit_sha" (·.baseCommitSha)
    |>.field "candidate_commit_sha" (·.candidateCommitSha) |>.field "gate_digest" (·.gateDigest))

instance : JsonModel IndependentReview :=
  .checked (Fields.of (fun id goalId candidateEnvironmentId reviewerId reviewerContextDigest reviewedCommitSha
      evidenceIds outcome findingsArtifact =>
      if valid : evidenceIds ≠ [] ∧ CanonicalIds evidenceIds then
        some ⟨id, goalId, candidateEnvironmentId, reviewerId, reviewerContextDigest, reviewedCommitSha, evidenceIds,
          outcome, findingsArtifact, valid⟩
      else none)
    |>.literal "schema_version" (.int 1) |>.field "id" (·.id) |>.field "goal_id" (·.goalId)
    |>.field "candidate_environment_id" (·.candidateEnvironmentId) |>.field "reviewer_id" (·.reviewerId)
    |>.field "reviewer_context_digest" (·.reviewerContextDigest) |>.field "reviewed_commit_sha" (·.reviewedCommitSha)
    |>.field "evidence_ids" (·.evidenceIds) |>.field "outcome" (·.outcome)
    |>.field "findings_artifact" (·.findingsArtifact))
    (by intro review; exact dif_pos review.evidence_canonical)

instance : JsonModel ProjectSuccessorDecision :=
  .checked (Fields.of (fun id goalId candidateId candidateEnvironmentId reviewId evidenceIds disposition
      preservedCapabilityIds explicitlyDisposedCapabilityIds gainKinds reason =>
      if valid : (evidenceIds ≠ [] ∧ CanonicalIds evidenceIds) ∧
        (preservedCapabilityIds ≠ [] ∧ CanonicalIds preservedCapabilityIds) ∧
        CanonicalIds explicitlyDisposedCapabilityIds ∧ CanonicalIds (gainKinds.map ProjectGainKind.value) ∧
        (disposition = .replace → gainKinds ≠ []) then
        some ⟨id, goalId, candidateId, candidateEnvironmentId, reviewId, evidenceIds, disposition,
          preservedCapabilityIds, explicitlyDisposedCapabilityIds, gainKinds, reason, valid.1, valid.2.1,
          valid.2.2.1, valid.2.2.2.1, valid.2.2.2.2⟩
      else none)
    |>.literal "schema_version" (.int 1) |>.field "id" (·.id) |>.field "goal_id" (·.goalId)
    |>.field "candidate_id" (·.candidateId) |>.field "candidate_environment_id" (·.candidateEnvironmentId)
    |>.field "review_id" (·.reviewId) |>.field "evidence_ids" (·.evidenceIds) |>.field "disposition" (·.disposition)
    |>.field "preserved_capability_ids" (·.preservedCapabilityIds)
    |>.fieldOr "explicitly_disposed_capability_ids" (·.explicitlyDisposedCapabilityIds) []
    |>.fieldOr "gain_kinds" (·.gainKinds) [] |>.field "reason" (·.reason))
    (by intro decision; exact dif_pos ⟨decision.evidence_canonical, decision.preserved_canonical,
      decision.disposed_canonical, decision.gains_canonical, decision.replacement_gains⟩)

instance : JsonModel CheckConclusionKind :=
  .enum [(.success, "success"), (.failure, "failure"), (.cancelled, "cancelled"), (.skipped, "skipped")]

instance : JsonModel CheckConclusion :=
  .record (Fields.of CheckConclusion.mk |>.field "context" (·.context) |>.field "conclusion" (·.conclusion))

instance : JsonModel PromotionDecision :=
  .checked (Fields.of (fun id successorDecisionId candidateCommitSha pullRequestUrl requiredChecks outcome
      mergedCommitSha =>
      if valid : (requiredChecks ≠ [] ∧ CanonicalIds (requiredChecks.map CheckConclusion.context)) ∧
        (outcome = .merged → mergedCommitSha.isSome ∧ ∀ check ∈ requiredChecks, check.conclusion = .success) ∧
        (outcome ≠ .merged → mergedCommitSha = none) then
        some ⟨id, successorDecisionId, candidateCommitSha, pullRequestUrl, requiredChecks, outcome, mergedCommitSha,
          valid.1, valid.2.1, valid.2.2⟩
      else none)
    |>.literal "schema_version" (.int 1) |>.field "id" (·.id) |>.field "successor_decision_id" (·.successorDecisionId)
    |>.field "candidate_commit_sha" (·.candidateCommitSha) |>.field "pull_request_url" (·.pullRequestUrl)
    |>.field "required_checks" (·.requiredChecks) |>.field "outcome" (·.outcome)
    |>.optional "merged_commit_sha" (·.mergedCommitSha))
    (by intro decision; exact dif_pos ⟨decision.checks_canonical, decision.merged_passing,
      decision.only_merged_named⟩)

instance : JsonModel RecursiveCycleCheckpoint :=
  .checked (Fields.of (fun id cycleId phase predecessorId recordIds reportArtifact =>
      if valid : (recordIds ≠ [] ∧ CanonicalIds recordIds) ∧ (predecessorId ≠ some id) then
        some ⟨id, cycleId, phase, predecessorId, recordIds, reportArtifact, valid.1, valid.2⟩
      else none)
    |>.literal "schema_version" (.int 1) |>.field "id" (·.id) |>.field "cycle_id" (·.cycleId)
    |>.field "phase" (·.phase) |>.nullable "predecessor_id" (·.predecessorId) |>.field "record_ids" (·.recordIds)
    |>.field "report_artifact" (·.reportArtifact))
    (by intro checkpoint; exact dif_pos ⟨checkpoint.records_canonical, checkpoint.not_own_predecessor⟩)

instance : JsonModel RecursiveStopDisposition :=
  .checked (Fields.of (fun id cycleId reason consequentialResidualIds blockedDependencyIds evidenceArtifact =>
      if valid : CanonicalIds consequentialResidualIds ∧ CanonicalIds blockedDependencyIds ∧
        (reason = .noConsequentialResidue → consequentialResidualIds = []) then
        some ⟨id, cycleId, reason, consequentialResidualIds, blockedDependencyIds, evidenceArtifact, valid.1,
          valid.2.1, valid.2.2⟩
      else none)
    |>.literal "schema_version" (.int 1) |>.field "id" (·.id) |>.field "cycle_id" (·.cycleId)
    |>.field "reason" (·.reason) |>.fieldOr "consequential_residual_ids" (·.consequentialResidualIds) []
    |>.fieldOr "blocked_dependency_ids" (·.blockedDependencyIds) [] |>.field "evidence_artifact" (·.evidenceArtifact))
    (by intro disposition; exact dif_pos ⟨disposition.residuals_canonical, disposition.dependencies_canonical,
      disposition.no_residue_retained⟩)

end RatchetingInquiry
