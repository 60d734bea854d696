import RatchetingInquiry.Learning.Models
import RatchetingInquiry.Serialization.Inquiry

/-! The JSON of the records of memory and of learning. -/

namespace RatchetingInquiry

instance : JsonModel MemoryOwner :=
  .enum [(.episodic, "M_E"), (.semantic, "M_S"), (.procedural, "M_P"), (.retention, "M_L"), (.warrant, "W"),
    (.action, "A"), (.prediction, "Pi")]

instance : JsonModel OwnedRecordType :=
  .enum [(.probeEvent, "probe_event"), (.lemmaVersion, "lemma_version"), (.semanticDelta, "semantic_delta"),
    (.probeIdentity, "probe_identity"), (.retentionPackage, "retention_package"),
    (.reacquisitionScaffold, "reacquisition_scaffold"), (.recoveryProtocol, "recovery_protocol"),
    (.evidence, "evidence"), (.checkerVerdict, "checker_verdict"), (.warrantDecision, "warrant_decision"),
    (.effectRequest, "effect_request"), (.externalReturn, "external_return"), (.reconstruction, "reconstruction"),
    (.predictionSeal, "prediction_seal")]

instance : JsonModel OwnedMemoryRef :=
  .checked (Fields.of (fun owner recordType recordId recordSchemaVersion contentFingerprint =>
      if valid : recordOwner recordType = owner then
        some ⟨owner, recordType, recordId, recordSchemaVersion, contentFingerprint, valid⟩
      else none)
    |>.literal "schema_version" (.int 1) |>.field "owner" (·.owner) |>.field "record_type" (·.recordType)
    |>.field "record_id" (·.recordId) |>.field "record_schema_version" (·.recordSchemaVersion)
    |>.field "content_fingerprint" (·.contentFingerprint))
    (by intro reference; exact dif_pos reference.owner_declared)

instance : JsonModel RetrievalRankComponent :=
  .enum [(.referenceMatch, "reference_match_count"), (.recordTypeMatch, "record_type_match_count"),
    (.ownerMatch, "owner_match_count"), (.cueMatch, "cue_match_count"), (.tagMatch, "tag_match_count")]

instance : JsonModel StructuralRetrievalPolicy :=
  .record (Fields.of StructuralRetrievalPolicy.mk |>.literal "schema_version" (.int 1)
    |>.literal "exact_scope" (.bool true) |>.literal "exact_binding" (.bool true)
    |>.literal "exact_horizon" (.bool true) |>.literal "reject_stale_references" (.bool true) |>.field "id" (·.id)
    |>.field "version" (·.version) |>.fieldOr "max_results" (·.maxResults) 100
    |>.fieldOr "rank_components" (·.rankComponents)
      [.referenceMatch, .recordTypeMatch, .ownerMatch, .cueMatch, .tagMatch]
    |>.fieldOr "accepted_record_types" (·.acceptedRecordTypes) [])

instance : JsonModel RetrievalQuery :=
  .checked (Fields.of (fun id policyId policyVersion scopeFingerprint bindingRevision protectedHorizonId
      sourceSequence sourceIndexFingerprint owners recordTypes referenceSelectors cueIds tagIds limit =>
      if valid : (owners ≠ [] ∨ recordTypes ≠ [] ∨ referenceSelectors ≠ [] ∨ cueIds ≠ [] ∨ tagIds ≠ []) ∧
        1 ≤ limit then
        some ⟨id, policyId, policyVersion, scopeFingerprint, bindingRevision, protectedHorizonId, sourceSequence,
          sourceIndexFingerprint, owners, recordTypes, referenceSelectors, cueIds, tagIds, limit, valid.1, valid.2⟩
      else none)
    |>.literal "schema_version" (.int 1) |>.field "id" (·.id) |>.field "policy_id" (·.policyId)
    |>.field "policy_version" (·.policyVersion) |>.field "scope_fingerprint" (·.scopeFingerprint)
    |>.field "binding_revision" (·.bindingRevision) |>.field "protected_horizon_id" (·.protectedHorizonId)
    |>.field "source_sequence" (·.sourceSequence) |>.field "source_index_fingerprint" (·.sourceIndexFingerprint)
    |>.fieldOr "owners" (·.owners) [] |>.fieldOr "record_types" (·.recordTypes) []
    |>.fieldOr "reference_selectors" (·.referenceSelectors) [] |>.fieldOr "cue_ids" (·.cueIds) []
    |>.fieldOr "tag_ids" (·.tagIds) [] |>.fieldOr "limit" (·.limit) 20)
    (by intro query; exact dif_pos ⟨query.selector_given, query.limit_positive⟩)

instance : JsonModel RetrievalRank :=
  .record (Fields.of RetrievalRank.mk |>.literal "schema_version" (.int 1)
    |>.fieldOr "reference_match_count" (·.referenceMatchCount) 0
    |>.fieldOr "record_type_match_count" (·.recordTypeMatchCount) 0
    |>.fieldOr "owner_match_count" (·.ownerMatchCount) 0 |>.fieldOr "cue_match_count" (·.cueMatchCount) 0
    |>.fieldOr "tag_match_count" (·.tagMatchCount) 0)

instance : JsonModel RetrievalHit :=
  .record (Fields.of RetrievalHit.mk |>.literal "schema_version" (.int 1) |>.field "package_id" (·.packageId)
    |>.field "package_content_fingerprint" (·.packageContentFingerprint) |>.field "rank" (·.rank)
    |>.fieldOr "matched_ref_keys" (·.matchedRefKeys) [] |>.fieldOr "matched_cue_ids" (·.matchedCueIds) []
    |>.fieldOr "matched_tag_ids" (·.matchedTagIds) [])

instance : JsonModel RetrievalResult :=
  .record (Fields.of RetrievalResult.mk |>.literal "schema_version" (.int 1) |>.field "id" (·.id)
    |>.field "query_id" (·.queryId) |>.field "policy_id" (·.policyId) |>.field "policy_version" (·.policyVersion)
    |>.field "source_sequence" (·.sourceSequence) |>.field "source_index_fingerprint" (·.sourceIndexFingerprint)
    |>.field "hits" (·.hits) |>.fieldOr "rejected_stale_package_ids" (·.rejectedStalePackageIds) [])

instance : JsonModel DirectUseRoute :=
  .record (Fields.of (fun id scopeFingerprint bindingRevision protectedHorizonId sourceRefs provenanceRefs
      presentUseContractId =>
      (DirectUseRoute.mk ⟨id, scopeFingerprint, bindingRevision, protectedHorizonId, sourceRefs, provenanceRefs⟩
        presentUseContractId))
    |>.literal "schema_version" (.int 1) |>.literal "kind" (.text "direct_use") |>.field "id" (·.id)
    |>.field "scope_fingerprint" (·.scopeFingerprint) |>.field "binding_revision" (·.bindingRevision)
    |>.field "protected_horizon_id" (·.protectedHorizonId) |>.field "source_refs" (·.sourceRefs)
    |>.field "provenance_refs" (·.provenanceRefs) |>.field "present_use_contract_id" (·.presentUseContractId))

instance : JsonModel ReconstructionRoute :=
  .record (Fields.of (fun id scopeFingerprint bindingRevision protectedHorizonId sourceRefs provenanceRefs
      reconstructionPolicyId =>
      (ReconstructionRoute.mk ⟨id, scopeFingerprint, bindingRevision, protectedHorizonId, sourceRefs, provenanceRefs⟩
        reconstructionPolicyId))
    |>.literal "schema_version" (.int 1) |>.literal "kind" (.text "reconstruction") |>.field "id" (·.id)
    |>.field "scope_fingerprint" (·.scopeFingerprint) |>.field "binding_revision" (·.bindingRevision)
    |>.field "protected_horizon_id" (·.protectedHorizonId) |>.field "source_refs" (·.sourceRefs)
    |>.field "provenance_refs" (·.provenanceRefs) |>.field "reconstruction_policy_id" (·.reconstructionPolicyId))

instance : JsonModel ConsequenceEvaluationRoute :=
  .record (Fields.of (fun id scopeFingerprint bindingRevision protectedHorizonId sourceRefs provenanceRefs
      consequenceEvaluatorId =>
      (ConsequenceEvaluationRoute.mk
        ⟨id, scopeFingerprint, bindingRevision, protectedHorizonId, sourceRefs, provenanceRefs⟩
        consequenceEvaluatorId))
    |>.literal "schema_version" (.int 1) |>.literal "kind" (.text "consequence_evaluation") |>.field "id" (·.id)
    |>.field "scope_fingerprint" (·.scopeFingerprint) |>.field "binding_revision" (·.bindingRevision)
    |>.field "protected_horizon_id" (·.protectedHorizonId) |>.field "source_refs" (·.sourceRefs)
    |>.field "provenance_refs" (·.provenanceRefs) |>.field "consequence_evaluator_id" (·.consequenceEvaluatorId))

instance : JsonModel ReacquisitionRoute :=
  .record (Fields.of (fun id scopeFingerprint bindingRevision protectedHorizonId sourceRefs provenanceRefs
      recoveryProtocolId reacquisitionScaffoldId =>
      (ReacquisitionRoute.mk ⟨id, scopeFingerprint, bindingRevision, protectedHorizonId, sourceRefs, provenanceRefs⟩
        recoveryProtocolId reacquisitionScaffoldId))
    |>.literal "schema_version" (.int 1) |>.literal "kind" (.text "reacquisition") |>.field "id" (·.id)
    |>.field "scope_fingerprint" (·.scopeFingerprint) |>.field "binding_revision" (·.bindingRevision)
    |>.field "protected_horizon_id" (·.protectedHorizonId) |>.field "source_refs" (·.sourceRefs)
    |>.field "provenance_refs" (·.provenanceRefs) |>.field "recovery_protocol_id" (·.recoveryProtocolId)
    |>.field "reacquisition_scaffold_id" (·.reacquisitionScaffoldId))

instance : JsonModel ReacquisitionScaffold :=
  .record (Fields.of ReacquisitionScaffold.mk |>.literal "schema_version" (.int 1) |>.field "id" (·.id)
    |>.field "scope_fingerprint" (·.scopeFingerprint) |>.field "binding_revision" (·.bindingRevision)
    |>.field "protected_horizon_id" (·.protectedHorizonId) |>.fieldOr "cue_refs" (·.cueRefs) []
    |>.fieldOr "ordered_probe_ids" (·.orderedProbeIds) [] |>.fieldOr "boundary_refs" (·.boundaryRefs) []
    |>.fieldOr "failure_refs" (·.failureRefs) [] |>.field "provenance_refs" (·.provenanceRefs))

instance : JsonModel CostAxis :=
  .record (Fields.of CostAxis.mk |>.literal "schema_version" (.int 1) |>.literal "direction" (.text "lower_is_better")
    |>.field "id" (·.id) |>.field "unit_id" (·.unitId))

instance : JsonModel CostCoordinate :=
  .checked (Fields.of (fun axis numerator denominator =>
      if valid : 0 < denominator ∧ (Nat.gcd numerator denominator = 1) then
        some ⟨axis, numerator, denominator, valid.1, valid.2⟩
      else none)
    |>.literal "schema_version" (.int 1) |>.field "axis" (·.axis) |>.field "numerator" (·.numerator)
    |>.fieldOr "denominator" (·.denominator) 1)
    (by intro coordinate; exact dif_pos ⟨coordinate.denominator_positive, coordinate.reduced⟩)

instance : JsonModel CostVector :=
  .checked (Fields.of (fun coordinates =>
      if valid : (coordinates ≠ []) ∧ CanonicalIds (coordinates.map (·.axis.id)) then
        some ⟨coordinates, valid.1, valid.2⟩
      else none)
    |>.literal "schema_version" (.int 1) |>.field "coordinates" (·.coordinates))
    (by intro vector; exact dif_pos ⟨vector.axes_named, vector.axes_canonical⟩)

instance : JsonModel RecoveryPins :=
  .record (Fields.of RecoveryPins.mk |>.literal "schema_version" (.int 1)
    |>.field "scope_fingerprint" (·.scopeFingerprint) |>.field "target_competence_id" (·.targetCompetenceId)
    |>.field "finite_universe_hash" (·.finiteUniverseHash) |>.field "binding_revision" (·.bindingRevision)
    |>.field "protected_horizon_id" (·.protectedHorizonId) |>.field "evaluator_id" (·.evaluatorId)
    |>.field "evaluator_version" (·.evaluatorVersion) |>.field "evidence_access_id" (·.evidenceAccessId)
    |>.field "evidence_access_version" (·.evidenceAccessVersion) |>.field "budget_id" (·.budgetId)
    |>.field "budget_version" (·.budgetVersion) |>.field "budget" (·.budget)
    |>.field "recovery_protocol_id" (·.recoveryProtocolId)
    |>.field "recovery_protocol_version" (·.recoveryProtocolVersion)
    |>.field "comparison_policy_id" (·.comparisonPolicyId)
    |>.field "comparison_policy_version" (·.comparisonPolicyVersion))

instance : JsonModel RecoveryProtocol :=
  .record (Fields.of RecoveryProtocol.mk |>.literal "schema_version" (.int 1) |>.field "id" (·.id)
    |>.field "version" (·.version) |>.field "scope_fingerprint" (·.scopeFingerprint)
    |>.field "target_competence_id" (·.targetCompetenceId) |>.field "finite_universe_hash" (·.finiteUniverseHash)
    |>.field "binding_revision" (·.bindingRevision) |>.field "protected_horizon_id" (·.protectedHorizonId)
    |>.field "evaluator_id" (·.evaluatorId) |>.field "evaluator_version" (·.evaluatorVersion)
    |>.field "evidence_access_id" (·.evidenceAccessId) |>.field "evidence_access_version" (·.evidenceAccessVersion)
    |>.field "budget_id" (·.budgetId) |>.field "budget_version" (·.budgetVersion) |>.field "budget" (·.budget)
    |>.field "comparison_policy_id" (·.comparisonPolicyId)
    |>.field "comparison_policy_version" (·.comparisonPolicyVersion) |>.field "cost_axes" (·.costAxes))

instance : JsonModel RetentionPackage :=
  .checked (Fields.of (fun id scopeFingerprint bindingRevision protectedHorizonId ownedRefs cueIds tagIds
      directUseRouteIds reconstructionRouteIds consequenceEvaluationRouteIds reacquisitionRouteIds scaffoldIds
      recoveryProtocolIds provenanceRefs =>
      if valid : CanonicalIds directUseRouteIds ∧ CanonicalIds reconstructionRouteIds ∧
        CanonicalIds consequenceEvaluationRouteIds ∧ CanonicalIds reacquisitionRouteIds ∧ CanonicalIds scaffoldIds ∧
        CanonicalIds recoveryProtocolIds then
        some ⟨id, scopeFingerprint, bindingRevision, protectedHorizonId, ownedRefs, cueIds, tagIds,
          directUseRouteIds, reconstructionRouteIds, consequenceEvaluationRouteIds, reacquisitionRouteIds,
          scaffoldIds, recoveryProtocolIds, provenanceRefs, valid.1, valid.2.1, valid.2.2.1, valid.2.2.2.1,
          valid.2.2.2.2.1, valid.2.2.2.2.2⟩
      else none)
    |>.literal "schema_version" (.int 1) |>.field "id" (·.id) |>.field "scope_fingerprint" (·.scopeFingerprint)
    |>.field "binding_revision" (·.bindingRevision) |>.field "protected_horizon_id" (·.protectedHorizonId)
    |>.field "owned_refs" (·.ownedRefs) |>.fieldOr "cue_ids" (·.cueIds) [] |>.fieldOr "tag_ids" (·.tagIds) []
    |>.fieldOr "direct_use_route_ids" (·.directUseRouteIds) []
    |>.fieldOr "reconstruction_route_ids" (·.reconstructionRouteIds) []
    |>.fieldOr "consequence_evaluation_route_ids" (·.consequenceEvaluationRouteIds) []
    |>.fieldOr "reacquisition_route_ids" (·.reacquisitionRouteIds) [] |>.fieldOr "scaffold_ids" (·.scaffoldIds) []
    |>.fieldOr "recovery_protocol_ids" (·.recoveryProtocolIds) [] |>.field "provenance_refs" (·.provenanceRefs))
    (by intro package; exact dif_pos ⟨package.direct_use_canonical, package.reconstruction_canonical,
      package.consequence_canonical, package.reacquisition_canonical, package.scaffolds_canonical,
      package.protocols_canonical⟩)

instance : JsonModel RetentionRegistration :=
  .checked (Fields.of (fun package directUseRoutes reconstructionRoutes consequenceEvaluationRoutes
      reacquisitionRoutes scaffolds recoveryProtocols =>
      if valid : (directUseRoutes.map (·.id) = package.directUseRouteIds) ∧
        (reconstructionRoutes.map (·.id) = package.reconstructionRouteIds) ∧
        (consequenceEvaluationRoutes.map (·.id) = package.consequenceEvaluationRouteIds) ∧
        (reacquisitionRoutes.map (·.id) = package.reacquisitionRouteIds) ∧
        (scaffolds.map (·.id) = package.scaffoldIds) ∧ (recoveryProtocols.map (·.id) = package.recoveryProtocolIds) ∧
        (∀ route ∈ directUseRoutes, route.pins = package.pins) ∧
        (∀ route ∈ reconstructionRoutes, route.pins = package.pins) ∧
        (∀ route ∈ consequenceEvaluationRoutes, route.pins = package.pins) ∧
        (∀ route ∈ reacquisitionRoutes, route.pins = package.pins) ∧
        (∀ scaffold ∈ scaffolds, scaffold.pins = package.pins) ∧
        (∀ protocol ∈ recoveryProtocols, protocol.retentionPins = package.pins) then
        some ⟨package, directUseRoutes, reconstructionRoutes, consequenceEvaluationRoutes, reacquisitionRoutes,
          scaffolds, recoveryProtocols, valid.1, valid.2.1, valid.2.2.1, valid.2.2.2.1, valid.2.2.2.2.1,
          valid.2.2.2.2.2.1, valid.2.2.2.2.2.2.1, valid.2.2.2.2.2.2.2.1, valid.2.2.2.2.2.2.2.2.1,
          valid.2.2.2.2.2.2.2.2.2.1, valid.2.2.2.2.2.2.2.2.2.2.1, valid.2.2.2.2.2.2.2.2.2.2.2⟩
      else none)
    |>.literal "schema_version" (.int 1) |>.field "package" (·.package)
    |>.fieldOr "direct_use_routes" (·.directUseRoutes) []
    |>.fieldOr "reconstruction_routes" (·.reconstructionRoutes) []
    |>.fieldOr "consequence_evaluation_routes" (·.consequenceEvaluationRoutes) []
    |>.fieldOr "reacquisition_routes" (·.reacquisitionRoutes) [] |>.fieldOr "scaffolds" (·.scaffolds) []
    |>.fieldOr "recovery_protocols" (·.recoveryProtocols) [])
    (by intro registration; exact dif_pos ⟨registration.direct_use_matches, registration.reconstruction_matches,
      registration.consequence_matches, registration.reacquisition_matches, registration.scaffolds_match,
      registration.protocols_match, registration.direct_use_pinned, registration.reconstruction_pinned,
      registration.consequence_pinned, registration.reacquisition_pinned, registration.scaffolds_pinned,
      registration.protocols_pinned⟩)

instance : JsonModel RecoveryBranch := .enum [(.baseline, "baseline"), (.retained, "retained")]

instance : JsonModel ReacquisitionRequest :=
  .checked (Fields.of (fun id parentInquiryId childInquiryId branch pins childManifestArtifact
      childInquiryManifestArtifact childContextDigest childPolicyVersion retentionPackageId scaffoldId =>
      if valid : (parentInquiryId ≠ childInquiryId) ∧
        (branch = .baseline → retentionPackageId = none ∧ scaffoldId = none) ∧
        (branch = .retained → retentionPackageId.isSome ∧ scaffoldId.isSome) then
        some ⟨id, parentInquiryId, childInquiryId, branch, pins, childManifestArtifact, childInquiryManifestArtifact,
          childContextDigest, childPolicyVersion, retentionPackageId, scaffoldId, valid.1, valid.2.1, valid.2.2⟩
      else none)
    |>.literal "schema_version" (.int 1) |>.field "id" (·.id) |>.field "parent_inquiry_id" (·.parentInquiryId)
    |>.field "child_inquiry_id" (·.childInquiryId) |>.field "branch" (·.branch) |>.field "pins" (·.pins)
    |>.field "child_manifest_artifact" (·.childManifestArtifact)
    |>.field "child_inquiry_manifest_artifact" (·.childInquiryManifestArtifact)
    |>.field "child_context_digest" (·.childContextDigest) |>.field "child_policy_version" (·.childPolicyVersion)
    |>.optional "retention_package_id" (·.retentionPackageId) |>.optional "scaffold_id" (·.scaffoldId))
    (by intro request; exact dif_pos ⟨request.child_distinct, request.baseline_bare, request.retained_named⟩)

instance : JsonModel ReacquisitionInquiryLink :=
  .checked (Fields.of (fun id requestId parentInquiryId childInquiryId childStartEventId childStartEventDigest
      childPrefixSequence childPrefixDigest childManifestArtifact childContextDigest =>
      if valid : 0 < childPrefixSequence then
        some ⟨id, requestId, parentInquiryId, childInquiryId, childStartEventId, childStartEventDigest,
          childPrefixSequence, childPrefixDigest, childManifestArtifact, childContextDigest, valid⟩
      else none)
    |>.literal "schema_version" (.int 1) |>.literal "child_start_sequence" (.int 1) |>.field "id" (·.id)
    |>.field "request_id" (·.requestId) |>.field "parent_inquiry_id" (·.parentInquiryId)
    |>.field "child_inquiry_id" (·.childInquiryId) |>.field "child_start_event_id" (·.childStartEventId)
    |>.field "child_start_event_digest" (·.childStartEventDigest)
    |>.field "child_prefix_sequence" (·.childPrefixSequence) |>.field "child_prefix_digest" (·.childPrefixDigest)
    |>.field "child_manifest_artifact" (·.childManifestArtifact)
    |>.field "child_context_digest" (·.childContextDigest))
    (by intro link; exact dif_pos link.prefix_positive)

instance : JsonModel RecoveryObservation :=
  .checked (Fields.of (fun id branch reacquisitionRequestId childInquiryId childPrefixSequence childPrefixDigest
      retentionPackageId pins costs logicalProbeIds effectRequestIds measurementCheck competenceEstablished
      competenceCheck =>
      if valid : 0 < childPrefixSequence ∧ (costs.axisSignature = pins.budget.axisSignature) ∧
        (competenceEstablished = true → competenceCheck.isSome) then
        some ⟨id, branch, reacquisitionRequestId, childInquiryId, childPrefixSequence, childPrefixDigest,
          retentionPackageId, pins, costs, logicalProbeIds, effectRequestIds, measurementCheck,
          competenceEstablished, competenceCheck, valid.1, valid.2.1, valid.2.2⟩
      else none)
    |>.literal "schema_version" (.int 1) |>.field "id" (·.id) |>.field "branch" (·.branch)
    |>.field "reacquisition_request_id" (·.reacquisitionRequestId) |>.field "child_inquiry_id" (·.childInquiryId)
    |>.field "child_prefix_sequence" (·.childPrefixSequence) |>.field "child_prefix_digest" (·.childPrefixDigest)
    |>.nullable "retention_package_id" (·.retentionPackageId) |>.field "pins" (·.pins) |>.field "costs" (·.costs)
    |>.fieldOr "logical_probe_ids" (·.logicalProbeIds) [] |>.fieldOr "effect_request_ids" (·.effectRequestIds) []
    |>.field "measurement_check" (·.measurementCheck) |>.field "competence_established" (·.competenceEstablished)
    |>.optional "competence_check" (·.competenceCheck))
    (by intro observation; exact dif_pos ⟨observation.prefix_positive, observation.axes_match,
      observation.competence_checked⟩)

instance : JsonModel RecoveryFrontierPoint :=
  .record (Fields.of RecoveryFrontierPoint.mk |>.literal "schema_version" (.int 1)
    |>.field "observation_id" (·.observationId) |>.field "costs" (·.costs))

instance : JsonModel RecoveryFrontier :=
  .record (Fields.of RecoveryFrontier.mk |>.literal "schema_version" (.int 1) |>.field "branch" (·.branch)
    |>.field "pins" (·.pins) |>.field "source_observation_ids" (·.sourceObservationIds) |>.field "points" (·.points))

instance : JsonModel RecoveryComparisonOutcome :=
  .enum [(.strictAdvantage, "strict_advantage"), (.noAdvantage, "no_advantage"), (.incomparable, "incomparable")]

instance : JsonModel FrontierCoverage :=
  .record (Fields.of FrontierCoverage.mk |>.literal "schema_version" (.int 1)
    |>.field "baseline_observation_id" (·.baselineObservationId)
    |>.field "retained_observation_id" (·.retainedObservationId) |>.field "strict" (·.strict))

instance : JsonModel RecoveryComparison :=
  .record (Fields.of RecoveryComparison.mk |>.literal "schema_version" (.int 1)
    |>.literal "standing" (.text "provisional_soft") |>.field "id" (·.id)
    |>.field "baseline_frontier" (·.baselineFrontier) |>.field "retained_frontier" (·.retainedFrontier)
    |>.field "outcome" (·.outcome) |>.fieldOr "coverage" (·.coverage) []
    |>.field "comparison_check" (·.comparisonCheck))

instance : JsonModel ConsolidationSourceRole :=
  .enum [(.recentEpisode, "recent_episode"), (.olderException, "older_exception"),
    (.counterexample, "counterexample")]

instance : JsonModel ConsolidationStatus :=
  .enum [(.ready, "ready"), (.insufficientDiversity, "insufficient_diversity")]

instance : JsonModel ConsolidationPolicy :=
  .record (Fields.of ConsolidationPolicy.interleaveV1 |>.literal "schema_version" (.int 1)
    |>.literal "id" (.text "consolidation-interleave-v1") |>.literal "version" (.text "1")
    |>.literal "recent_limit" (.int 4) |>.literal "exception_limit" (.int 4)
    |>.literal "counterexample_limit" (.int 4) |>.literal "minimum_distinct_episodes" (.int 2))
    (by intro policy; cases policy; rfl)

instance : JsonModel ConsolidationSource :=
  .record (Fields.of ConsolidationSource.mk |>.literal "schema_version" (.int 1) |>.field "role" (·.role)
    |>.field "reference" (·.reference) |>.field "semantic_sequence" (·.semanticSequence))

instance : JsonModel ConsolidationCheckpoint :=
  .record (Fields.of ConsolidationCheckpoint.mk |>.literal "schema_version" (.int 1) |>.field "id" (·.id)
    |>.field "policy" (·.policy) |>.field "source_sequence" (·.sourceSequence)
    |>.field "source_index_fingerprint" (·.sourceIndexFingerprint) |>.field "scope_fingerprint" (·.scopeFingerprint)
    |>.field "binding_revision" (·.bindingRevision) |>.field "protected_horizon_id" (·.protectedHorizonId)
    |>.field "sources" (·.sources) |>.field "status" (·.status))

instance : JsonModel CandidateSupportBoundary :=
  .checked (Fields.of (fun scope applicabilityGuardId assumptionIds requiredDependencyIds
      openDependencyObligationIds =>
      if valid : CanonicalIds assumptionIds ∧ CanonicalIds requiredDependencyIds ∧
        CanonicalIds openDependencyObligationIds then
        some ⟨scope, applicabilityGuardId, assumptionIds, requiredDependencyIds, openDependencyObligationIds,
          valid.1, valid.2.1, valid.2.2⟩
      else none)
    |>.literal "schema_version" (.int 1) |>.field "scope" (·.scope)
    |>.field "applicability_guard_id" (·.applicabilityGuardId) |>.fieldOr "assumption_ids" (·.assumptionIds) []
    |>.fieldOr "required_dependency_ids" (·.requiredDependencyIds) []
    |>.fieldOr "open_dependency_obligation_ids" (·.openDependencyObligationIds) [])
    (by intro boundary; exact dif_pos ⟨boundary.assumptions_canonical, boundary.dependencies_canonical,
      boundary.open_canonical⟩)

instance : JsonModel ConsolidationCandidate :=
  .checked (Fields.of (fun id checkpointId generalizationClaimId boundary challengeObligationIds =>
      if valid : CanonicalIds challengeObligationIds ∧ (challengeObligationIds ≠ []) then
        some ⟨id, checkpointId, generalizationClaimId, boundary, challengeObligationIds, valid.1, valid.2⟩
      else none)
    |>.literal "schema_version" (.int 1) |>.literal "status" (.text "provisional") |>.field "id" (·.id)
    |>.field "checkpoint_id" (·.checkpointId) |>.field "generalization_claim_id" (·.generalizationClaimId)
    |>.field "boundary" (·.boundary) |>.field "challenge_obligation_ids" (·.challengeObligationIds))
    (by intro candidate; exact dif_pos ⟨candidate.challenges_canonical, candidate.challenged⟩)

instance : JsonModel MemoryPatchKind :=
  .enum [(.guardChange, "guard_change"), (.relationChange, "relation_change"), (.split, "split"), (.rebind, "rebind")]

def DependencyDispositionKind.text : DependencyDispositionKind → String
  | .transported => "transported"
  | .hardDischarged _ => "hard_discharged"

def DependencyDispositionKind.warrantDecisionId : DependencyDispositionKind → Option String
  | .transported => none
  | .hardDischarged warrantDecisionId => some warrantDecisionId

/-- Only a hard discharge carries a warrant decision. -/
instance : JsonModel DependencyDisposition :=
  .checked (Fields.of (fun dependencyId (kind : String) (warrantDecisionId : Option String) =>
      match warrantDecisionId with
      | some warrantDecisionId =>
        if kind = "hard_discharged" then some ⟨dependencyId, .hardDischarged warrantDecisionId⟩ else none
      | none => if kind = "transported" then some ⟨dependencyId, .transported⟩ else none)
    |>.field "dependency_id" (·.dependencyId) |>.field "kind" (·.kind.text)
    |>.optional "warrant_decision_id" (·.kind.warrantDecisionId))
    (by intro disposition; obtain ⟨dependencyId, kind⟩ := disposition; cases kind <;> rfl)

instance : JsonModel MemoryPatchCandidate :=
  .checked (Fields.of (fun id targetLemmaId triggeringMismatchId triggeringReturnId proposedClaimId patchKind
      predecessorSupportRouteIds dependencyDispositions challengeObligationIds scopeFingerprint =>
      if valid : CanonicalIds predecessorSupportRouteIds ∧ CanonicalIds challengeObligationIds ∧
        CanonicalIds (dependencyDispositions.map (·.dependencyId)) ∧
        (predecessorSupportRouteIds ≠ [] ∧ challengeObligationIds ≠ []) then
        some ⟨id, targetLemmaId, triggeringMismatchId, triggeringReturnId, proposedClaimId, patchKind,
          predecessorSupportRouteIds, dependencyDispositions, challengeObligationIds, scopeFingerprint, valid.1,
          valid.2.1, valid.2.2.1, valid.2.2.2⟩
      else none)
    |>.literal "schema_version" (.int 1) |>.literal "status" (.text "provisional") |>.field "id" (·.id)
    |>.field "target_lemma_id" (·.targetLemmaId) |>.field "triggering_mismatch_id" (·.triggeringMismatchId)
    |>.field "triggering_return_id" (·.triggeringReturnId) |>.field "proposed_claim_id" (·.proposedClaimId)
    |>.field "patch_kind" (·.patchKind) |>.field "predecessor_support_route_ids" (·.predecessorSupportRouteIds)
    |>.field "dependency_dispositions" (·.dependencyDispositions)
    |>.field "challenge_obligation_ids" (·.challengeObligationIds) |>.field "scope_fingerprint" (·.scopeFingerprint))
    (by intro candidate; exact dif_pos ⟨candidate.predecessors_canonical, candidate.challenges_canonical,
      candidate.dispositions_canonical, candidate.supported_and_challenged⟩)

instance : JsonModel ReconsolidationLink :=
  .record (Fields.of ReconsolidationLink.mk |>.literal "schema_version" (.int 1) |>.field "id" (·.id)
    |>.field "memory_patch_id" (·.memoryPatchId) |>.field "predecessor_lemma_id" (·.predecessorLemmaId)
    |>.field "successor_lemma_id" (·.successorLemmaId) |>.field "correction_id" (·.correctionId)
    |>.field "warrant_decision_id" (·.warrantDecisionId))

instance : JsonModel SemanticFieldPolicy :=
  .record (Fields.of SemanticFieldPolicy.conservativeQuestionV1 |>.literal "schema_version" (.int 1)
    |>.literal "id" (.text "conservative-question-field-v1") |>.literal "version" (.text "1")
    |>.literal "maximum_items" (.int 32))
    (by intro policy; cases policy; rfl)

instance : JsonModel SemanticFieldEvaluationStatus :=
  .enum [(.valid, "valid"), (.incomplete, "incomplete"), (.invalid, "invalid")]

instance : JsonModel SemanticFieldEvaluation :=
  .record (Fields.of SemanticFieldEvaluation.mk |>.literal "schema_version" (.int 1) |>.field "id" (·.id)
    |>.field "policy" (·.policy) |>.field "field_id" (·.fieldId) |>.field "field_fingerprint" (·.fieldFingerprint)
    |>.field "field" (·.field) |>.field "source_sequence" (·.sourceSequence)
    |>.field "source_index_fingerprint" (·.sourceIndexFingerprint) |>.field "probe_fingerprint" (·.probeFingerprint)
    |>.field "required_structure_ids" (·.requiredStructureIds)
    |>.field "included_structure_ids" (·.includedStructureIds)
    |>.field "overflow_structure_ids" (·.overflowStructureIds)
    |>.field "irrelevant_structure_ids" (·.irrelevantStructureIds) |>.field "status" (·.status))

instance : JsonModel RepresentationGapKind :=
  .enum [(.noSeparator, "no_separator"), (.bindingInadequate, "binding_inadequate"),
    (.probeBasisInadequate, "probe_basis_inadequate"), (.languageInadequate, "language_inadequate")]

instance : JsonModel RepresentationGap :=
  .checked (Fields.of (fun id obligationId stateOrClaimIds protectedConsequenceDifferenceId failedProbeFingerprints
      kind scopeFingerprint bindingRevision protectedHorizonId =>
      if valid : CanonicalIds stateOrClaimIds ∧ CanonicalIds failedProbeFingerprints ∧
        (failedProbeFingerprints ≠ []) then
        some ⟨id, obligationId, stateOrClaimIds, protectedConsequenceDifferenceId, failedProbeFingerprints, kind,
          scopeFingerprint, bindingRevision, protectedHorizonId, valid.1, valid.2.1, valid.2.2⟩
      else none)
    |>.literal "schema_version" (.int 1) |>.field "id" (·.id) |>.field "obligation_id" (·.obligationId)
    |>.field "state_or_claim_ids" (·.stateOrClaimIds)
    |>.field "protected_consequence_difference_id" (·.protectedConsequenceDifferenceId)
    |>.field "failed_probe_fingerprints" (·.failedProbeFingerprints) |>.field "kind" (·.kind)
    |>.field "scope_fingerprint" (·.scopeFingerprint) |>.field "binding_revision" (·.bindingRevision)
    |>.field "protected_horizon_id" (·.protectedHorizonId))
    (by intro gap; exact dif_pos ⟨gap.sources_canonical, gap.probes_canonical, gap.probe_failed⟩)

instance : JsonModel LearnedProbeCandidate :=
  .checked (Fields.of (fun id representationGapId probeIdentity generatedPayload challengeObligationIds =>
      if valid : (probeIdentity.questionContractKey = learnedProbeContractKey) ∧
        CanonicalIds challengeObligationIds ∧ (challengeObligationIds ≠ []) then
        some ⟨id, representationGapId, probeIdentity, generatedPayload, challengeObligationIds, valid.1, valid.2.1,
          valid.2.2⟩
      else none)
    |>.literal "schema_version" (.int 1) |>.literal "status" (.text "provisional") |>.field "id" (·.id)
    |>.field "representation_gap_id" (·.representationGapId) |>.field "probe_identity" (·.probeIdentity)
    |>.json "generated_payload" (·.generatedPayload) |>.field "challenge_obligation_ids" (·.challengeObligationIds))
    (by intro candidate; exact dif_pos ⟨candidate.contract_fixed, candidate.challenges_canonical,
      candidate.challenged⟩)

instance : JsonModel ProbeSample :=
  .record (Fields.of ProbeSample.mk |>.field "observation_id" (·.observationId)
    |>.field "protected_consequence_class_id" (·.protectedConsequenceClassId)
    |>.field "existing_basis_class_id" (·.existingBasisClassId) |>.field "candidate_value_id" (·.candidateValueId))

instance : JsonModel ProbeEvaluationProtocol :=
  .record (Fields.of ProbeEvaluationProtocol.finiteStratifiedHoldoutV1 |>.literal "schema_version" (.int 1)
    |>.literal "id" (.text "finite-stratified-holdout-v1") |>.literal "version" (.text "1")
    |>.literal "holdout_denominator" (.int 4))
    (by intro protocol; cases protocol; rfl)

instance : JsonModel ProbeEvaluation :=
  .record (Fields.of ProbeEvaluation.mk |>.literal "schema_version" (.int 1) |>.field "id" (·.id)
    |>.field "candidate_probe_id" (·.candidateProbeId) |>.field "protocol" (·.protocol)
    |>.field "sample_index_fingerprint" (·.sampleIndexFingerprint) |>.field "samples" (·.samples)
    |>.field "training_observation_ids" (·.trainingObservationIds)
    |>.field "holdout_observation_ids" (·.holdoutObservationIds)
    |>.field "training_discrimination_gain" (·.trainingDiscriminationGain)
    |>.field "holdout_discrimination_gain" (·.holdoutDiscriminationGain)
    |>.field "protected_error_count" (·.protectedErrorCount) |>.field "redundancy_check" (·.redundancyCheck)
    |>.field "protected_behavior_check" (·.protectedBehaviorCheck)
    |>.field "evaluation_proposition_id" (·.evaluationPropositionId))

instance : JsonModel ProbeAdmissionOutcome :=
  .enum [(.admitted, "admit"), (.reject, "reject"), (.inconclusive, "inconclusive")]

instance : JsonModel ProbeAdmissionDecision :=
  .record (Fields.of ProbeAdmissionDecision.mk |>.literal "schema_version" (.int 1)
    |>.literal "controller_policy_version" (.text "g2b-probe-admission-v1") |>.field "id" (·.id)
    |>.field "candidate_probe_id" (·.candidateProbeId) |>.field "evaluation_id" (·.evaluationId)
    |>.field "outcome" (·.outcome) |>.field "controller_id" (·.controllerId))

end RatchetingInquiry
