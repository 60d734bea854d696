import RatchetingInquiry.Core.Rebuild
import RatchetingInquiry.Invariants.Warrants

/-! Scope isolation. Every record is checked against the scope of the inquiry when it is recorded: directly,
through a record that it refers to, or through the validator of its model. The one record that is not
checked is the residual of a semantic field: it gets the scope that the context describes, and nothing
ties the fingerprint that the context pins to that scope. -/

namespace RatchetingInquiry

section
variable [Fingerprints]

structure ClaimRecords.Pinned (context : InquiryContext) (records : ClaimRecords) : Prop where
  claims : ∀ claim ∈ records.claims, scopeMatchesContext (some context) claim.scope = true
  conflicts : ∀ conflict ∈ records.conflicts, scopeMatchesContext (some context) conflict.scope = true
  obligations : ∀ obligation ∈ records.obligations, scopeMatchesContext (some context) obligation.scope = true
  candidates : ∀ candidate ∈ records.candidates, scopeMatchesContext (some context) candidate.scope = true
  corrections : ∀ correction ∈ records.corrections, scopeMatchesContext (some context) correction.scope = true
  guard_changes : ∀ change ∈ records.guardChanges, change.scopeFingerprint = context.scopeFingerprint

structure WarrantRecords.Pinned (context : InquiryContext) (records : WarrantRecords) : Prop where
  nogoods : ∀ nogood ∈ records.nogoods,
    nogood.scopeFingerprint = context.scopeFingerprint ∧ nogood.bindingRevision = context.bindingRevision
  evidence : ∀ evidence ∈ records.evidenceRecords, evidence.scopeFingerprint = context.scopeFingerprint
  verdicts : ∀ verdict ∈ records.checkerVerdicts, verdict.scopeFingerprint = context.scopeFingerprint
  decisions : ∀ decision ∈ records.warrantDecisions, decision.scopeFingerprint = context.scopeFingerprint
  versions : ∀ version ∈ records.lemmaVersions, scopeMatchesContext (some context) version.scope = true
  environments : ∀ support ∈ records.lemmaSupports, ∀ route ∈ support.allSupportRoutes,
    route.environment.scopeFingerprint = context.scopeFingerprint ∧
      route.environment.bindingRevision = context.bindingRevision

structure ProbeRecords.Pinned (context : InquiryContext) (records : ProbeRecords) : Prop where
  probes : ∀ probe ∈ records.admittedProbes,
    probe.scopeFingerprint = context.scopeFingerprint ∧ probe.bindingRevision = context.bindingRevision
  plans : ∀ plan ∈ records.cognitivePlans, plan.scopeFingerprint = context.scopeFingerprint
  predictions : ∀ prediction ∈ records.predictions, prediction.scopeFingerprint = context.scopeFingerprint
  mismatches : ∀ mismatch ∈ records.mismatches, mismatch.scopeFingerprint = context.scopeFingerprint

def RetentionRecords.Pinned (context : InquiryContext) (records : RetentionRecords) : Prop :=
  ∀ package ∈ records.retentionPackages,
    package.scopeFingerprint = context.scopeFingerprint ∧ package.bindingRevision = context.bindingRevision

structure RecoveryRecords.Pinned (context : InquiryContext) (records : RecoveryRecords) : Prop where
  requests : ∀ request ∈ records.reacquisitionRequests, request.pins.scopeFingerprint = context.scopeFingerprint
  observations : ∀ observation ∈ records.recoveryObservations,
    observation.pins.scopeFingerprint = context.scopeFingerprint

structure LearningRecords.Pinned (context : InquiryContext) (records : LearningRecords) : Prop where
  patches : ∀ patch ∈ records.memoryPatchCandidates, patch.scopeFingerprint = context.scopeFingerprint
  gaps : ∀ gap ∈ records.representationGaps, gap.scopeFingerprint = context.scopeFingerprint
  probes : ∀ candidate ∈ records.learnedProbeCandidates,
    candidate.probeIdentity.scopeFingerprint = context.scopeFingerprint ∧
      candidate.probeIdentity.bindingRevision = context.bindingRevision

def CompressionRecords.Pinned (context : InquiryContext) (records : CompressionRecords) : Prop :=
  ∀ contract ∈ records.compressionContracts, contract.scopeFingerprint = context.scopeFingerprint

/-- Every record but a residual is in the scope of the context. -/
structure ScopesPinned (state : InquiryState) (context : InquiryContext) : Prop where
  claims : state.toClaimRecords.Pinned context
  warrants : state.toWarrantRecords.Pinned context
  probes : state.toProbeRecords.Pinned context
  retention : state.toRetentionRecords.Pinned context
  recovery : state.toRecoveryRecords.Pinned context
  learning : state.toLearningRecords.Pinned context
  compression : state.toCompressionRecords.Pinned context

theorem scopeMatchesContext_pins {context : InquiryContext} {scope : Scope}
    (matching : scopeMatchesContext (some context) scope = true) :
    scope.fingerprint = context.scopeFingerprint ∧ scope.bindingRevision = context.bindingRevision := by
  simp only [scopeMatchesContext, Option.any_some, Bool.and_eq_true, decide_eq_true_eq] at matching
  obtain ⟨⟨⟨⟨⟨⟨-, fingerprint⟩, binding⟩, -⟩, -⟩, -⟩, -⟩ := matching
  exact ⟨fingerprint, binding⟩

/-- The context pins every field of a scope. -/
theorem scope_eq_of_matches {context : InquiryContext} {left right : Scope}
    (leftMatches : scopeMatchesContext (some context) left = true)
    (rightMatches : scopeMatchesContext (some context) right = true) : left = right := by
  simp only [scopeMatchesContext, Option.any_some, Bool.and_eq_true, decide_eq_true_eq] at leftMatches rightMatches
  obtain ⟨⟨⟨⟨⟨⟨leftId, -⟩, leftBinding⟩, leftAssumptions⟩, leftGuard⟩, leftUniverse⟩, leftClosed⟩ := leftMatches
  obtain ⟨⟨⟨⟨⟨⟨rightId, -⟩, rightBinding⟩, rightAssumptions⟩, rightGuard⟩, rightUniverse⟩, rightClosed⟩ := rightMatches
  cases left
  cases right
  simp_all

variable {state : InquiryState} {context : InquiryContext}

theorem structuralConflict_scope {left right : Claim} {conflict : Conflict}
    (related : structuralConflict left right = some conflict) : conflict.scope = left.scope := by
  unfold structuralConflict at related
  split at related
  next => simp at related
  next =>
    split at related
    next => simp at related
    next => rw [← Option.some.inj related]

theorem derivedConflicts_pinned {claim : Claim} (pinned : state.toClaimRecords.Pinned context) :
    ∀ conflict ∈ derivedConflicts state.toClaimRecords claim, scopeMatchesContext (some context) conflict.scope = true := by
  intro conflict derived
  simp only [derivedConflicts, List.mem_insertionSort] at derived
  obtain ⟨existing, recorded, related⟩ := List.mem_filterMap.mp (freshBy_subset derived)
  rw [structuralConflict_scope related]
  exact pinned.claims existing recorded

theorem mandatoryAttackObligation_scope {claim : Claim} {attack : Obligation}
    (attacks : mandatoryAttackObligation claim = some attack) : attack.scope = claim.scope := by
  unfold mandatoryAttackObligation at attacks
  split at attacks
  next => simp at attacks
  next =>
    split at attacks
    next => simp at attacks
    next => rw [← Option.some.inj attacks]

theorem derivedObligations_pinned {claim : Claim} (pinned : state.toClaimRecords.Pinned context)
    (matching : scopeMatchesContext (some context) claim.scope = true) :
    ∀ obligation ∈ derivedObligations state claim, scopeMatchesContext (some context) obligation.scope = true := by
  intro obligation derived
  simp only [derivedObligations, List.mem_insertionSort] at derived
  rcases List.mem_append.mp (freshBy_subset derived) with attack | conflicting
  · simp only [pendingAttack, Option.mem_toList] at attack
    split at attack
    next => simp at attack
    next =>
      rw [mandatoryAttackObligation_scope attack]
      exact matching
  · obtain ⟨conflict, derivedConflict, rfl⟩ := List.mem_map.mp conflicting
    exact derivedConflicts_pinned pinned conflict derivedConflict

theorem claims_pinned {event : ClaimEvent} (running : state.context = some context)
    (pinned : state.toClaimRecords.Pinned context) (lawful : decideClaim state event.command = .ok (some event)) :
    (state.toClaimRecords.apply event).Pinned context := by
  cases event with
  | claimAdmitted claim conflicts obligations =>
    have matching := (recordOnce_eq_some.mp lawful).2
    simp only [freshClaim, require_bind_eq_ok, running] at matching
    obtain ⟨-, rfl, rfl⟩ := ClaimEvent.claimAdmitted.inj (admitClaim_event lawful)
    exact { pinned with
      claims := List.forall_mem_append.mpr ⟨pinned.claims, List.forall_mem_singleton.mpr matching.2.1⟩
      conflicts := List.forall_mem_append.mpr ⟨pinned.conflicts, derivedConflicts_pinned pinned⟩
      obligations := List.forall_mem_append.mpr
        ⟨pinned.obligations, derivedObligations_pinned pinned matching.2.1⟩ }
  | obligationOpened obligation =>
    have matching : scopeMatchesContext state.context obligation.scope = true := by
      simp only [ClaimEvent.command, decideClaim, decideOpenObligation] at lawful
      split at lawful
      next => split at lawful <;> simp at lawful
      next =>
        split at lawful
        next => simp [pure, Except.pure] at lawful
        next =>
          simp only [require_bind_eq_ok] at lawful
          exact lawful.2.1
    rw [running] at matching
    exact { pinned with
      obligations := List.forall_mem_append.mpr ⟨pinned.obligations, List.forall_mem_singleton.mpr matching⟩ }
  | obligationDispositionRecorded disposition => exact { pinned with }
  | candidateRecorded candidate =>
    have matching := (recordOnce_eq_some.mp lawful).2
    simp only [freshCandidate, require_bind_eq_ok, running] at matching
    exact { pinned with
      candidates := List.forall_mem_append.mpr ⟨pinned.candidates, List.forall_mem_singleton.mpr matching.1⟩ }
  | residualRecorded residual => exact { pinned with }
  | correctionAppended correction =>
    have matching := (recordOnce_eq_some.mp lawful).2
    simp only [freshCorrection, require_bind_eq_ok, running] at matching
    exact { pinned with
      corrections := List.forall_mem_append.mpr ⟨pinned.corrections, List.forall_mem_singleton.mpr matching.1⟩ }
  | guardStandingChanged change =>
    have matching := (recordOnce_eq_some.mp lawful).2
    simp only [freshGuardChange, require_bind_eq_ok, running, Option.any_some, decide_eq_true_eq] at matching
    exact { pinned with
      guard_changes := List.forall_mem_append.mpr ⟨pinned.guard_changes, List.forall_mem_singleton.mpr matching.1⟩ }

theorem warrants_pinned {event : WarrantEvent} (running : state.context = some context)
    (pinned : state.toWarrantRecords.Pinned context) (lawful : decideWarrant state event.command = .ok (some event)) :
    (state.toWarrantRecords.apply event).Pinned context := by
  cases event with
  | nogoodRecorded nogood =>
    have judged := (recordOnce_eq_some.mp lawful).2
    simp only [freshNogood, found_bind_eq_ok, running, Option.filter_eq_some_iff, Nogood.inSupportClass,
      Bool.and_eq_true, decide_eq_true_eq, Option.some.injEq] at judged
    obtain ⟨_, ⟨rfl, ⟨⟨scope, binding⟩, -⟩, -⟩, -⟩ := judged
    exact { pinned with
      nogoods := List.forall_mem_append.mpr ⟨pinned.nogoods, List.forall_mem_singleton.mpr ⟨scope, binding⟩⟩ }
  | supportRouteStandingChanged change => exact { pinned with }
  | nogoodStandingChanged change => exact { pinned with }
  | evidenceRecorded evidence =>
    simp only [WarrantEvent.command, decideWarrant, decideRecordEvidence, require_bind_eq_ok, running,
      Option.any_some, decide_eq_true_eq] at lawful
    exact { pinned with
      evidence := List.forall_mem_append.mpr ⟨pinned.evidence, List.forall_mem_singleton.mpr lawful.1⟩ }
  | checkerVerdictRecorded verdict =>
    simp only [WarrantEvent.command, decideWarrant, decideRecordCheckerVerdict, found_bind_eq_ok, require_bind_eq_ok,
      CheckerVerdictRecord.pins, Bool.and_eq_true, decide_eq_true_eq] at lawful
    obtain ⟨evidence, hit, ⟨-, scope⟩, -⟩ := lawful
    -- the verdict has the scope of the evidence that it judges
    have judged := pinned.evidence evidence (List.mem_of_find?_eq_some hit)
    exact { pinned with
      verdicts := List.forall_mem_append.mpr ⟨pinned.verdicts, List.forall_mem_singleton.mpr (scope.trans judged)⟩ }
  | warrantDecisionRecorded scope decision =>
    simp only [WarrantEvent.command, decideWarrant, decideEvaluateWarrant, require_bind_eq_ok, found_bind_eq_ok,
      recordOnce_eq_some, Except.ok.injEq, WarrantEvent.warrantDecisionRecorded.injEq, true_and, running] at lawful
    obtain ⟨matching, evidence, -, verdict, -, -, pins, -, -, decided⟩ := lawful
    have inScope : decision.scopeFingerprint = context.scopeFingerprint := by
      rw [← decided]
      exact (scopeMatchesContext_pins matching).1
    exact { pinned with
      decisions := List.forall_mem_append.mpr ⟨pinned.decisions, List.forall_mem_singleton.mpr inScope⟩ }
  | lemmaPromoted version support link =>
    obtain ⟨pins, decision, evidence, verdict, passed, -, -⟩ := lemmaPromoted_lawful lawful
    have matching := passed.scope_matches
    rw [running] at matching
    have inScope := scopeMatchesContext_pins matching
    have environments : ∀ route ∈ support.allSupportRoutes,
        route.environment.scopeFingerprint = context.scopeFingerprint ∧
          route.environment.bindingRevision = context.bindingRevision := by
      intro route member
      obtain ⟨fingerprint, binding, -⟩ := passed.joined.routes_inside route member
      exact ⟨fingerprint.trans inScope.1, binding.trans inScope.2⟩
    exact { pinned with
      versions := List.forall_mem_append.mpr ⟨pinned.versions, List.forall_mem_singleton.mpr matching⟩
      environments := List.forall_mem_append.mpr ⟨pinned.environments, List.forall_mem_singleton.mpr environments⟩ }

/-- Plans, predictions and mismatches take their scope from the obligation at the end of their references. -/
theorem probes_pinned {event expected : ProbeDomainEvent} (running : state.context = some context)
    (pinned : ScopesPinned state context) (lawful : decideProbe state event.command = .ok (some expected)) :
    (state.toProbeRecords.apply event).Pinned context := by
  have probes := pinned.probes
  cases event with
  | probeAdmitted probe =>
    have judged := (recordOnce_eq_some.mp lawful).2
    simp only [freshProbe, require_bind_eq_ok, running, Option.any_some, Bool.and_eq_true, decide_eq_true_eq] at judged
    obtain ⟨-, ⟨⟨binding, -⟩, scope⟩, -⟩ := judged
    exact { probes with
      probes := List.forall_mem_append.mpr ⟨probes.probes, List.forall_mem_singleton.mpr ⟨scope, binding⟩⟩ }
  | cognitivePlanRecorded plan =>
    have judged := (recordOnce_eq_some.mp lawful).2
    simp only [freshCognitivePlan, found_bind_eq_ok, require_bind_eq_ok] at judged
    obtain ⟨obligation, hit, request, -, -, scope, -⟩ := judged
    have matching := pinned.claims.obligations obligation (List.mem_of_find?_eq_some hit)
    have inScope := scope.symm.trans (scopeMatchesContext_pins matching).1
    exact { probes with
      plans := List.forall_mem_append.mpr ⟨probes.plans, List.forall_mem_singleton.mpr inScope⟩ }
  | predictionSealed prediction =>
    have judged := (recordOnce_eq_some.mp lawful).2
    simp only [freshPrediction, found_bind_eq_ok, require_bind_eq_ok] at judged
    obtain ⟨plan, hit, ⟨-, scope⟩, -⟩ := judged
    have inScope := scope.trans (probes.plans plan (List.mem_of_find?_eq_some hit))
    exact { probes with
      predictions := List.forall_mem_append.mpr ⟨probes.predictions, List.forall_mem_singleton.mpr inScope⟩ }
  | mismatchRecorded mismatch =>
    have judged := (recordOnce_eq_some.mp lawful).2
    simp only [freshMismatch, found_bind_eq_ok, require_bind_eq_ok] at judged
    obtain ⟨prediction, hit, scope, -⟩ := judged
    have inScope := scope.trans (probes.predictions prediction (List.mem_of_find?_eq_some hit))
    exact { probes with
      mismatches := List.forall_mem_append.mpr ⟨probes.mismatches, List.forall_mem_singleton.mpr inScope⟩ }
  | probeObservationRecorded observation => exact { probes with }
  | reconstructionRecorded reconstruction => exact { probes with }
  | semanticDeltaCommitted delta => exact { probes with }

theorem retention_pinned {registration : RetentionRegistration} (running : state.context = some context)
    (pinned : state.toRetentionRecords.Pinned context)
    (lawful : decideMemory state (.registerRetentionPackage registration) =
      .ok (some (.retentionPackageRegistered registration))) :
    (state.toRetentionRecords.register registration).Pinned context := by
  simp only [decideMemory, decideRegisterRetentionPackage] at lawful
  split at lawful
  next => split at lawful <;> simp at lawful
  next =>
    simp only [require_bind_eq_ok, running, Option.any_some, decide_eq_true_eq, RetentionPackage.pins,
      Prod.mk.injEq] at lawful
    obtain ⟨⟨scope, binding, -⟩, -⟩ := lawful
    exact List.forall_mem_append.mpr ⟨pinned, List.forall_mem_singleton.mpr ⟨scope, binding⟩⟩

theorem reacquisition_pinned {request : ReacquisitionRequest} (running : state.context = some context)
    (lawful : decideMemory state (.requestReacquisition request) = .ok (some (.reacquisitionRequested request))) :
    request.pins.scopeFingerprint = context.scopeFingerprint := by
  have judged := (recordOnce_eq_some.mp lawful).2
  simp only [freshReacquisition, require_bind_eq_ok, found_bind_eq_ok, running, Option.filter_eq_some_iff,
    Option.some.injEq, RecoveryPins.inContext, Bool.and_eq_true, decide_eq_true_eq] at judged
  obtain ⟨-, _, ⟨rfl, -⟩, ⟨⟨⟨scope, -⟩, -⟩, -⟩, -⟩ := judged
  exact scope

theorem recoveryObservation_pinned {observation : RecoveryObservation} (pinned : state.toRecoveryRecords.Pinned context)
    (lawful : decideMemory state (.recordRecoveryObservation observation) =
      .ok (some (.recoveryObservationRecorded observation))) :
    observation.pins.scopeFingerprint = context.scopeFingerprint := by
  have judged := (recordOnce_eq_some.mp lawful).2
  simp only [freshRecoveryObservation, found_bind_eq_ok, require_bind_eq_ok, RecoveryObservation.agreesWith,
    Bool.and_eq_true, decide_eq_true_eq] at judged
  obtain ⟨request, hit, -, -, -, ⟨-, pins⟩, -⟩ := judged
  rw [pins]
  exact pinned.requests request (List.mem_of_find?_eq_some hit)

theorem learning_pinned {event expected : LearningEvent} (running : state.context = some context)
    (pinned : ScopesPinned state context) (lawful : decideLearning state event.command = .ok (some expected)) :
    (state.toLearningRecords.apply event).Pinned context := by
  have learning := pinned.learning
  cases event with
  | memoryPatchCandidateRecorded patch =>
    have judged := (recordOnce_eq_some.mp lawful).2
    simp only [freshMemoryPatch, found_bind_eq_ok, require_bind_eq_ok, Option.any_eq_true, decide_eq_true_eq] at judged
    obtain ⟨version, -, -, ⟨claim, hit, scope⟩, -⟩ := judged
    have matching := pinned.claims.claims claim (List.mem_of_find?_eq_some hit)
    have inScope := scope.symm.trans (scopeMatchesContext_pins matching).1
    exact { learning with
      patches := List.forall_mem_append.mpr ⟨learning.patches, List.forall_mem_singleton.mpr inScope⟩ }
  | representationGapRecorded gap =>
    have judged := (recordOnce_eq_some.mp lawful).2
    simp only [freshRepresentationGap, require_bind_eq_ok, running, Option.any_some, decide_eq_true_eq,
      InquiryContext.retentionPins, Prod.mk.injEq] at judged
    obtain ⟨⟨scope, -⟩, -⟩ := judged
    exact { learning with
      gaps := List.forall_mem_append.mpr ⟨learning.gaps, List.forall_mem_singleton.mpr scope⟩ }
  | learnedProbeCandidateRecorded candidate =>
    have judged := (recordOnce_eq_some.mp lawful).2
    simp only [freshLearnedProbeCandidate, require_bind_eq_ok, running, Option.any_some, decide_eq_true_eq,
      InquiryContext.retentionPins, Prod.mk.injEq] at judged
    obtain ⟨⟨-, scope, binding, -⟩, -⟩ := judged
    exact { learning with
      probes := List.forall_mem_append.mpr ⟨learning.probes, List.forall_mem_singleton.mpr ⟨scope, binding⟩⟩ }
  | _ => exact { learning with }

omit [Fingerprints] in
/-- An admitted learned probe is the one that an owned candidate describes. -/
theorem admittedProbe_pinned {decision : ProbeAdmissionDecision} (pinned : state.toLearningRecords.Pinned context) :
    ∀ probe ∈ (decision.admittedProbe state.toLearningRecords).toList,
      probe.scopeFingerprint = context.scopeFingerprint ∧ probe.bindingRevision = context.bindingRevision := by
  intro probe admitted
  simp only [ProbeAdmissionDecision.admittedProbe, Option.mem_toList] at admitted
  split at admitted
  next =>
    obtain ⟨candidate, hit, rfl⟩ := Option.map_eq_some_iff.mp admitted
    exact pinned.probes candidate (List.mem_of_find?_eq_some hit)
  next => simp at admitted

theorem compression_pinned {event : CompressionEvent} (running : state.context = some context)
    (pinned : state.toCompressionRecords.Pinned context)
    (lawful : decideCompression state event.command = .ok (some event)) :
    (state.toCompressionRecords.apply event).Pinned context := by
  cases event with
  | compressionContractRegistered contract =>
    have judged := (recordOnce_eq_some.mp lawful).2
    simp only [freshCompressionContract, found_bind_eq_ok, require_bind_eq_ok, running, Option.some.injEq,
      InquiryContext.retentionPins, Prod.mk.injEq] at judged
    obtain ⟨manifest, -, _, rfl, -, ⟨scope, -⟩, -⟩ := judged
    exact List.forall_mem_append.mpr ⟨pinned, List.forall_mem_singleton.mpr scope⟩
  | _ => exact pinned

theorem scopesPinned_started {head : EventMetadata} {manifestArtifact : ArtifactRef} {policyVersion : String}
    {pins : InquiryContext} : ScopesPinned (startedState head manifestArtifact policyVersion pins) context := by
  constructor
  · constructor <;> simp [startedState, initialState]
  · constructor <;> simp [startedState, initialState]
  · constructor <;> simp [startedState, initialState]
  · simp [RetentionRecords.Pinned, startedState, initialState]
  · constructor <;> simp [startedState, initialState]
  · constructor <;> simp [startedState, initialState]
  · simp [CompressionRecords.Pinned, startedState, initialState]

variable {before after : InquiryState}

/-- One command records nothing outside the scope of the context, residuals apart. -/
theorem scopesPinned_step {head : EventMetadata} {command : CommandBody} {body : EventBody}
    (running : before.context = some context) (pinned : ScopesPinned before context)
    (proposed : Proposed before head.inquiryId command body) (transition : Transition before head body after) :
    ScopesPinned after context := by
  cases transition with
  | started => exact scopesPinned_started
  | effect => exact { pinned with }
  | claim event =>
    cases proposed with
    | claim claimCommand _ _ lawful =>
      have rebuilt := decideClaim_command claimCommand _ lawful event rfl
      subst rebuilt
      exact { pinned with claims := claims_pinned running pinned.claims lawful }
  | warrant event _ lawful => exact { pinned with warrants := warrants_pinned running pinned.warrants lawful }
  | probe event _ _ lawful => exact { pinned with probes := probes_pinned running pinned lawful }
  | memory event _ lawful =>
    cases event with
    | retentionPackageRegistered registration =>
      exact { pinned with retention := retention_pinned running pinned.retention lawful }
    | reacquisitionRequested request =>
      have inScope := reacquisition_pinned running lawful
      exact { pinned with
        recovery := { pinned.recovery with
          requests := List.forall_mem_append.mpr
            ⟨pinned.recovery.requests, List.forall_mem_singleton.mpr inScope⟩ } }
    | recoveryObservationRecorded observation =>
      have inScope := recoveryObservation_pinned pinned.recovery lawful
      exact { pinned with
        recovery := { pinned.recovery with
          observations := List.forall_mem_append.mpr
            ⟨pinned.recovery.observations, List.forall_mem_singleton.mpr inScope⟩ } }
    | retrievalCompleted => exact { pinned with }
    | reacquisitionInquiryLinked link => exact { pinned with recovery := { pinned.recovery with } }
    | recoveryComparisonRecorded comparison => exact { pinned with recovery := { pinned.recovery with } }
  | learning event _ _ lawful =>
    have learning := learning_pinned running pinned lawful
    cases event with
    | semanticFieldEvaluationRecorded evaluation overflow =>
      exact { pinned with learning := learning, claims := { pinned.claims with } }
    | probeAdmissionDecisionRecorded decision =>
      exact { pinned with
        learning := learning
        probes := { pinned.probes with
          probes := List.forall_mem_append.mpr ⟨pinned.probes.probes, admittedProbe_pinned pinned.learning⟩ } }
    | _ => exact { pinned with learning := learning }
  | compression event _ lawful =>
    exact { pinned with compression := compression_pinned running pinned.compression lawful }
  | project => exact { pinned with }

/-- The pins of a running inquiry stay. -/
theorem context_step {head : EventMetadata} {body : EventBody} (transition : Transition before head body after)
    (replayed : Replayable before) (started : after.context = some context) :
    before.context = some context ∨ before = initialState := by
  rcases transition.headerView with ⟨unstarted, -⟩ | ⟨-, header⟩
  · exact .inr (replayed.unstarted_eq_initial unstarted)
  · left
    rw [← started, show after.context = after.toInquiryHeader.context from rfl, header]

theorem Reachable.scopesPinned (reached : Reachable state) (started : state.context = some context) :
    ScopesPinned state context := by
  induction reached with
  | refl => simp [initialState] at started
  | tail run step ih =>
    obtain ⟨command, applied⟩ := step
    rcases applyCommand_cases applied with rfl | ⟨body, decided, transition, -⟩
    · exact ih started
    · rcases context_step transition (Reachable.replayable run) started with running | rfl
      · exact scopesPinned_step running (ih running) (decideBody_proposed decided) transition
      · -- only a start leaves the initial state
        rcases transition.headerView with ⟨-, manifest, policy, pins, rfl⟩ | ⟨active, -⟩
        · exact scopesPinned_started
        · simp [InquiryState.isActive, initialState] at active

/-- A semantic field overflows only while the context pins the fingerprint of the scope that it describes. -/
def keepsScope (state : InquiryState) (command : DomainCommand) : Bool :=
  match command.body with
  | .learning (.recordSemanticFieldEvaluation evaluation _) => evaluation.overflowStructureIds = [] ||
      state.context.any (fun context => context.scope.fingerprint = context.scopeFingerprint)
  | _ => true

/-- Every residual is in the scope of the context. -/
def ResidualsPinned (state : InquiryState) (context : InquiryContext) : Prop :=
  ∀ residual ∈ state.residuals, residual.scope.fingerprint = context.scopeFingerprint

/-- The residual of a field that overflows has the scope that the context describes. -/
theorem overflow_pinned {evaluation : SemanticFieldEvaluation} {overflow : Option Residual} {event : LearningEvent}
    (running : before.context = some context)
    (consistent : evaluation.overflowStructureIds = [] ∨ context.scope.fingerprint = context.scopeFingerprint)
    (lawful : decideLearning before (.recordSemanticFieldEvaluation evaluation overflow) = .ok (some event)) :
    ∀ residual ∈ overflow.toList, residual.scope.fingerprint = context.scopeFingerprint := by
  have judged := (recordOnce_eq_some.mp lawful).2
  simp only [freshSemanticFieldEvaluation, require_bind_eq_ok] at judged
  obtain ⟨-, recomputed⟩ := judged
  rw [bind_eq_ok] at recomputed
  obtain ⟨expected, -, rest⟩ := recomputed
  simp only [require_bind_eq_ok, found_bind_eq_ok, running, Option.some.injEq] at rest
  obtain ⟨-, _, rfl, rfl, -⟩ := rest
  intro residual member
  simp only [semanticFieldOverflowResidual, Option.mem_toList] at member
  split at member
  next => simp at member
  next overflows =>
    rw [← Option.some.inj member]
    exact consistent.resolve_left overflows

theorem residualsPinned_step {head : EventMetadata} {command : CommandBody} {body : EventBody}
    (running : before.context = some context) (pinned : ResidualsPinned before context)
    (keeps : keepsScope before ⟨head, command⟩ = true)
    (proposed : Proposed before head.inquiryId command body) (transition : Transition before head body after) :
    ResidualsPinned after context := by
  cases transition with
  | started => simp [ResidualsPinned, startedState, initialState]
  | claim event _ _ lawful =>
    cases event with
    | residualRecorded residual =>
      have judged := (recordOnce_eq_some.mp lawful).2
      simp only [freshResidual, require_bind_eq_ok, running] at judged
      exact List.forall_mem_append.mpr
        ⟨pinned, List.forall_mem_singleton.mpr (scopeMatchesContext_pins judged.1).1⟩
    | _ => exact pinned
  | memory event => cases event <;> exact pinned
  | learning event _ _ lawful =>
    cases event with
    | semanticFieldEvaluationRecorded evaluation overflow =>
      have consistent : evaluation.overflowStructureIds = [] ∨
          context.scope.fingerprint = context.scopeFingerprint := by
        cases proposed with
        | learning learningCommand _ _ proposedLawful =>
          have rebuilt := decideLearning_command learningCommand _ proposedLawful _ rfl
          subst rebuilt
          simpa [keepsScope, LearningEvent.command, running] using keeps
      exact List.forall_mem_append.mpr ⟨pinned, overflow_pinned running consistent lawful⟩
    | _ => exact pinned
  | _ => exact pinned

/-- Every record carries the scope fingerprint of the context, and those that pin a binding its revision. -/
structure ScopesIsolated (state : InquiryState) (context : InquiryContext) : Prop where
  claims : ∀ claim ∈ state.claims, claim.scope.fingerprint = context.scopeFingerprint
  conflicts : ∀ conflict ∈ state.conflicts, conflict.scope.fingerprint = context.scopeFingerprint
  obligations : ∀ obligation ∈ state.obligations, obligation.scope.fingerprint = context.scopeFingerprint ∧
    obligation.bindingRevision = context.bindingRevision
  candidates : ∀ candidate ∈ state.candidates, candidate.scope.fingerprint = context.scopeFingerprint
  residuals : ∀ residual ∈ state.residuals, residual.scope.fingerprint = context.scopeFingerprint
  corrections : ∀ correction ∈ state.corrections, correction.scope.fingerprint = context.scopeFingerprint
  guard_changes : ∀ change ∈ state.guardChanges, change.scopeFingerprint = context.scopeFingerprint
  nogoods : ∀ nogood ∈ state.nogoods, nogood.scopeFingerprint = context.scopeFingerprint ∧
    nogood.bindingRevision = context.bindingRevision
  evidence : ∀ evidence ∈ state.evidenceRecords, evidence.scopeFingerprint = context.scopeFingerprint
  verdicts : ∀ verdict ∈ state.checkerVerdicts, verdict.scopeFingerprint = context.scopeFingerprint
  decisions : ∀ decision ∈ state.warrantDecisions, decision.scopeFingerprint = context.scopeFingerprint
  versions : ∀ version ∈ state.lemmaVersions, version.scope.fingerprint = context.scopeFingerprint
  environments : ∀ support ∈ state.lemmaSupports, ∀ route ∈ support.allSupportRoutes,
    route.environment.scopeFingerprint = context.scopeFingerprint ∧
      route.environment.bindingRevision = context.bindingRevision
  probes : ∀ probe ∈ state.admittedProbes, probe.scopeFingerprint = context.scopeFingerprint ∧
    probe.bindingRevision = context.bindingRevision
  plans : ∀ plan ∈ state.cognitivePlans, plan.scopeFingerprint = context.scopeFingerprint
  predictions : ∀ prediction ∈ state.predictions, prediction.scopeFingerprint = context.scopeFingerprint
  mismatches : ∀ mismatch ∈ state.mismatches, mismatch.scopeFingerprint = context.scopeFingerprint
  patches : ∀ patch ∈ state.memoryPatchCandidates, patch.scopeFingerprint = context.scopeFingerprint
  gaps : ∀ gap ∈ state.representationGaps, gap.scopeFingerprint = context.scopeFingerprint
  learned_probes : ∀ candidate ∈ state.learnedProbeCandidates,
    candidate.probeIdentity.scopeFingerprint = context.scopeFingerprint
  packages : ∀ package ∈ state.retentionPackages, package.scopeFingerprint = context.scopeFingerprint ∧
    package.bindingRevision = context.bindingRevision
  requests : ∀ request ∈ state.reacquisitionRequests, request.pins.scopeFingerprint = context.scopeFingerprint
  observations : ∀ observation ∈ state.recoveryObservations,
    observation.pins.scopeFingerprint = context.scopeFingerprint
  contracts : ∀ contract ∈ state.compressionContracts, contract.scopeFingerprint = context.scopeFingerprint

theorem ScopesPinned.isolated (pinned : ScopesPinned state context) (residuals : ResidualsPinned state context) :
    ScopesIsolated state context where
  claims claim member := (scopeMatchesContext_pins (pinned.claims.claims claim member)).1
  conflicts conflict member := (scopeMatchesContext_pins (pinned.claims.conflicts conflict member)).1
  obligations obligation member := by
    obtain ⟨fingerprint, binding⟩ := scopeMatchesContext_pins (pinned.claims.obligations obligation member)
    exact ⟨fingerprint, obligation.binding_matches_scope.trans binding⟩
  candidates candidate member := (scopeMatchesContext_pins (pinned.claims.candidates candidate member)).1
  residuals := residuals
  corrections correction member := (scopeMatchesContext_pins (pinned.claims.corrections correction member)).1
  guard_changes := pinned.claims.guard_changes
  nogoods := pinned.warrants.nogoods
  evidence := pinned.warrants.evidence
  verdicts := pinned.warrants.verdicts
  decisions := pinned.warrants.decisions
  versions version member := (scopeMatchesContext_pins (pinned.warrants.versions version member)).1
  environments := pinned.warrants.environments
  probes := pinned.probes.probes
  plans := pinned.probes.plans
  predictions := pinned.probes.predictions
  mismatches := pinned.probes.mismatches
  patches := pinned.learning.patches
  gaps := pinned.learning.gaps
  learned_probes candidate member := (pinned.learning.probes candidate member).1
  packages := pinned.retention
  requests := pinned.recovery.requests
  observations := pinned.recovery.observations
  contracts := pinned.compression

theorem ReachableUnder.residualsPinned (reached : ReachableUnder (fun state command => keepsScope state command) state)
    (started : state.context = some context) : ResidualsPinned state context := by
  induction reached with
  | refl => simp [initialState] at started
  | tail run step ih =>
    obtain ⟨command, keeps, applied⟩ := step
    rcases applyCommand_cases applied with rfl | ⟨body, decided, transition, -⟩
    · exact ih started
    · rcases context_step transition (ReachableUnder.reachable run).replayable started with running | rfl
      · exact residualsPinned_step running (ih running) keeps (decideBody_proposed decided) transition
      · rcases transition.headerView with ⟨-, manifest, policy, pins, rfl⟩ | ⟨active, -⟩
        · simp [ResidualsPinned, startedState, initialState]
        · simp [InquiryState.isActive, initialState] at active

/-- Scopes are isolated in every run in which a semantic field overflows only under a consistent context. -/
theorem scopes_isolated (reached : ReachableUnder (fun state command => keepsScope state command) state)
    (started : state.context = some context) : ScopesIsolated state context :=
  (reached.reachable.scopesPinned started).isolated (reached.residualsPinned started)

end

namespace Worked

/-- A semantic field that leaves one structure out. -/
def overflowing : SemanticFieldEvaluation where
  id := "evaluation"
  policy := .conservativeQuestionV1
  fieldId := "field"
  fieldFingerprint := "other"
  field := { id := "field", probeFingerprint := "probe", protectedHorizonId := "horizon", items := [] }
  sourceSequence := 1
  sourceIndexFingerprint := "index"
  probeFingerprint := "probe"
  requiredStructureIds := []
  includedStructureIds := []
  overflowStructureIds := ["structure"]
  irrelevantStructureIds := []
  status := .incomplete

/-- Evaluate the field right after an inquiry started under the given pins. -/
def overflow (pins : InquiryContext) : List CommandBody := [
  .startInquiry (artifact "manifest") "policy" pins,
  .learning (.recordSemanticFieldEvaluation overflowing (semanticFieldOverflowResidual overflowing pins.scope))]

theorem overflow_isolated : (reachedUnder keepsScope (overflow context)).residuals.length = 1 ∧
    ScopesIsolated (reachedUnder keepsScope (overflow context)) context := by
  have started : (reachedUnder keepsScope (overflow context)).context = some context := by decide +kernel
  exact ⟨by decide +kernel, scopes_isolated (reachableUnder_reachedUnder keepsScope (overflow context)) started⟩

/-- A context whose scope fingerprint is not that of its scope. -/
def inconsistent : InquiryContext := { context with scopeFingerprint := "another scope" }

theorem overflow_not_isolated : ¬ ∀ state context, Reachable state → state.context = some context →
    ScopesIsolated state context := by
  intro claimed
  have started : (reached (overflow inconsistent)).context = some inconsistent := by decide +kernel
  have isolated := claimed _ _ (reachable_reached (overflow inconsistent)) started
  have outside : ∃ residual ∈ (reached (overflow inconsistent)).residuals,
      residual.scope.fingerprint ≠ inconsistent.scopeFingerprint := by decide +kernel
  obtain ⟨residual, recorded, different⟩ := outside
  exact different (isolated.residuals residual recorded)

end Worked

end RatchetingInquiry
