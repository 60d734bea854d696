import RatchetingInquiry.Invariants.EventCodec
import RatchetingInquiry.Invariants.Merges
import RatchetingInquiry.Invariants.Retrieval
import RatchetingInquiry.Library.Failing
import RatchetingInquiry.Serialization.Spelling

/-! A record command is judged by the identity of what it carries: an owned record is repeated or contradicted. Both
are decided by the source's equality of records, although what is stored, hashed and exported is their canonical
encoding. -/

namespace RatchetingInquiry

/-- A record that a command carries and the owned record with its identity, both as they are written. -/
structure Carried where
  record : JsonValue
  owned : Option JsonValue

def carriedIn {α : Type} [Encoded α] (owned : Option α) (record : α) : Carried :=
  ⟨Encoded.encode record, owned.map Encoded.encode⟩

/-- The failure is not a conflict of identities. -/
def Failure.isNoConflict : Failure → Prop
  | .identityConflict _ => False
  | _ => True

/-- Everything that the command carries is owned as it is written. -/
def repeated (carried : List Carried) : Bool :=
  !carried.isEmpty && carried.all (fun item => item.owned = some item.record)

/-- Some identity that the command carries is owned by a record that is written differently. -/
def contradicted (carried : List Carried) : Bool :=
  carried.any (fun item => item.owned.any (fun prior => prior ≠ item.record))

/-- A repetition adds nothing and a contradiction is refused as one. -/
def Binds {β : Type} (carried : List Carried) (outcome : Except Failure (Option β)) : Prop :=
  (repeated carried → outcome = .ok none) ∧
    (contradicted carried → ∃ reason, outcome = .error (.identityConflict reason))

/-- The command owes nothing to what is owned. -/
def idle (carried : List Carried) : Bool := !repeated carried && !contradicted carried

section
variable {β : Type}

theorem binds_of_idle {carried : List Carried} {outcome : Except Failure (Option β)} (free : idle carried = true) :
    Binds carried outcome := by
  simp only [idle, Bool.and_eq_true, Bool.not_eq_true'] at free
  constructor
  · intro again
    simp [free.1] at again
  · intro against
    simp [free.2] at against

/-- Where nothing was owed, every condition on the comparison may be left out. -/
theorem binds_judged {carried : List Carried} {outcome : Except Failure (Option β)} {told : Prop}
    (judged : Binds carried outcome ↔ told) : Binds carried outcome ↔ idle carried = true ∨ told := by
  rw [judged]
  refine ⟨.inr, fun either => ?_⟩
  rcases either with free | told
  · exact judged.mp (binds_of_idle free)
  · exact told

theorem binds_again {carried : List Carried} :
    Binds carried (.ok none : Except Failure (Option β)) ↔ contradicted carried = false := by
  simp [Binds]

theorem binds_conflict {carried : List Carried} {reason : String} :
    Binds carried (.error (.identityConflict reason) : Except Failure (Option β)) ↔ repeated carried = false := by
  simp [Binds]

/-- An outcome that is neither a repetition nor a conflict is right only where nothing was owed. -/
theorem binds_other {carried : List Carried} {outcome : Except Failure (Option β)} (new : outcome ≠ .ok none)
    (other : FailsWith Failure.isNoConflict outcome) : Binds carried outcome ↔ idle carried = true := by
  refine ⟨fun binds => ?_, binds_of_idle⟩
  simp only [idle, Bool.and_eq_true, Bool.not_eq_true']
  constructor
  · rw [Bool.eq_false_iff]
    exact fun again => new (binds.1 again)
  · rw [Bool.eq_false_iff]
    intro against
    obtain ⟨reason, conflict⟩ := binds.2 against
    exact other _ conflict

/-- A guard in front of the comparison has to hold whenever something is owned. -/
theorem binds_require {carried : List Carried} {p : Prop} [Decidable p] {failure : Failure}
    {next : Unit → Except Failure (Option β)} (other : failure.isNoConflict) :
    Binds carried (require p failure >>= next) ↔ idle carried = true ∨ (p ∧ Binds carried (next ())) := by
  by_cases holds : p
  · have passed : (require p failure >>= next) = next () := by simp [require, holds, bind, Except.bind]
    rw [passed]
    constructor
    · exact fun binds => .inr ⟨holds, binds⟩
    · intro either
      rcases either with free | binds
      · exact binds_of_idle free
      · exact binds.2
  · have failed : (require p failure >>= next) = .error failure := by simp [require, holds, bind, Except.bind]
    rw [failed, binds_other (by simp) (failsWith_error.mpr other)]
    simp [holds]

theorem binds_found {γ : Type} {carried : List Carried} {lookup : Option γ} {failure : Failure}
    {next : γ → Except Failure (Option β)} (other : failure.isNoConflict) :
    Binds carried (found lookup failure >>= next) ↔
      idle carried = true ∨ ∃ value, lookup = some value ∧ Binds carried (next value) := by
  cases lookup with
  | some value =>
    have passed : (found (some value) failure >>= next) = next value := rfl
    rw [passed]
    constructor
    · exact fun binds => .inr ⟨value, rfl, binds⟩
    · intro either
      rcases either with free | binds
      · exact binds_of_idle free
      · obtain ⟨same, hit, binds⟩ := binds
        cases hit
        exact binds
  | none =>
    have failed : (found none failure >>= next) = .error failure := rfl
    rw [failed, binds_other (by simp) (failsWith_error.mpr other)]
    simp

/-- Wrapping the event of an outcome changes nothing about it. -/
theorem binds_map {γ : Type} {carried : List Carried} {outcome : Except Failure (Option β)} (wrap : β → γ) :
    Binds carried (do return (← outcome).map wrap : Except Failure (Option γ)) ↔ Binds carried outcome := by
  cases outcome with
  | error failure => simp [Binds, bind, Except.bind]
  | ok event => simp [Binds, bind, Except.bind, pure, Except.pure]

end

section
variable {α β : Type} [DecidableEq α] [RecordEq α] [Encoded α] [CarriesJson α]

/-- The owned record is told apart from the carried one, or found to be the same, as it is by its encoding. -/
def toldApart (owned : Option α) (record : α) : Bool :=
  owned.all (fun prior => !respells prior record && !disguises prior record)

theorem binds_recordOnce {owned : Option α} {record : α} {reused : String} {fresh : Except Failure β} :
    Binds [carriedIn owned record] (recordOnce owned record reused fresh) ↔ toldApart owned record = true := by
  cases owned with
  | none =>
    refine iff_of_true (binds_of_idle ?_) rfl
    simp [idle, repeated, contradicted, carriedIn]
  | some prior =>
    have agree := same_iff_encode_iff prior record
    simp only [toldApart, Option.all_some, Bool.and_eq_true, Bool.not_eq_true']
    rw [← agree]
    simp only [Binds, repeated, contradicted, carriedIn, recordOnce, Option.map_some, List.all_cons, List.all_nil,
      List.any_cons, List.any_nil, Option.any_some, List.isEmpty_cons, Bool.not_false, Bool.true_and, Bool.and_true,
      Bool.or_false, decide_eq_true_eq, Option.some.injEq]
    by_cases written : Encoded.encode prior = Encoded.encode record
    · cases RecordEq.same prior record <;> simp [written]
    · cases RecordEq.same prior record <;> simp [written]

end

/-- Records without JSON are always told apart. -/
theorem toldApart_plain {α : Type} [DecidableEq α] [JsonModel α] (owned : Option α) (record : α) :
    toldApart owned record = true := by
  cases owned with
  | none => rfl
  | some prior => simp [toldApart, respells, disguises, CarriesJson.places, same_nil]

theorem binds_plain {α β : Type} [DecidableEq α] [JsonModel α] {owned : Option α} {record : α} {reused : String}
    {fresh : Except Failure β} : Binds [carriedIn owned record] (recordOnce owned record reused fresh) :=
  binds_recordOnce.mpr (toldApart_plain owned record)

section
variable [Pydantic]

/-- The records that a command accepts by their identity. The start and the outcome of an attempt, the acceptance of
a result, a warrant evaluation and a promotion carry no such record. -/
def EffectCommand.carried (effects : EffectRecords) : EffectCommand → List Carried
  | .recordBacklogEffect effect => [carriedIn (effects.backlogEffectById effect.id) effect]
  | .recordStepPlan plan => [carriedIn (effects.stepPlanById plan.id) plan]
  | .requestEffect request => [carriedIn ((effects.requestById request.id).map (·.request)) request]
  | .planEffectAttempt plan =>
    [carriedIn ((effects.attempts.find? (fun attempt => attempt.plan.id = plan.id)).map (·.plan)) plan]
  | .recordNoAttemptDisposition disposition =>
    [carriedIn ((effects.effectRequests.flatMap (·.noAttemptDispositions)).find? (fun item =>
      item.id = disposition.id)) disposition]
  | .recordDecodeOutcome _ outcome => [carriedIn (effects.decodeOutcomes.find? (fun item => item.id = outcome.id)) outcome]
  | .startEffectAttempt _ | .recordAttemptOutcome _ _ | .acceptEffectResult _ _ => []

def ClaimCommand.carried (records : ClaimRecords) : ClaimCommand → List Carried
  | .admitClaim claim => [carriedIn (records.claimById claim.id) claim]
  | .openObligation obligation => [carriedIn (records.obligationById obligation.id) obligation]
  | .recordObligationDisposition disposition =>
    [carriedIn (records.obligationDispositions.find? (fun item => item.id = disposition.id)) disposition]
  | .recordCandidate candidate =>
    [carriedIn (records.candidates.find? (fun item => item.id = candidate.id)) candidate]
  | .recordResidual residual => [carriedIn (records.residuals.find? (fun item => item.id = residual.id)) residual]
  | .appendCorrection correction =>
    [carriedIn (records.corrections.find? (fun item => item.id = correction.id)) correction]
  | .changeGuardStanding change => [carriedIn (records.guardChanges.find? (fun item => item.id = change.id)) change]

def WarrantCommand.carried (warrants : WarrantRecords) : WarrantCommand → List Carried
  | .recordNogood nogood => [carriedIn (warrants.nogoodById nogood.id) nogood]
  | .changeSupportRouteStanding change =>
    [carriedIn (warrants.supportRouteStandingChanges.find? (fun item => item.id = change.id)) change]
  | .changeNogoodStanding change =>
    [carriedIn (warrants.nogoodStandingChanges.find? (fun item => item.id = change.id)) change]
  | .recordEvidence evidence => [carriedIn (warrants.evidenceById evidence.id) evidence]
  | .recordCheckerVerdict verdict => [carriedIn (warrants.checkerVerdictById verdict.id) verdict]
  | .evaluateWarrant _ | .promoteClaim _ => []

/-- A probe is identified by its fingerprint. -/
def ProbeCommand.carried [Fingerprints] (probes : ProbeRecords) : ProbeCommand → List Carried
  | .admitProbe probe =>
    [carriedIn (probes.admittedProbes.find? (fun item => item.fingerprint = probe.fingerprint)) probe]
  | .recordCognitivePlan plan => [carriedIn (probes.cognitivePlanById plan.id) plan]
  | .sealPrediction prediction =>
    [carriedIn (probes.predictions.find? (fun item => item.id = prediction.id)) prediction]
  | .recordProbeObservation observation =>
    [carriedIn (probes.probeObservations.find? (fun item => item.id = observation.id)) observation]
  | .recordReconstruction reconstruction =>
    [carriedIn (probes.reconstructions.find? (fun item => item.id = reconstruction.id)) reconstruction]
  | .recordMismatch mismatch => [carriedIn (probes.mismatches.find? (fun item => item.id = mismatch.id)) mismatch]
  | .commitSemanticDelta delta => [carriedIn (probes.semanticDeltas.find? (fun item => item.id = delta.id)) delta]

end

/-- Records that are carried in a list, each with the owned one of its identity. -/
def carriedAll {α : Type} [Encoded α] (identity : α → String) (owned records : List α) : List Carried :=
  records.map (fun record => carriedIn (owned.find? (fun item => identity item = identity record)) record)

/-- The routes, scaffolds and protocols that a package is registered with. -/
def RetentionRegistration.carried (retention : RetentionRecords) (registration : RetentionRegistration) :
    List Carried :=
  carriedAll (·.id) retention.directUseRoutes registration.directUseRoutes ++
    carriedAll (·.id) retention.reconstructionRoutes registration.reconstructionRoutes ++
    carriedAll (·.id) retention.consequenceEvaluationRoutes registration.consequenceEvaluationRoutes ++
    carriedAll (·.id) retention.reacquisitionRoutes registration.reacquisitionRoutes ++
    carriedAll (·.id) retention.reacquisitionScaffolds registration.scaffolds ++
    carriedAll (·.id) retention.recoveryProtocols registration.recoveryProtocols

/-- A retrieval carries its query, and with the result identity the query that the result is of. -/
def MemoryCommand.carried (state : InquiryState) : MemoryCommand → List Carried
  | .registerRetentionPackage registration =>
    carriedIn (state.retentionPackages.find? (fun item => item.id = registration.package.id)) registration.package ::
      registration.carried state.toRetentionRecords
  | .runRetrieval resultId query =>
    [carriedIn (state.retrievalQueries.find? (fun item => item.id = query.id)) query,
      carriedIn ((state.retrievalResults.find? (fun item => item.id = resultId)).map (·.queryId)) query.id]
  | .requestReacquisition request =>
    [carriedIn (state.reacquisitionRequests.find? (fun item => item.id = request.id)) request]
  | .linkReacquisitionInquiry link =>
    [carriedIn (state.reacquisitionInquiryLinks.find? (fun item => item.id = link.id)) link]
  | .recordRecoveryObservation observation =>
    [carriedIn (state.recoveryObservations.find? (fun item => item.id = observation.id)) observation]
  | .recordRecoveryComparison comparison =>
    [carriedIn (state.recoveryComparisons.find? (fun item => item.id = comparison.id)) comparison]

def LearningCommand.carried [Pydantic] (state : InquiryState) : LearningCommand → List Carried
  | .recordConsolidationCheckpoint checkpoint =>
    [carriedIn (state.consolidationCheckpoints.find? (fun item => item.id = checkpoint.id)) checkpoint]
  | .recordConsolidationCandidate candidate =>
    [carriedIn (state.consolidationCandidates.find? (fun item => item.id = candidate.id)) candidate]
  | .recordMemoryPatchCandidate patch =>
    [carriedIn (state.memoryPatchCandidates.find? (fun item => item.id = patch.id)) patch]
  | .recordReconsolidationLink link =>
    [carriedIn (state.reconsolidationLinks.find? (fun item => item.id = link.id)) link]
  | .recordSemanticFieldEvaluation evaluation overflowResidual =>
    carriedIn (state.semanticFieldEvaluations.find? (fun item => item.id = evaluation.id)) evaluation ::
      carriedAll (·.id) state.residuals overflowResidual.toList
  | .recordRepresentationGap gap => [carriedIn (state.representationGaps.find? (fun item => item.id = gap.id)) gap]
  | .recordLearnedProbeCandidate candidate =>
    [carriedIn (state.learnedProbeCandidates.find? (fun item => item.id = candidate.id)) candidate]
  | .recordProbeEvaluation evaluation =>
    [carriedIn (state.probeEvaluations.find? (fun item => item.id = evaluation.id)) evaluation]
  | .recordProbeAdmissionDecision decision =>
    [carriedIn (state.probeAdmissionDecisions.find? (fun item => item.id = decision.id)) decision]

def CompressionCommand.carried (records : CompressionRecords) : CompressionCommand → List Carried
  | .registerBindingCarrierManifest manifest => [carriedIn (records.manifestById manifest.id) manifest]
  | .recordRealizedHistoryDerivation derivation => [carriedIn (records.derivationById derivation.id) derivation]
  | .registerCompressionContract contract => [carriedIn (records.contractById contract.id) contract]
  | .recordCompressionValidation validation => [carriedIn (records.validationById validation.id) validation]
  | .grantExactCompressionLicense license => [carriedIn (records.licenseById license.id) license]
  | .recordCompressionApplication application residues =>
    carriedIn (records.applicationById application.id) application :: carriedAll (·.id) records.pathResidues residues
  | .grantRecoveryLicense license => [carriedIn (records.recoveryLicenseById license.id) license]
  | .linkRetentionCapability link =>
    [carriedIn (records.retentionCapabilityLinks.find? (fun item => item.id = link.id)) link]
  | .decideRepresentationSuccessor decision =>
    [carriedIn (records.representationSuccessorDecisions.find? (fun item => item.id = decision.id)) decision]
  | .reopenRepresentation reopening =>
    [carriedIn (records.representationReopenings.find? (fun item => item.id = reopening.id)) reopening]

def ProjectCommand.carried (records : ProjectRecords) : ProjectCommand → List Carried
  | .recordProjectAnchor anchor => [carriedIn (records.anchorById anchor.id) anchor]
  | .recordCapabilityLimitation limitation => [carriedIn (records.limitationById limitation.id) limitation]
  | .recordQuestionContractCandidate candidate => [carriedIn (records.questionCandidateById candidate.id) candidate]
  | .decideQuestionRepertoire decision =>
    [carriedIn (records.questionRepertoireDecisions.find? (fun item => item.id = decision.id)) decision]
  | .recordMethodBindingCandidate candidate => [carriedIn (records.methodCandidateById candidate.id) candidate]
  | .decideMethodAdmission decision =>
    [carriedIn (records.methodAdmissionDecisions.find? (fun item => item.id = decision.id)) decision]
  | .recordCapabilitySuccessorCandidate candidate =>
    [carriedIn (records.successorCandidateById candidate.id) candidate]
  | .recordCapabilityFrontier frontier => [carriedIn (records.frontierById frontier.id) frontier]
  | .recordImplementationGoalCandidate candidate => [carriedIn (records.goalCandidateById candidate.id) candidate]
  | .decideGoalAdmission decision =>
    [carriedIn (records.goalAdmissionDecisions.find? (fun item => item.id = decision.id)) decision]
  | .sealImplementationGoal goal => [carriedIn (records.goalById goal.id) goal]
  | .recordCandidateEnvironment manifest => [carriedIn (records.environmentById manifest.id) manifest]
  | .recordDevelopmentEvidence evidence =>
    [carriedIn (records.developmentEvidence.find? (fun item => item.id = evidence.id)) evidence]
  | .recordIndependentReview review => [carriedIn (records.reviewById review.id) review]
  | .decideProjectSuccessor decision =>
    [carriedIn (records.projectSuccessorDecisions.find? (fun item => item.id = decision.id)) decision]
  | .recordPromotionDecision decision =>
    [carriedIn (records.promotionDecisions.find? (fun item => item.id = decision.id)) decision]
  | .recordRecursiveCycleCheckpoint checkpoint =>
    [carriedIn (records.recursiveCycleCheckpoints.find? (fun item => item.id = checkpoint.id)) checkpoint]
  | .recordRecursiveStopDisposition disposition =>
    [carriedIn (records.recursiveStopDispositions.find? (fun item => item.id = disposition.id)) disposition]

section
variable [Fingerprints] [Pydantic]

/-- What a command carries, with what is owned under the same identities. -/
def CommandBody.carried (state : InquiryState) : CommandBody → List Carried
  | .startInquiry _ _ _ => []
  | .effect command => command.carried state.toEffectRecords
  | .claim command => command.carried state.toClaimRecords
  | .warrant command => command.carried state.toWarrantRecords
  | .probe command => command.carried state.toProbeRecords
  | .memory command => command.carried state
  | .learning command => command.carried state
  | .compression command => command.carried state.toCompressionRecords
  | .project command => command.carried state.toProjectRecords

end

/-- The guards in front of the comparison hold. -/
def EffectCommand.tellsApart (effects : EffectRecords) : EffectCommand → Bool
  | .recordBacklogEffect effect => effect.kind.applicable
  | .planEffectAttempt plan => (effects.requestById plan.requestId).isSome
  | .recordNoAttemptDisposition disposition =>
    (effects.requestById disposition.requestId).any (fun request => disposition.stepPlanId = request.request.stepPlanId)
  | .recordDecodeOutcome requestId _ => (effects.requestById requestId).isSome
  | _ => true

def ClaimCommand.tellsApart [Pydantic] (records : ClaimRecords) : ClaimCommand → Bool
  | .admitClaim claim => toldApart (records.claimById claim.id) claim
  | .openObligation obligation => toldApart (records.obligationById obligation.id) obligation
  | .recordObligationDisposition disposition => (records.obligationById disposition.obligationId).isSome
  | .recordCandidate candidate => toldApart (records.candidates.find? (fun item => item.id = candidate.id)) candidate
  | .recordResidual residual => toldApart (records.residuals.find? (fun item => item.id = residual.id)) residual
  | _ => true

def WarrantCommand.tellsApart (context : Option InquiryContext) (warrants : WarrantRecords) : WarrantCommand → Bool
  | .recordEvidence evidence => context.any (fun context => evidence.scopeFingerprint = context.scopeFingerprint)
  | .recordCheckerVerdict verdict => (warrants.evidenceById verdict.evidenceId).any verdict.pins
  | _ => true

def ProbeCommand.tellsApart (probes : ProbeRecords) : ProbeCommand → Bool
  | .sealPrediction prediction => toldApart (probes.predictions.find? (fun item => item.id = prediction.id)) prediction
  | .recordProbeObservation observation =>
    toldApart (probes.probeObservations.find? (fun item => item.id = observation.id)) observation
  | _ => true

/-- The routes of a new package are refused as an invalid command, not as a conflict of identities. -/
def MemoryCommand.tellsApart (retention : RetentionRecords) : MemoryCommand → Bool
  | .registerRetentionPackage registration =>
    (retention.retentionPackages.find? (fun item => item.id = registration.package.id)).isSome ||
      !contradicted (registration.carried retention)
  | _ => true

/-- The overflow residual of an evaluation is not compared with an owned one. -/
def LearningCommand.tellsApart [Pydantic] (state : InquiryState) : LearningCommand → Bool
  | .recordSemanticFieldEvaluation evaluation overflowResidual =>
    contradicted [carriedIn (state.semanticFieldEvaluations.find? (fun item => item.id = evaluation.id)) evaluation] ||
      !contradicted (carriedAll (·.id) state.residuals overflowResidual.toList)
  | .recordLearnedProbeCandidate candidate =>
    toldApart (state.learnedProbeCandidates.find? (fun item => item.id = candidate.id)) candidate
  | _ => true

def CompressionCommand.tellsApart (records : CompressionRecords) : CompressionCommand → Bool
  | .recordCompressionApplication application residues =>
    (records.applicationById application.id).isSome || !contradicted (carriedAll (·.id) records.pathResidues residues)
  | _ => true

/-- A goal admission is compared with the one of its candidate. -/
def ProjectCommand.tellsApart (records : ProjectRecords) : ProjectCommand → Bool
  | .decideGoalAdmission decision =>
    (records.goalAdmissionDecisions.find? (fun item => item.candidateId = decision.candidateId)).isSome
  | _ => true

section
variable [Pydantic]

/-- The command compares what it carries with what is owned as the encodings compare. -/
def CommandBody.tellsApart (state : InquiryState) : CommandBody → Bool
  | .startInquiry _ _ _ => true
  | .effect command => command.tellsApart state.toEffectRecords
  | .claim command => command.tellsApart state.toClaimRecords
  | .warrant command => command.tellsApart state.context state.toWarrantRecords
  | .probe command => command.tellsApart state.toProbeRecords
  | .memory command => command.tellsApart state.toRetentionRecords
  | .learning command => command.tellsApart state
  | .compression command => command.tellsApart state.toCompressionRecords
  | .project command => command.tellsApart state.toProjectRecords

end

section
variable {α : Type} [JsonModel α] {identity : α → String} {owned records : List α}

/-- Records that are all owned as they are written are owned. -/
theorem carriedAll_owned (again : (carriedAll identity owned records).all (fun item => item.owned = some item.record)) :
    records ⊆ owned := by
  intro record member
  simp only [carriedAll, List.all_map, List.all_eq_true, Function.comp_apply, decide_eq_true_eq] at again
  obtain ⟨prior, hit, written⟩ := Option.map_eq_some_iff.mp (again record member)
  rw [← (dump_inj prior record).mp written]
  exact List.mem_of_find?_eq_some hit

/-- Owned records contradict nothing. -/
theorem carriedAll_agrees (distinct : (owned.map identity).Nodup) (within : records ⊆ owned) :
    contradicted (carriedAll identity owned records) = false := by
  simp only [contradicted, carriedAll, List.any_map, List.any_eq_false, Function.comp_apply]
  intro record member
  simp [carriedIn, find_of_mem distinct (within member)]

end

theorem contradicted_append (first second : List Carried) :
    contradicted (first ++ second) = (contradicted first || contradicted second) := by
  simp [contradicted]

section
variable {α β : Type} [JsonModel α] {record : α} {rest : List Carried} {outcome : Except Failure (Option β)}

theorem contradicted_new : contradicted (carriedIn (none : Option α) record :: rest) = contradicted rest := by
  simp [contradicted, carriedIn]

theorem repeated_new : repeated (carriedIn (none : Option α) record :: rest) = false := by
  simp [repeated, carriedIn]

theorem idle_new : idle (carriedIn (none : Option α) record :: rest) = !contradicted rest := by
  rw [idle, repeated_new, contradicted_new]
  simp

variable [DecidableEq α]

theorem contradicted_head (prior : α) :
    contradicted (carriedIn (some prior) record :: rest) = (Decidable.decide (prior ≠ record) || contradicted rest) := by
  have apart : (Encoded.encode prior = Encoded.encode record) ↔ prior = record := dump_inj prior record
  simp [contradicted, carriedIn, apart]

theorem repeated_head (prior : α) :
    repeated (carriedIn (some prior) record :: rest) =
      (Decidable.decide (prior = record) && rest.all (fun item => item.owned = some item.record)) := by
  have apart : (Encoded.encode prior = Encoded.encode record) ↔ prior = record := dump_inj prior record
  simp [repeated, carriedIn, apart]

/-- A record that comes with others is right about them when it is owned; when it is new, only if none of the others
is owned as another. -/
theorem binds_container {owned : Option α} (keeps : Bool) (reused : String)
    (kept : rest.all (fun item => item.owned = some item.record) = true → keeps = true)
    (refused : contradicted rest = true → keeps = false)
    (known : ∀ prior, owned = some prior → outcome =
      if prior = record ∧ keeps = true then .ok none else .error (.identityConflict reused))
    (new : owned = none → outcome ≠ .ok none ∧ FailsWith Failure.isNoConflict outcome) :
    Binds (carriedIn owned record :: rest) outcome ↔ (owned.isSome || !contradicted rest) = true := by
  cases owned with
  | none =>
    obtain ⟨changes, other⟩ := new rfl
    rw [binds_other changes other, idle_new]
    simp
  | some prior =>
    refine iff_of_true ⟨?_, ?_⟩ rfl
    · rw [repeated_head, Bool.and_eq_true, decide_eq_true_eq]
      intro again
      rw [known prior rfl, if_pos ⟨again.1, kept again.2⟩]
    · rw [contradicted_head, Bool.or_eq_true, decide_eq_true_eq]
      intro against
      refine ⟨reused, ?_⟩
      rw [known prior rfl, if_neg]
      intro agreed
      rcases against with changed | against
      · exact changed agreed.1
      · simp [refused against] at agreed

end

section
variable [Fingerprints]

theorem EffectCommand.binds (state : InquiryState) (command : EffectCommand) :
    Binds (command.carried state.toEffectRecords) (decideEffect state command) ↔
      idle (command.carried state.toEffectRecords) = true ∨ command.tellsApart state.toEffectRecords = true := by
  have always : ∀ {carried : List Carried} {outcome : Except Failure (Option EffectEvent)} {free : Prop},
      Binds carried outcome → (Binds carried outcome ↔ free ∨ true = true) :=
    fun binds => iff_of_true binds (.inr rfl)
  cases command with
  | recordBacklogEffect effect =>
    refine (binds_require (by trivial)).trans (or_congr_right ?_)
    exact and_iff_left binds_plain
  | recordStepPlan plan => exact always binds_plain
  | requestEffect request => exact always binds_plain
  | planEffectAttempt plan =>
    refine (binds_found (by trivial)).trans (or_congr_right ?_)
    simp only [EffectCommand.tellsApart, Option.isSome_iff_exists]
    exact exists_congr fun request => and_iff_left binds_plain
  | startEffectAttempt attemptId => exact always (binds_of_idle rfl)
  | recordNoAttemptDisposition disposition =>
    refine (binds_found (by trivial)).trans ?_
    simp only [EffectCommand.tellsApart, Option.any_eq_true, decide_eq_true_eq]
    by_cases free : idle ((EffectCommand.recordNoAttemptDisposition disposition).carried state.toEffectRecords) = true
    · simp [free]
    · refine or_congr_right (exists_congr fun request => and_congr_right fun _ => ?_)
      refine (binds_require (by trivial)).trans ?_
      exact (or_iff_right free).trans (and_iff_left binds_plain)
  | recordAttemptOutcome requestId outcome => exact always (binds_of_idle rfl)
  | recordDecodeOutcome requestId outcome =>
    refine (binds_found (by trivial)).trans (or_congr_right ?_)
    simp only [EffectCommand.tellsApart, Option.isSome_iff_exists]
    exact exists_congr fun request => and_iff_left binds_plain
  | acceptEffectResult requestId decodedOutcomeId => exact always (binds_of_idle rfl)

theorem WarrantCommand.binds (state : InquiryState) (command : WarrantCommand) :
    Binds (command.carried state.toWarrantRecords) (decideWarrant state command) ↔
      idle (command.carried state.toWarrantRecords) = true ∨
        command.tellsApart state.context state.toWarrantRecords = true := by
  cases command with
  | recordEvidence evidence =>
    refine (binds_require (by trivial)).trans (or_congr_right ?_)
    exact and_iff_left binds_plain
  | recordCheckerVerdict verdict =>
    refine (binds_found (by trivial)).trans ?_
    simp only [WarrantCommand.tellsApart, Option.any_eq_true]
    by_cases free : idle ((WarrantCommand.recordCheckerVerdict verdict).carried state.toWarrantRecords) = true
    · simp [free]
    · refine or_congr_right (exists_congr fun evidence => and_congr_right fun _ => ?_)
      refine (binds_require (by trivial)).trans ?_
      exact (or_iff_right free).trans (and_iff_left binds_plain)
  | recordNogood nogood => exact iff_of_true binds_plain (.inr rfl)
  | changeSupportRouteStanding change => exact iff_of_true binds_plain (.inr rfl)
  | changeNogoodStanding change => exact iff_of_true binds_plain (.inr rfl)
  | evaluateWarrant evaluation => exact iff_of_true (binds_of_idle rfl) (.inr rfl)
  | promoteClaim promotion => exact iff_of_true (binds_of_idle rfl) (.inr rfl)

theorem ProbeCommand.binds (state : InquiryState) (command : ProbeCommand) :
    Binds (command.carried state.toProbeRecords) (decideProbe state command) ↔
      idle (command.carried state.toProbeRecords) = true ∨ command.tellsApart state.toProbeRecords = true := by
  cases command with
  | sealPrediction prediction => exact binds_judged binds_recordOnce
  | recordProbeObservation observation => exact binds_judged binds_recordOnce
  | admitProbe probe => exact iff_of_true binds_plain (.inr rfl)
  | recordCognitivePlan plan => exact iff_of_true binds_plain (.inr rfl)
  | recordReconstruction reconstruction => exact iff_of_true binds_plain (.inr rfl)
  | recordMismatch mismatch => exact iff_of_true binds_plain (.inr rfl)
  | commitSemanticDelta delta => exact iff_of_true binds_plain (.inr rfl)


/-- A new package is refused only as an invalid command. -/
theorem register_new_fails {state : InquiryState} {registration : RetentionRegistration}
    (absent : state.retentionPackages.find? (fun item => item.id = registration.package.id) = none) :
    FailsWith Failure.isNoConflict (decideRegisterRetentionPackage state registration) := by
  rw [decideRegisterRetentionPackage, absent]
  refine failsWith_guard trivial ?_
  refine failsWith_guard trivial ?_
  refine failsWith_bind.mpr ⟨failsWith_forM fun reference _ => ?_, fun _ _ => failsWith_pure _⟩
  exact failsWith_require.mpr fun _ => trivial

theorem registration_binds {state : InquiryState} (valid : AggregateValid state) (registration : RetentionRegistration) :
    Binds ((MemoryCommand.registerRetentionPackage registration).carried state)
      (decideMemory state (.registerRetentionPackage registration)) ↔
        (MemoryCommand.registerRetentionPackage registration).tellsApart state.toRetentionRecords = true := by
  have unique := valid.identities_unique
  refine binds_container (state.toRetentionRecords.owns registration) "retention package identity was reused"
    ?_ ?_ ?_ ?_
  · intro again
    simp only [RetentionRegistration.carried, List.all_append, Bool.and_eq_true] at again
    obtain ⟨⟨⟨⟨⟨direct, reconstruction⟩, evaluation⟩, reacquisition⟩, scaffolds⟩, protocols⟩ := again
    simp only [RetentionRecords.owns, Bool.and_eq_true, decide_eq_true_eq]
    exact ⟨⟨⟨⟨⟨carriedAll_owned direct, carriedAll_owned reconstruction⟩, carriedAll_owned evaluation⟩,
      carriedAll_owned reacquisition⟩, carriedAll_owned scaffolds⟩, carriedAll_owned protocols⟩
  · intro against
    by_contra owns
    simp only [Bool.not_eq_false, RetentionRecords.owns, Bool.and_eq_true, decide_eq_true_eq] at owns
    obtain ⟨⟨⟨⟨⟨direct, reconstruction⟩, evaluation⟩, reacquisition⟩, scaffolds⟩, protocols⟩ := owns
    simp only [RetentionRegistration.carried, contradicted_append] at against
    rw [carriedAll_agrees (unique _ (by simp [identifiedCollections])) direct,
      carriedAll_agrees (unique _ (by simp [identifiedCollections])) reconstruction,
      carriedAll_agrees (unique _ (by simp [identifiedCollections])) evaluation,
      carriedAll_agrees (unique _ (by simp [identifiedCollections])) reacquisition,
      carriedAll_agrees (unique _ (by simp [identifiedCollections])) scaffolds,
      carriedAll_agrees (unique _ (by simp [identifiedCollections])) protocols] at against
    simp at against
  · intro prior owned
    simp only [decideMemory, decideRegisterRetentionPackage, owned]
  · intro absent
    refine ⟨?_, register_new_fails absent⟩
    simp only [decideMemory, decideRegisterRetentionPackage, absent, ne_eq, require_bind_eq_ok, forM_bind_eq_ok, pure,
      Except.pure, Except.ok.injEq, reduceCtorEq, and_false, not_false_eq_true]

/-- A retrieval is a repetition when query and result are owned together, and refused when one of them is owned
otherwise. -/
theorem retrieval_binds (state : InquiryState) (resultId : String) (query : RetrievalQuery) :
    Binds ((MemoryCommand.runRetrieval resultId query).carried state) (decideMemory state (.runRetrieval resultId query)) := by
  have asked : ∀ prior : RetrievalQuery, Encoded.encode prior = Encoded.encode query ↔ prior = query :=
    fun prior => dump_inj prior query
  have answered : ∀ prior : String, Encoded.encode prior = Encoded.encode query.id ↔ prior = query.id :=
    fun prior => dump_inj prior query.id
  simp only [decideMemory, decideRunRetrieval, MemoryCommand.carried]
  split
  next owned =>
    split
    next agreed =>
      refine binds_again.mpr ?_
      obtain ⟨query, result⟩ := agreed
      obtain ⟨answer, hit, same⟩ := (Option.any_eq_true _ _).mp result
      simp only [decide_eq_true_eq] at same
      simp [contradicted, carriedIn, query, hit, same]
    next disagreed =>
      refine binds_conflict.mpr (Bool.eq_false_iff.mpr fun again => disagreed ?_)
      simp only [repeated, carriedIn, List.isEmpty_cons, Bool.not_false, Bool.true_and, List.all_cons, List.all_nil,
        Bool.and_true, Bool.and_eq_true, decide_eq_true_eq, Option.map_eq_some_iff] at again
      obtain ⟨⟨prior, found, same⟩, ⟨answer, ⟨result, hit, named⟩, told⟩⟩ := again
      rw [(asked prior).mp same] at found
      rw [(answered answer).mp told] at named
      refine ⟨found, ?_⟩
      rw [hit]
      simpa using named
  next new =>
    simp only [not_or, Bool.not_eq_true, Option.isSome_eq_false_iff, Option.isNone_iff_eq_none] at new
    refine binds_of_idle ?_
    simp [idle, repeated, contradicted, carriedIn, new.1, new.2]

theorem MemoryCommand.binds {state : InquiryState} (valid : AggregateValid state) (command : MemoryCommand) :
    Binds (command.carried state) (decideMemory state command) ↔
      idle (command.carried state) = true ∨ command.tellsApart state.toRetentionRecords = true := by
  cases command with
  | registerRetentionPackage registration => exact binds_judged (registration_binds valid registration)
  | runRetrieval resultId query => exact iff_of_true (retrieval_binds state resultId query) (.inr rfl)
  | requestReacquisition request => exact iff_of_true binds_plain (.inr rfl)
  | linkReacquisitionInquiry link => exact iff_of_true binds_plain (.inr rfl)
  | recordRecoveryObservation observation => exact iff_of_true binds_plain (.inr rfl)
  | recordRecoveryComparison comparison => exact iff_of_true binds_plain (.inr rfl)

/-- An evaluation is refused for reasons other than a conflict of identities. -/
theorem semanticField_fails (state : InquiryState) (evaluation : SemanticFieldEvaluation)
    (overflowResidual : Option Residual) :
    FailsWith Failure.isNoConflict (freshSemanticFieldEvaluation state evaluation overflowResidual) := by
  refine failsWith_guard trivial ?_
  refine failsWith_bind.mpr ⟨?_, fun expected _ => ?_⟩
  · simp only [evaluateConservativeField, SemanticFieldEvaluation.validateEvaluation]
    iterate 10 refine failsWith_guard trivial ?_
    exact failsWith_pure _
  refine failsWith_guard trivial ?_
  refine failsWith_lookup trivial fun _ _ => ?_
  refine failsWith_guard trivial ?_
  exact failsWith_guard trivial (failsWith_pure _)

omit [Fingerprints] in
/-- A new application is refused for reasons other than a conflict of identities. -/
theorem application_fails (records : CompressionRecords) (application : CompressionApplication)
    (residues : List PathResidue) :
    FailsWith Failure.isNoConflict (freshCompressionApplication records application residues) := by
  refine failsWith_lookup trivial fun _ _ => ?_
  refine failsWith_lookup trivial fun _ _ => ?_
  refine failsWith_guard trivial ?_
  refine failsWith_guard trivial ?_
  refine failsWith_guard trivial ?_
  refine failsWith_lookup trivial fun _ _ => ?_
  refine failsWith_guard trivial ?_
  exact failsWith_guard trivial (failsWith_pure _)

theorem application_binds {state : InquiryState} (valid : AggregateValid state) (application : CompressionApplication)
    (residues : List PathResidue) :
    Binds ((CompressionCommand.recordCompressionApplication application residues).carried state.toCompressionRecords)
      (decideCompression state (.recordCompressionApplication application residues)) ↔
        (CompressionCommand.recordCompressionApplication application residues).tellsApart state.toCompressionRecords =
          true := by
  have unique := valid.compression
  simp only [validateCompression, require_bind_eq_ok] at unique
  refine binds_container (Decidable.decide (residues ⊆ state.pathResidues))
    "compression-application identity was reused" ?_ ?_ ?_ ?_
  · exact fun again => decide_eq_true (carriedAll_owned again)
  · intro against
    refine decide_eq_false fun within => ?_
    rw [carriedAll_agrees (unique.1 _ (by simp [compressionIdentities])) within] at against
    simp at against
  · intro prior owned
    simp only [decideCompression, decideCompressionApplication, owned, decide_eq_true_eq]
  · intro absent
    simp only [decideCompression, decideCompressionApplication, absent]
    refine ⟨?_, failsWith_map.mpr (application_fails _ _ _)⟩
    cases freshCompressionApplication state.toCompressionRecords application residues <;> simp [Except.map]

theorem CompressionCommand.binds {state : InquiryState} (valid : AggregateValid state) (command : CompressionCommand) :
    Binds (command.carried state.toCompressionRecords) (decideCompression state command) ↔
      idle (command.carried state.toCompressionRecords) = true ∨
        command.tellsApart state.toCompressionRecords = true := by
  cases command with
  | recordCompressionApplication application residues => exact binds_judged (application_binds valid application residues)
  | registerBindingCarrierManifest manifest => exact iff_of_true binds_plain (.inr rfl)
  | recordRealizedHistoryDerivation derivation => exact iff_of_true binds_plain (.inr rfl)
  | registerCompressionContract contract => exact iff_of_true binds_plain (.inr rfl)
  | recordCompressionValidation validation => exact iff_of_true binds_plain (.inr rfl)
  | grantExactCompressionLicense license => exact iff_of_true binds_plain (.inr rfl)
  | grantRecoveryLicense license => exact iff_of_true binds_plain (.inr rfl)
  | linkRetentionCapability link => exact iff_of_true binds_plain (.inr rfl)
  | decideRepresentationSuccessor decision => exact iff_of_true binds_plain (.inr rfl)
  | reopenRepresentation reopening => exact iff_of_true binds_plain (.inr rfl)

/-- A goal admission is refused for reasons other than a conflict of identities. -/
theorem goalAdmission_fails (records : ProjectRecords) (decision : GoalAdmissionDecision) :
    FailsWith Failure.isNoConflict (freshGoalAdmission records decision) :=
  failsWith_guard trivial (failsWith_pure _)

/-- Goal admissions have different candidates and different identities. -/
theorem AggregateValid.goal_admissions {state : InquiryState} (valid : AggregateValid state) :
    (state.goalAdmissionDecisions.map GoalAdmissionDecision.candidateId).Nodup ∧
      (state.goalAdmissionDecisions.map GoalAdmissionDecision.id).Nodup := by
  obtain ⟨identities, goals, -⟩ := valid.project_parts
  simp only [validateGoals, require_bind_eq_ok] at goals
  exact ⟨goals.2.1, identities _ (by simp [projectIdentities])⟩

theorem goalAdmission_binds {state : InquiryState} (valid : AggregateValid state) (decision : GoalAdmissionDecision) :
    Binds ((ProjectCommand.decideGoalAdmission decision).carried state.toProjectRecords)
      (decideProject state (.decideGoalAdmission decision)) ↔
        idle ((ProjectCommand.decideGoalAdmission decision).carried state.toProjectRecords) = true ∨
          (ProjectCommand.decideGoalAdmission decision).tellsApart state.toProjectRecords = true := by
  obtain ⟨candidates, identities⟩ := valid.goal_admissions
  simp only [decideProject, ProjectCommand.carried, ProjectCommand.tellsApart]
  cases decided : state.goalAdmissionDecisions.find? (fun item => item.candidateId = decision.candidateId) with
  | none =>
    have other : FailsWith Failure.isNoConflict (recordOnce none decision
        "a Goal candidate permits one total admission decision" (freshGoalAdmission state.toProjectRecords decision)) :=
      failsWith_map.mpr (goalAdmission_fails _ _)
    rw [binds_other ?_ other]
    · simp
    · simp only [recordOnce]
      cases freshGoalAdmission state.toProjectRecords decision <;> simp [Except.map]
  | some prior =>
    refine iff_of_true ?_ (.inr rfl)
    have member := List.mem_of_find?_eq_some decided
    simp only [recordOnce, RecordEq.same, decide_eq_true_eq]
    split
    next same =>
      refine binds_again.mpr ?_
      rw [← same, find_of_mem identities member, contradicted_head]
      simp [contradicted]
    next changed =>
      refine binds_conflict.mpr ?_
      cases owned : state.goalAdmissionDecisions.find? (fun item => item.id = decision.id) with
      | none => exact repeated_new
      | some earlier =>
        rw [repeated_head, Bool.and_eq_false_iff, decide_eq_false_iff_not]
        refine .inl fun same => changed ?_
        have found := find_of_mem candidates (same ▸ List.mem_of_find?_eq_some owned)
        rw [decided] at found
        exact Option.some.inj found

theorem ProjectCommand.binds {state : InquiryState} (valid : AggregateValid state) (command : ProjectCommand) :
    Binds (command.carried state.toProjectRecords) (decideProject state command) ↔
      idle (command.carried state.toProjectRecords) = true ∨ command.tellsApart state.toProjectRecords = true := by
  cases command with
  | decideGoalAdmission decision => exact goalAdmission_binds valid decision
  | _ => exact iff_of_true binds_plain (.inr rfl)

end

section
variable [Fingerprints] [Pydantic]

theorem ClaimCommand.binds (state : InquiryState) (command : ClaimCommand) :
    Binds (command.carried state.toClaimRecords) (decideClaim state command) ↔
      idle (command.carried state.toClaimRecords) = true ∨ command.tellsApart state.toClaimRecords = true := by
  cases command with
  | admitClaim claim => exact binds_judged binds_recordOnce
  | openObligation obligation =>
    cases owned : state.obligationById obligation.id with
    | none =>
      have free : idle ((ClaimCommand.openObligation obligation).carried state.toClaimRecords) = true := by
        simp [idle, repeated, contradicted, ClaimCommand.carried, carriedIn, owned]
      exact iff_of_true (binds_of_idle free) (.inl free)
    | some prior =>
      have compared : decideClaim state (.openObligation obligation) =
          recordOnce (some prior) obligation "obligation id was reused for different content"
            (.ok (.obligationOpened obligation)) := by
        simp only [decideClaim, decideOpenObligation, owned, recordOnce]
      refine binds_judged ?_
      rw [compared]
      simp only [ClaimCommand.carried, ClaimCommand.tellsApart, owned]
      exact binds_recordOnce
  | recordObligationDisposition disposition =>
    refine (binds_found (by trivial)).trans (or_congr_right ?_)
    simp only [ClaimCommand.tellsApart, Option.isSome_iff_exists]
    exact exists_congr fun obligation => and_iff_left binds_plain
  | recordCandidate candidate => exact binds_judged binds_recordOnce
  | recordResidual residual => exact binds_judged binds_recordOnce
  | appendCorrection correction => exact iff_of_true binds_plain (.inr rfl)
  | changeGuardStanding change => exact iff_of_true binds_plain (.inr rfl)


theorem semanticField_binds (state : InquiryState) (evaluation : SemanticFieldEvaluation)
    (overflowResidual : Option Residual) :
    Binds ((LearningCommand.recordSemanticFieldEvaluation evaluation overflowResidual).carried state)
      (decideLearning state (.recordSemanticFieldEvaluation evaluation overflowResidual)) ↔
        (LearningCommand.recordSemanticFieldEvaluation evaluation overflowResidual).tellsApart state = true := by
  simp only [decideLearning, LearningCommand.carried, LearningCommand.tellsApart]
  cases owned : state.semanticFieldEvaluations.find? (fun item => item.id = evaluation.id) with
  | none =>
    have other : FailsWith Failure.isNoConflict (recordOnce none evaluation
        "semantic-field evaluation identity was reused"
        (freshSemanticFieldEvaluation state evaluation overflowResidual)) :=
      failsWith_map.mpr (semanticField_fails _ _ _)
    rw [binds_other ?_ other, idle_new, contradicted_new]
    · simp [contradicted]
    · simp only [recordOnce]
      cases freshSemanticFieldEvaluation state evaluation overflowResidual <;> simp [Except.map]
  | some prior =>
    simp only [contradicted_head, recordOnce, RecordEq.same, decide_eq_true_eq]
    split
    next same => rw [binds_again, contradicted_head]; simp [same, contradicted]
    next changed => rw [binds_conflict, repeated_head]; simp [changed]

theorem LearningCommand.binds (state : InquiryState) (command : LearningCommand) :
    Binds (command.carried state) (decideLearning state command) ↔
      idle (command.carried state) = true ∨ command.tellsApart state = true := by
  cases command with
  | recordSemanticFieldEvaluation evaluation overflowResidual =>
    exact binds_judged (semanticField_binds state evaluation overflowResidual)
  | recordLearnedProbeCandidate candidate => exact binds_judged binds_recordOnce
  | _ => exact iff_of_true binds_plain (.inr rfl)

omit [Fingerprints] [Pydantic] in
/-- An area decides only for an active inquiry. -/
theorem binds_active {α : Type} {state : InquiryState} {inquiryId : String} {carried : List Carried}
    {outcome : Except Failure (Option α)} {wrap : α → EventBody} {told : Bool}
    (judged : Binds carried outcome ↔ idle carried = true ∨ told = true) :
    Binds carried (do requireActive state.toInquiryHeader inquiryId
                      return (← outcome).map wrap : Except Failure (Option EventBody)) ↔
      idle carried = true ∨ (state.isActive inquiryId ∧ told = true) := by
  by_cases active : state.isActive inquiryId
  · have passed := requireActive_eq_ok.mpr active
    rw [passed]
    refine (binds_map wrap).trans ?_
    simp only [judged, active, true_and]
  · have fails : FailsWith Failure.isNoConflict (requireActive state.toInquiryHeader inquiryId) :=
      failsWith_guard trivial (failsWith_require.mpr fun _ => trivial)
    cases checked : requireActive state.toInquiryHeader inquiryId with
    | ok done => exact absurd (requireActive_eq_ok.mp checked) active
    | error failure =>
      refine (binds_other (by simp) (failsWith_error.mpr (fails failure checked))).trans ?_
      simp [active]

/-- A command is right about the identities that it carries when these are free, or when it is addressed to the active
inquiry and compares them as they are written. -/
theorem CommandBody.binds {state : InquiryState} (valid : AggregateValid state) (inquiryId : String)
    (body : CommandBody) :
    Binds (body.carried state) (decideBody state inquiryId body) ↔
      idle (body.carried state) = true ∨ (state.isActive inquiryId ∧ body.tellsApart state = true) := by
  cases body with
  | startInquiry manifestArtifact policyVersion context => exact iff_of_true (binds_of_idle rfl) (.inl rfl)
  | effect command => exact binds_active (command.binds state)
  | claim command => exact binds_active (command.binds state)
  | warrant command => exact binds_active (command.binds state)
  | probe command => exact binds_active (command.binds state)
  | memory command => exact binds_active (command.binds valid)
  | learning command => exact binds_active (command.binds state)
  | compression command => exact binds_active (command.binds valid)
  | project command => exact binds_active (command.binds valid)

/-- Issuing owned records again yields no event, and an owned identity with another content is refused as a conflict.
Contents are compared as they are written. -/
def DomainCommand.BindsIdentities (state : InquiryState) (command : DomainCommand) : Prop :=
  (repeated (command.body.carried state) → decide state command = .ok []) ∧
    (contradicted (command.body.carried state) → ∃ reason, decide state command = .error (.identityConflict reason))

/-- Nothing that the command carries is owned, or the command is addressed to the active inquiry, passes the guards
that stand before the comparison, and carries no JSON that merely respells or disguises what is owned. -/
def DomainCommand.tellsApart (state : InquiryState) (command : DomainCommand) : Bool :=
  idle (command.body.carried state) ||
    (Decidable.decide (state.status = .active ∧ state.inquiryId = some command.head.inquiryId) &&
      command.body.tellsApart state)

theorem decide_binds (state : InquiryState) (command : DomainCommand) :
    command.BindsIdentities state ↔
      Binds (command.body.carried state) (decideBody state command.head.inquiryId command.body) := by
  unfold DomainCommand.BindsIdentities decide Binds
  cases decideBody state command.head.inquiryId command.body with
  | error failure => simp [bind, Except.bind]
  | ok body => cases body <;> simp [bind, Except.bind, pure, Except.pure]

/-- Identities bind content as it is written exactly where the comparison sees it so. -/
theorem identities_bind {state : InquiryState} (reached : Reachable state) (command : DomainCommand) :
    command.BindsIdentities state ↔ command.tellsApart state = true := by
  have valid := reached.replayable.aggregateValid
  rw [decide_binds, CommandBody.binds valid]
  simp only [DomainCommand.tellsApart, Bool.or_eq_true, Bool.and_eq_true, decide_eq_true_eq, InquiryState.isActive]

end

namespace Worked

def spelled (value : JsonValue) : Candidate where
  id := "candidate"
  kind := .questionAnswer
  payload := .json value
  scope := scope
  provenance := ⟨"manual", "person", none⟩

/-- A candidate whose payload is the value `true`. -/
def answeredTrue : InquiryState := reached [start, .claim (.recordCandidate (spelled (.bool true)))]

def respelled (value : JsonValue) : DomainCommand := command (.claim (.recordCandidate (spelled value)))

theorem answeredTrue_bound : (respelled (.bool true)).BindsIdentities answeredTrue := by
  have apart : (respelled (.bool true)).tellsApart answeredTrue = true := by decide +kernel
  exact (identities_bind (reachable_reached _) _).mpr apart

/-- The number one is taken for a repetition of `true`, which is written differently. -/
theorem answeredTrue_respelled :
    Reachable answeredTrue ∧ ¬ (respelled (.int 1)).BindsIdentities answeredTrue := by
  have changed : contradicted ((respelled (.int 1)).body.carried answeredTrue) = true ∧
      decide answeredTrue (respelled (.int 1)) = .ok [] := by decide +kernel
  refine ⟨reachable_reached _, fun binds => ?_⟩
  obtain ⟨reason, refused⟩ := binds.2 changed.1
  rw [changed.2] at refused
  simp at refused

end Worked

end RatchetingInquiry
