import RatchetingInquiry.Core.Validate.Project

/-! The complete aggregate check, in the order in which the source makes it. Records are immutable and
were checked when they were built, so their own validators are not repeated here. -/

namespace RatchetingInquiry

section
variable [Fingerprints]

def validateAggregate (state : InquiryState) : Except Failure Unit := do
  validateStart state
  validateEffectRecords state.toEffectRecords
  validateIdentities state
  validateLearning state.toEffectRecords state.toClaimRecords state.toWarrantRecords state.toProbeRecords
    state.toLearningRecords
  validateClaimReferences state.toClaimRecords
  state.stepPlans.forM (validateStepPlan state.context state.toClaimRecords)
  validateWarrants state.context state.toClaimRecords state.toWarrantRecords
  validateSemanticDeltas state.toWarrantRecords state.toProbeRecords
  validateRetention state.ownedMemoryRecords state.toRetentionRecords
  validateRetrieval state.sequence state.toRetentionRecords state.toRetrievalRecords
  validateRecovery state.toInquiryHeader state.toWarrantRecords state.toRetentionRecords state.toRecoveryRecords
  validateCompression state.toRetentionRecords state.toCompressionRecords
  validateProject state.goalSources

/-- `InquiryState.validate_lifecycle`, run whenever a state is built. -/
def InquiryState.validateLifecycle (state : InquiryState) : Except Failure InquiryState := do
  validateAggregate state
  return state

/-- What the aggregate check establishes, by the part that establishes it. -/
structure AggregateValid (state : InquiryState) : Prop where
  start : validateStart state = .ok ()
  effects : validateEffectRecords state.toEffectRecords = .ok ()
  identities : validateIdentities state = .ok ()
  learning : validateLearning state.toEffectRecords state.toClaimRecords state.toWarrantRecords state.toProbeRecords
    state.toLearningRecords = .ok ()
  claim_references : validateClaimReferences state.toClaimRecords = .ok ()
  step_plans : ∀ plan ∈ state.stepPlans, validateStepPlan state.context state.toClaimRecords plan = .ok ()
  warrants : validateWarrants state.context state.toClaimRecords state.toWarrantRecords = .ok ()
  semantic_deltas : validateSemanticDeltas state.toWarrantRecords state.toProbeRecords = .ok ()
  retention : validateRetention state.ownedMemoryRecords state.toRetentionRecords = .ok ()
  retrieval : validateRetrieval state.sequence state.toRetentionRecords state.toRetrievalRecords = .ok ()
  recovery : validateRecovery state.toInquiryHeader state.toWarrantRecords state.toRetentionRecords
    state.toRecoveryRecords = .ok ()
  compression : validateCompression state.toRetentionRecords state.toCompressionRecords = .ok ()
  project : validateProject state.goalSources = .ok ()

theorem validateAggregate_eq_ok {state : InquiryState} : validateAggregate state = .ok () ↔ AggregateValid state := by
  unfold validateAggregate
  simp only [unit_bind_eq_ok, forM_eq_ok]
  constructor
  · rintro ⟨start, effects, identities, learning, references, plans, warrants, deltas, retention, retrieval,
      recovery, compression, project⟩
    exact ⟨start, effects, identities, learning, references, plans, warrants, deltas, retention, retrieval,
      recovery, compression, project⟩
  · rintro ⟨start, effects, identities, learning, references, plans, warrants, deltas, retention, retrieval,
      recovery, compression, project⟩
    exact ⟨start, effects, identities, learning, references, plans, warrants, deltas, retention, retrieval,
      recovery, compression, project⟩

theorem AggregateValid.identities_unique {state : InquiryState} (valid : AggregateValid state) :
    ∀ identifiers ∈ identifiedCollections state, identifiers.Nodup := by
  have checked := valid.identities
  simp only [validateIdentities, require_bind_eq_ok] at checked
  exact checked.1

theorem AggregateValid.warrants_valid {state : InquiryState} (valid : AggregateValid state) :
    WarrantsValid state.context state.toClaimRecords state.toWarrantRecords :=
  validateWarrants_eq_ok.mp valid.warrants

/-- The aggregate check returns the state that it was given, and only a valid one. -/
theorem validateLifecycle_eq_ok {state result : InquiryState} :
    state.validateLifecycle = .ok result ↔ AggregateValid state ∧ result = state := by
  unfold InquiryState.validateLifecycle
  simp only [unit_bind_eq_ok, validateAggregate_eq_ok, pure, Except.pure, Except.ok.injEq]
  constructor
  · rintro ⟨valid, same⟩
    exact ⟨valid, same.symm⟩
  · rintro ⟨valid, same⟩
    exact ⟨valid, same.symm⟩

end

end RatchetingInquiry
