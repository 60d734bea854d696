import RatchetingInquiry.Core.Decide
import RatchetingInquiry.Library.History

/-! The aggregate check of the inquiry header, its effects and its claims. -/

namespace RatchetingInquiry

/-- An unstarted inquiry is empty. Goal candidates and goal admissions are not looked at. -/
def validateUnstarted (state : InquiryState) : Except Failure Unit := do
  require (state.sequence = 0 ∧ state.inquiryId = none ∧ state.manifestArtifact = none ∧
      state.policyVersion = none ∧ state.context = none)
    (.validation "an unstarted inquiry cannot contain started state")
  require (state.toEffectRecords = {})
    (.validation "an unstarted inquiry cannot contain backlog effects, plans, or requests")
  require (state.toClaimRecords = {} ∧ state.toWarrantRecords = {} ∧ state.toProbeRecords = {} ∧
      state.toRetentionRecords = {} ∧ state.toRetrievalRecords = {} ∧ state.toRecoveryRecords = {} ∧
      state.toLearningRecords = {} ∧ state.toCompressionRecords = {} ∧
      { state.toProjectRecords with implementationGoalCandidates := [], goalAdmissionDecisions := [] } =
        ({} : ProjectRecords))
    (.validation "an unstarted inquiry cannot contain domain records")

def InquiryHeader.isComplete (header : InquiryHeader) : Bool :=
  header.inquiryId.isSome && header.manifestArtifact.isSome && header.policyVersion.isSome && header.context.isSome

def validateStart (state : InquiryState) : Except Failure Unit :=
  if state.status = .notStarted then validateUnstarted state
  else require state.isComplete (.validation "an active inquiry requires identity, manifest, and policy")

/-- The identities of the results that the requests accepted. -/
def EffectRecords.acceptedResultIds (records : EffectRecords) : List String :=
  records.effectRequests.filterMap (fun request => request.acceptedResult.map CanonicalResult.id)

def validateEffectRecords (effects : EffectRecords) : Except Failure Unit := do
  require (effects.effectRequests.map (·.request.id)).Nodup (.validation "effect request ids must be unique")
  require (effects.backlogEffects.map BacklogEffect.id).Nodup (.validation "backlog effect ids must be unique")
  require (effects.stepPlans.map StepPlan.id).Nodup (.validation "step plan ids must be unique")
  require (∀ request ∈ effects.effectRequests, request.request.stepPlanId ∈ effects.stepPlans.map StepPlan.id)
    (.validation "effect requests must reference owned step plans")
  require (effects.attempts.map (·.plan.id)).Nodup (.validation "attempt ids must be unique within an inquiry")
  require effects.capturedExternalReturnIds.Nodup
    (.validation "external return ids must be unique within an inquiry")
  require effects.recordedDecodeOutcomeIds.Nodup
    (.validation "decode outcome ids must be unique within an inquiry")
  require effects.acceptedResultIds.Nodup (.validation "accepted result ids must be unique within an inquiry")

def validateClaimReferences (claims : ClaimRecords) : Except Failure Unit := do
  require (∀ conflict ∈ claims.conflicts,
      conflict.claimIds.1 ∈ claims.claims.map Claim.id ∧ conflict.claimIds.2 ∈ claims.claims.map Claim.id)
    (.validation "conflicts must reference recorded claims")
  require (∀ disposition ∈ claims.obligationDispositions,
      disposition.obligationId ∈ claims.obligations.map Obligation.id)
    (.validation "obligation dispositions must reference recorded obligations")

section
variable [Fingerprints]

/-- A plan follows the policy of the context, and a ready one selects an owned obligation exactly. -/
def validateStepPlan (context : Option InquiryContext) (claims : ClaimRecords) (plan : StepPlan) :
    Except Failure Unit := do
  require (context.any (fun context => plan.policyVersion = context.schedulerPolicyVersion))
    (.validation "step plan policy must match the inquiry context")
  if plan.status = .ready then
    let obligation ← found (indexBy Obligation.id claims.obligations (plan.selectedObligationId.getD ""))
      (.validation "ready step plans must select an owned obligation")
    let key ← found plan.selectedAttemptKey (.validation "ready step plans must select an owned obligation")
    require (key.obligationFingerprint = obligation.fingerprint ∧ key.bindingRevision = obligation.bindingRevision)
      (.validation "step plan attempt key must match its exact obligation")

/-- The identity columns of the areas that share one uniqueness message. -/
def identifiedCollections (state : InquiryState) : List (List String) := [
  state.claims.map (·.id), state.conflicts.map (·.id), state.obligations.map (·.id),
  state.obligationDispositions.map (·.id), state.candidates.map (·.id), state.residuals.map (·.id),
  state.corrections.map (·.id), state.guardChanges.map (·.id), state.nogoods.map (·.id),
  state.supportRouteStandingChanges.map (·.id), state.nogoodStandingChanges.map (·.id),
  state.evidenceRecords.map (·.id), state.checkerVerdicts.map (·.id), state.warrantDecisions.map (·.id),
  state.lemmaVersions.map (·.id), state.promotionLinks.map (·.id), state.cognitivePlans.map (·.id),
  state.predictions.map (·.id), state.probeObservations.map (·.id), state.reconstructions.map (·.id),
  state.mismatches.map (·.id), state.semanticDeltas.map (·.id), state.directUseRoutes.map (·.id),
  state.reconstructionRoutes.map (·.id), state.consequenceEvaluationRoutes.map (·.id),
  state.reacquisitionRoutes.map (·.id), state.reacquisitionScaffolds.map (·.id),
  state.recoveryProtocols.map (·.id), state.retentionPackages.map (·.id),
  state.retrievalPolicies.map (fun policy => policy.id ++ ":" ++ policy.version),
  state.retrievalQueries.map (·.id), state.retrievalResults.map (·.id), state.reacquisitionRequests.map (·.id),
  state.reacquisitionInquiryLinks.map (·.id), state.recoveryObservations.map (·.id),
  state.recoveryComparisons.map (·.id), state.consolidationCheckpoints.map (·.id),
  state.consolidationCandidates.map (·.id), state.memoryPatchCandidates.map (·.id),
  state.reconsolidationLinks.map (·.id), state.semanticFieldEvaluations.map (·.id),
  state.representationGaps.map (·.id), state.learnedProbeCandidates.map (·.id),
  state.probeEvaluations.map (·.id), state.probeAdmissionDecisions.map (·.id)]

def validateIdentities (state : InquiryState) : Except Failure Unit := do
  require (∀ identifiers ∈ identifiedCollections state, identifiers.Nodup)
    (.validation "domain record identities must be unique per owner")
  require (state.admittedProbes.map ProbeIdentity.fingerprint).Nodup
    (.validation "admitted recurrent probe identities must be unique")

end

end RatchetingInquiry
