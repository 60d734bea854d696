import Mathlib.Data.List.Dedup
import RatchetingInquiry.Backlog.Models
import RatchetingInquiry.Warrant.Support

/-! The aggregate state rebuilt exclusively from events. The record collections are grouped by the area
that owns them, so that a function or a check names the groups it reads. -/

namespace RatchetingInquiry

inductive InquiryStatus where
  | notStarted | active
deriving DecidableEq

/-- Lifecycle position and semantic pins of the inquiry. -/
structure InquiryHeader where
  status : InquiryStatus := .notStarted
  inquiryId : Option String := none
  sequence : Nat := 0
  manifestArtifact : Option ArtifactRef := none
  policyVersion : Option String := none
  context : Option InquiryContext := none
deriving DecidableEq

structure EffectRecords where
  backlogEffects : List BacklogEffect := []
  stepPlans : List StepPlan := []
  effectRequests : List EffectRequestState := []
deriving DecidableEq

structure ClaimRecords where
  claims : List Claim := []
  conflicts : List Conflict := []
  obligations : List Obligation := []
  obligationDispositions : List ObligationDisposition := []
  candidates : List Candidate := []
  residuals : List Residual := []
  corrections : List Correction := []
  guardChanges : List GuardChange := []
deriving DecidableEq

structure WarrantRecords where
  nogoods : List Nogood := []
  supportRouteStandingChanges : List SupportRouteStandingChange := []
  nogoodStandingChanges : List NogoodStandingChange := []
  evidenceRecords : List Evidence := []
  checkerVerdicts : List CheckerVerdictRecord := []
  warrantDecisions : List WarrantDecisionRecord := []
  lemmaVersions : List LemmaVersion := []
  lemmaSupports : List LemmaSupport := []
  promotionLinks : List PromotionLink := []
deriving DecidableEq

structure ProbeRecords where
  admittedProbes : List ProbeIdentity := []
  cognitivePlans : List CognitiveAttemptPlan := []
  predictions : List PredictionSeal := []
  probeObservations : List ProbeEvent := []
  reconstructions : List Reconstruction := []
  mismatches : List Mismatch := []
  semanticDeltas : List SemanticDelta := []
deriving DecidableEq

structure RetentionRecords where
  directUseRoutes : List DirectUseRoute := []
  reconstructionRoutes : List ReconstructionRoute := []
  consequenceEvaluationRoutes : List ConsequenceEvaluationRoute := []
  reacquisitionRoutes : List ReacquisitionRoute := []
  reacquisitionScaffolds : List ReacquisitionScaffold := []
  recoveryProtocols : List RecoveryProtocol := []
  retentionPackages : List RetentionPackage := []
deriving DecidableEq

structure RetrievalRecords where
  retrievalPolicies : List StructuralRetrievalPolicy := []
  retrievalQueries : List RetrievalQuery := []
  retrievalResults : List RetrievalResult := []
deriving DecidableEq

structure RecoveryRecords where
  reacquisitionRequests : List ReacquisitionRequest := []
  reacquisitionInquiryLinks : List ReacquisitionInquiryLink := []
  recoveryObservations : List RecoveryObservation := []
  recoveryComparisons : List RecoveryComparison := []
deriving DecidableEq

structure LearningRecords where
  consolidationCheckpoints : List ConsolidationCheckpoint := []
  consolidationCandidates : List ConsolidationCandidate := []
  memoryPatchCandidates : List MemoryPatchCandidate := []
  reconsolidationLinks : List ReconsolidationLink := []
  semanticFieldEvaluations : List SemanticFieldEvaluation := []
  representationGaps : List RepresentationGap := []
  learnedProbeCandidates : List LearnedProbeCandidate := []
  probeEvaluations : List ProbeEvaluation := []
  probeAdmissionDecisions : List ProbeAdmissionDecision := []
deriving DecidableEq

structure CompressionRecords where
  bindingCarrierManifests : List BindingCarrierManifest := []
  realizedHistoryDerivations : List RealizedHistoryDerivation := []
  compressionContracts : List CompressionContract := []
  compressionValidations : List CompressionValidation := []
  exactCompressionLicenses : List ExactCompressionLicense := []
  pathResidues : List PathResidue := []
  compressionApplications : List CompressionApplication := []
  recoveryLicenses : List RecoveryLicense := []
  retentionCapabilityLinks : List RetentionCapabilityLink := []
  representationSuccessorDecisions : List RepresentationSuccessorDecision := []
  representationReopenings : List RepresentationReopening := []
deriving DecidableEq

structure ProjectRecords where
  projectAnchors : List ProjectAnchor := []
  capabilityLimitations : List CapabilityLimitation := []
  questionContractCandidates : List QuestionContractCandidate := []
  questionRepertoireDecisions : List QuestionRepertoireDecision := []
  methodBindingCandidates : List MethodBindingCandidate := []
  methodAdmissionDecisions : List MethodAdmissionDecision := []
  capabilitySuccessorCandidates : List CapabilitySuccessorCandidate := []
  capabilityFrontiers : List CapabilityFrontier := []
  implementationGoalCandidates : List ImplementationGoalCandidate := []
  goalAdmissionDecisions : List GoalAdmissionDecision := []
  implementationGoals : List ImplementationGoalContract := []
  candidateEnvironments : List CandidateEnvironmentManifest := []
  developmentEvidence : List DevelopmentEvidence := []
  independentReviews : List IndependentReview := []
  projectSuccessorDecisions : List ProjectSuccessorDecision := []
  promotionDecisions : List PromotionDecision := []
  recursiveCycleCheckpoints : List RecursiveCycleCheckpoint := []
  recursiveStopDispositions : List RecursiveStopDisposition := []
deriving DecidableEq

structure InquiryState extends InquiryHeader, EffectRecords, ClaimRecords, WarrantRecords, ProbeRecords,
    RetentionRecords, RetrievalRecords, RecoveryRecords, LearningRecords, CompressionRecords, ProjectRecords
deriving DecidableEq

/-- A fresh aggregate without any identity or time. -/
def initialState : InquiryState := {}

namespace EffectRecords

def requestById (records : EffectRecords) (requestId : String) : Option EffectRequestState :=
  records.effectRequests.find? (fun item => item.request.id = requestId)

def backlogEffectById (records : EffectRecords) (effectId : String) : Option BacklogEffect :=
  records.backlogEffects.find? (fun effect => effect.id = effectId)

def stepPlanById (records : EffectRecords) (planId : String) : Option StepPlan :=
  records.stepPlans.find? (fun plan => plan.id = planId)

def attempts (records : EffectRecords) : List AttemptState := records.effectRequests.flatMap (·.attempts)

def decodeOutcomes (records : EffectRecords) : List DecodeOutcome :=
  records.effectRequests.flatMap (·.decodeOutcomes)

def capturedReturns (records : EffectRecords) : List ExternalReturn :=
  records.effectRequests.flatMap EffectRequestState.capturedReturns

def capturedExternalReturnIds (records : EffectRecords) : List String :=
  records.capturedReturns.map ExternalReturn.id

def recordedDecodeOutcomeIds (records : EffectRecords) : List String :=
  records.decodeOutcomes.map DecodeOutcome.id

end EffectRecords

namespace ClaimRecords

def claimById (records : ClaimRecords) (claimId : String) : Option Claim :=
  records.claims.find? (fun claim => claim.id = claimId)

def obligationById (records : ClaimRecords) (obligationId : String) : Option Obligation :=
  records.obligations.find? (fun obligation => obligation.id = obligationId)

/-- The last disposition of an obligation decides its status; without one the record's own status does. -/
def currentObligationStatus (records : ClaimRecords) (obligationId : String) : Option ObligationStatus :=
  (records.obligationById obligationId).map (fun obligation =>
    match (records.obligationDispositions.filter (fun item => item.obligationId = obligationId)).getLast? with
    | some disposition => disposition.status
    | none => obligation.status)

def latestGuardChange (records : ClaimRecords) (conditionId : String) : Option GuardChange :=
  (records.guardChanges.filter (fun item => item.conditionId = conditionId)).getLast?

/-- The conditions whose last recorded change leaves them standing. -/
def standingContextIds (records : ClaimRecords) : List String :=
  (records.guardChanges.map GuardChange.conditionId).dedup.filter (fun conditionId =>
    (indexBy GuardChange.conditionId records.guardChanges conditionId).any (fun change => change.standing = .standing))

theorem mem_standingContextIds {records : ClaimRecords} {conditionId : String} :
    conditionId ∈ records.standingContextIds ↔ ∃ change,
      indexBy GuardChange.conditionId records.guardChanges conditionId = some change ∧ change.standing = .standing := by
  simp only [standingContextIds, List.mem_filter, List.mem_dedup, Option.any_eq_true, decide_eq_true_eq]
  constructor
  · exact And.right
  · rintro ⟨change, hit, standing⟩
    refine ⟨?_, change, hit, standing⟩
    rw [← indexBy_isSome_iff, hit]
    rfl

end ClaimRecords

namespace WarrantRecords

def nogoodById (records : WarrantRecords) (nogoodId : String) : Option Nogood :=
  records.nogoods.find? (fun nogood => nogood.id = nogoodId)

def supportRoutes (records : WarrantRecords) : List SupportRoute :=
  records.lemmaSupports.flatMap LemmaSupport.allSupportRoutes

def supportRouteById (records : WarrantRecords) (routeId : String) : Option SupportRoute :=
  records.supportRoutes.find? (fun route => route.id = routeId)

def latestSupportRouteStandingChange (records : WarrantRecords) (routeId : String) :
    Option SupportRouteStandingChange :=
  (records.supportRouteStandingChanges.filter (fun change => change.supportRouteId = routeId)).getLast?

def latestNogoodStandingChange (records : WarrantRecords) (nogoodId : String) : Option NogoodStandingChange :=
  (records.nogoodStandingChanges.filter (fun change => change.nogoodId = nogoodId)).getLast?

def evidenceById (records : WarrantRecords) (evidenceId : String) : Option Evidence :=
  records.evidenceRecords.find? (fun evidence => evidence.id = evidenceId)

def warrantDecisionById (records : WarrantRecords) (decisionId : String) : Option WarrantDecisionRecord :=
  records.warrantDecisions.find? (fun decision => decision.id = decisionId)

def checkerVerdictById (records : WarrantRecords) (verdictId : String) : Option CheckerVerdictRecord :=
  records.checkerVerdicts.find? (fun verdict => verdict.id = verdictId)

/-- Each version joined with its support. The aggregate check requires a support for every version. -/
def warrantedLemmas (records : WarrantRecords) : List WarrantedLemma :=
  records.lemmaVersions.filterMap (fun version =>
    (indexBy LemmaSupport.lemmaVersionId records.lemmaSupports version.id).map (fun support => ⟨version, support⟩))

theorem mem_warrantedLemmas {records : WarrantRecords} {warranted : WarrantedLemma}
    (member : warranted ∈ records.warrantedLemmas) :
    warranted.version ∈ records.lemmaVersions ∧ warranted.support ∈ records.lemmaSupports ∧
      warranted.support.lemmaVersionId = warranted.version.id := by
  simp only [warrantedLemmas, List.mem_filterMap, Option.map_eq_some_iff] at member
  obtain ⟨version, owned, support, hit, rfl⟩ := member
  exact ⟨owned, indexBy_some hit⟩

def checkRecords (records : WarrantRecords) (context : InquiryContext) : CheckRecords where
  evidenceRecords := records.evidenceRecords
  checkerVerdicts := records.checkerVerdicts
  authorizedCheckerIds := context.dischargeMechanismIds

end WarrantRecords

/-- The exact current pins for the rebuildable active-theory view. -/
def theorySelector (context : InquiryContext) (claims : ClaimRecords) : TheorySelector where
  scopeFingerprint := context.scopeFingerprint
  bindingRevision := context.bindingRevision
  finiteUniverseHash := context.finiteUniverseHash
  policyVersion := context.warrantPolicyVersion
  currentAssumptionIds := sortedIds context.assumptionIds
  currentContextIds := sortedIds claims.standingContextIds

/-- The active lemmas, derived solely from records owned by the aggregate. -/
def InquiryState.activeTheory [Fingerprints] (state : InquiryState) : List ActiveLemmaView :=
  match state.context with
  | none => []
  | some context =>
    selectActiveTheory state.warrantedLemmas (theorySelector context state.toClaimRecords) state.nogoods
      state.supportRouteStandingChanges state.nogoodStandingChanges (state.checkRecords context)

/-- The views of the current theory, with the records they are computed from. -/
theorem activeTheory_shows [Fingerprints] {state : InquiryState} {view : ActiveLemmaView} (active : view ∈ state.activeTheory) :
    ∃ context, state.context = some context ∧ ∃ warranted ∈ state.warrantedLemmas,
      view.Shows warranted (theorySelector context state.toClaimRecords)
        (selectedNogoods state.nogoods (theorySelector context state.toClaimRecords) state.nogoodStandingChanges)
        state.supportRouteStandingChanges (state.checkRecords context)
        (theoryGrounded state.warrantedLemmas (theorySelector context state.toClaimRecords) state.nogoods
          state.supportRouteStandingChanges state.nogoodStandingChanges (state.checkRecords context)) := by
  unfold InquiryState.activeTheory at active
  split at active
  next => simp at active
  next context pinned => exact ⟨context, pinned, selectActiveTheory_shows active⟩

/-- Licensed applications joined with what they apply. An application without its license or its contract has
no view, and it has capabilities only where a retention capability is linked to it. -/
def CompressionRecords.retainedStateViews (records : CompressionRecords) : List RetainedStateView :=
  (records.compressionApplications.filterMap (fun application =>
    (indexBy ExactCompressionLicense.id records.exactCompressionLicenses application.licenseId).bind (fun license =>
      (indexBy CompressionContract.id records.compressionContracts license.contractId).map (fun contract =>
        { compressionApplicationId := application.id
          contractId := contract.id
          licenseId := license.id
          sourceCarrierId := contract.sourceCarrierId
          targetCarrierId := contract.targetCarrier.id
          retainedStateArtifact := application.retainedStateArtifact
          capabilityIds := sortedIds
            ((records.retentionCapabilityLinks.filter (fun link =>
              link.compressionApplicationId = application.id)).flatMap (fun _ =>
                license.grantedCapabilityIds)).dedup : RetainedStateView })))).insertionSort
    (fun left right => left.compressionApplicationId ≤ right.compressionApplicationId)

def ProbeRecords.cognitivePlanById (records : ProbeRecords) (planId : String) : Option CognitiveAttemptPlan :=
  records.cognitivePlans.find? (fun plan => plan.id = planId)

end RatchetingInquiry
