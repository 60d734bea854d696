import RatchetingInquiry.Core.State

/-! Typed commands accepted by the pure transition core, and the immutable facts it emits, grouped by
the area that owns the records they concern. -/

namespace RatchetingInquiry

inductive EffectCommand where
  | recordBacklogEffect (effect : BacklogEffect)
  | recordStepPlan (plan : StepPlan)
  | requestEffect (request : EffectRequest)
  | planEffectAttempt (plan : EffectAttemptPlan)
  | startEffectAttempt (attemptId : String)
  | recordNoAttemptDisposition (disposition : NoAttemptDisposition)
  | recordAttemptOutcome (requestId : String) (outcome : AttemptOutcome)
  | recordDecodeOutcome (requestId : String) (outcome : DecodeOutcome)
  | acceptEffectResult (requestId decodedOutcomeId : String)
deriving DecidableEq

inductive ClaimCommand where
  | admitClaim (claim : Claim)
  | openObligation (obligation : Obligation)
  | recordObligationDisposition (disposition : ObligationDisposition)
  | recordCandidate (candidate : Candidate)
  | recordResidual (residual : Residual)
  | appendCorrection (correction : Correction)
  | changeGuardStanding (change : GuardChange)
deriving DecidableEq

/-- What `PromoteClaim` carries. -/
structure Promotion where
  promotionId : String
  lemmaId : String
  relationId : String
  propositionKind : PropositionKind
  scope : Scope
  applicability : Applicability
  supportRoutes : List SupportRoute
  warrantDecisionId : String
  provenanceRefs : List String
  sourceClaimIds : List String
  predecessorRefs : List String := []
deriving DecidableEq

/-- What `EvaluateWarrant` carries. -/
structure WarrantEvaluation where
  decisionId : String
  evidenceId : String
  checkerVerdictId : String
  propositionId : String
  propositionKind : PropositionKind
  scope : Scope
deriving DecidableEq

inductive WarrantCommand where
  | recordNogood (nogood : Nogood)
  | changeSupportRouteStanding (change : SupportRouteStandingChange)
  | changeNogoodStanding (change : NogoodStandingChange)
  | recordEvidence (evidence : Evidence)
  | recordCheckerVerdict (verdict : CheckerVerdictRecord)
  | evaluateWarrant (evaluation : WarrantEvaluation)
  | promoteClaim (promotion : Promotion)
deriving DecidableEq

inductive ProbeCommand where
  | admitProbe (probe : ProbeIdentity)
  | recordCognitivePlan (plan : CognitiveAttemptPlan)
  | sealPrediction (prediction : PredictionSeal)
  | recordProbeObservation (observation : ProbeEvent)
  | recordReconstruction (reconstruction : Reconstruction)
  | recordMismatch (mismatch : Mismatch)
  | commitSemanticDelta (delta : SemanticDelta)
deriving DecidableEq

inductive MemoryCommand where
  | registerRetentionPackage (registration : RetentionRegistration)
  | runRetrieval (resultId : String) (query : RetrievalQuery)
  | requestReacquisition (request : ReacquisitionRequest)
  | linkReacquisitionInquiry (link : ReacquisitionInquiryLink)
  | recordRecoveryObservation (observation : RecoveryObservation)
  | recordRecoveryComparison (comparison : RecoveryComparison)
deriving DecidableEq

inductive LearningCommand where
  | recordConsolidationCheckpoint (checkpoint : ConsolidationCheckpoint)
  | recordConsolidationCandidate (candidate : ConsolidationCandidate)
  | recordMemoryPatchCandidate (candidate : MemoryPatchCandidate)
  | recordReconsolidationLink (link : ReconsolidationLink)
  | recordSemanticFieldEvaluation (evaluation : SemanticFieldEvaluation) (overflowResidual : Option Residual)
  | recordRepresentationGap (gap : RepresentationGap)
  | recordLearnedProbeCandidate (candidate : LearnedProbeCandidate)
  | recordProbeEvaluation (evaluation : ProbeEvaluation)
  | recordProbeAdmissionDecision (decision : ProbeAdmissionDecision)
deriving DecidableEq

inductive CompressionCommand where
  | registerBindingCarrierManifest (manifest : BindingCarrierManifest)
  | recordRealizedHistoryDerivation (derivation : RealizedHistoryDerivation)
  | registerCompressionContract (contract : CompressionContract)
  | recordCompressionValidation (validation : CompressionValidation)
  | grantExactCompressionLicense (license : ExactCompressionLicense)
  | recordCompressionApplication (application : CompressionApplication) (pathResidues : List PathResidue)
  | grantRecoveryLicense (license : RecoveryLicense)
  | linkRetentionCapability (link : RetentionCapabilityLink)
  | decideRepresentationSuccessor (decision : RepresentationSuccessorDecision)
  | reopenRepresentation (reopening : RepresentationReopening)
deriving DecidableEq

inductive ProjectCommand where
  | recordProjectAnchor (anchor : ProjectAnchor)
  | recordCapabilityLimitation (limitation : CapabilityLimitation)
  | recordQuestionContractCandidate (candidate : QuestionContractCandidate)
  | decideQuestionRepertoire (decision : QuestionRepertoireDecision)
  | recordMethodBindingCandidate (candidate : MethodBindingCandidate)
  | decideMethodAdmission (decision : MethodAdmissionDecision)
  | recordCapabilitySuccessorCandidate (candidate : CapabilitySuccessorCandidate)
  | recordCapabilityFrontier (frontier : CapabilityFrontier)
  | recordImplementationGoalCandidate (candidate : ImplementationGoalCandidate)
  | decideGoalAdmission (decision : GoalAdmissionDecision)
  | sealImplementationGoal (goal : ImplementationGoalContract)
  | recordCandidateEnvironment (manifest : CandidateEnvironmentManifest)
  | recordDevelopmentEvidence (evidence : DevelopmentEvidence)
  | recordIndependentReview (review : IndependentReview)
  | decideProjectSuccessor (decision : ProjectSuccessorDecision)
  | recordPromotionDecision (decision : PromotionDecision)
  | recordRecursiveCycleCheckpoint (checkpoint : RecursiveCycleCheckpoint)
  | recordRecursiveStopDisposition (disposition : RecursiveStopDisposition)
deriving DecidableEq

inductive CommandBody where
  | startInquiry (manifestArtifact : ArtifactRef) (policyVersion : String) (context : InquiryContext)
  | effect (command : EffectCommand)
  | claim (command : ClaimCommand)
  | warrant (command : WarrantCommand)
  | probe (command : ProbeCommand)
  | memory (command : MemoryCommand)
  | learning (command : LearningCommand)
  | compression (command : CompressionCommand)
  | project (command : ProjectCommand)
deriving DecidableEq

/-- A command carries the facts of the event that it may emit. -/
structure DomainCommand where
  head : EventMetadata
  body : CommandBody
deriving DecidableEq

inductive EffectEvent where
  | backlogEffectRecorded (effect : BacklogEffect)
  | stepPlanRecorded (plan : StepPlan)
  | effectRequested (request : EffectRequest)
  | effectAttemptPlanned (plan : EffectAttemptPlan)
  | effectAttemptStarted (attemptId : String)
  | effectNoAttemptDispositionRecorded (disposition : NoAttemptDisposition)
  | effectAttemptOutcomeRecorded (requestId : String) (outcome : AttemptOutcome)
  | effectDecodeOutcomeRecorded (requestId : String) (outcome : DecodeOutcome)
  | effectResultAccepted (requestId decodedOutcomeId : String)
deriving DecidableEq

inductive ClaimEvent where
  | claimAdmitted (claim : Claim) (derivedConflicts : List Conflict) (derivedObligations : List Obligation)
  | obligationOpened (obligation : Obligation)
  | obligationDispositionRecorded (disposition : ObligationDisposition)
  | candidateRecorded (candidate : Candidate)
  | residualRecorded (residual : Residual)
  | correctionAppended (correction : Correction)
  | guardStandingChanged (change : GuardChange)
deriving DecidableEq

inductive WarrantEvent where
  | nogoodRecorded (nogood : Nogood)
  | supportRouteStandingChanged (change : SupportRouteStandingChange)
  | nogoodStandingChanged (change : NogoodStandingChange)
  | evidenceRecorded (evidence : Evidence)
  | checkerVerdictRecorded (verdict : CheckerVerdictRecord)
  | warrantDecisionRecorded (scope : Scope) (decision : WarrantDecisionRecord)
  | lemmaPromoted (version : LemmaVersion) (support : LemmaSupport) (link : PromotionLink)
deriving DecidableEq

inductive ProbeDomainEvent where
  | probeAdmitted (probe : ProbeIdentity)
  | cognitivePlanRecorded (plan : CognitiveAttemptPlan)
  | predictionSealed (prediction : PredictionSeal)
  | probeObservationRecorded (observation : ProbeEvent)
  | reconstructionRecorded (reconstruction : Reconstruction)
  | mismatchRecorded (mismatch : Mismatch)
  | semanticDeltaCommitted (delta : SemanticDelta)
deriving DecidableEq

inductive MemoryEvent where
  | retentionPackageRegistered (registration : RetentionRegistration)
  | retrievalCompleted (policy : StructuralRetrievalPolicy) (query : RetrievalQuery) (result : RetrievalResult)
  | reacquisitionRequested (request : ReacquisitionRequest)
  | reacquisitionInquiryLinked (link : ReacquisitionInquiryLink)
  | recoveryObservationRecorded (observation : RecoveryObservation)
  | recoveryComparisonRecorded (comparison : RecoveryComparison)
deriving DecidableEq

inductive LearningEvent where
  | consolidationCheckpointRecorded (checkpoint : ConsolidationCheckpoint)
  | consolidationCandidateRecorded (candidate : ConsolidationCandidate)
  | memoryPatchCandidateRecorded (candidate : MemoryPatchCandidate)
  | reconsolidationLinked (link : ReconsolidationLink)
  | semanticFieldEvaluationRecorded (evaluation : SemanticFieldEvaluation) (overflowResidual : Option Residual)
  | representationGapRecorded (gap : RepresentationGap)
  | learnedProbeCandidateRecorded (candidate : LearnedProbeCandidate)
  | probeEvaluationRecorded (evaluation : ProbeEvaluation)
  | probeAdmissionDecisionRecorded (decision : ProbeAdmissionDecision)
deriving DecidableEq

inductive CompressionEvent where
  | bindingCarrierManifestRegistered (manifest : BindingCarrierManifest)
  | realizedHistoryDerivationRecorded (derivation : RealizedHistoryDerivation)
  | compressionContractRegistered (contract : CompressionContract)
  | compressionValidationRecorded (validation : CompressionValidation)
  | exactCompressionLicenseGranted (license : ExactCompressionLicense)
  | compressionApplicationRecorded (application : CompressionApplication) (pathResidues : List PathResidue)
  | recoveryLicenseGranted (license : RecoveryLicense)
  | retentionCapabilityLinked (link : RetentionCapabilityLink)
  | representationSuccessorDecided (decision : RepresentationSuccessorDecision)
  | representationReopened (reopening : RepresentationReopening)
deriving DecidableEq

inductive ProjectEvent where
  | projectAnchorRecorded (anchor : ProjectAnchor)
  | capabilityLimitationRecorded (limitation : CapabilityLimitation)
  | questionContractCandidateRecorded (candidate : QuestionContractCandidate)
  | questionRepertoireDecided (decision : QuestionRepertoireDecision)
  | methodBindingCandidateRecorded (candidate : MethodBindingCandidate)
  | methodAdmissionDecided (decision : MethodAdmissionDecision)
  | capabilitySuccessorCandidateRecorded (candidate : CapabilitySuccessorCandidate)
  | capabilityFrontierRecorded (frontier : CapabilityFrontier)
  | implementationGoalCandidateRecorded (candidate : ImplementationGoalCandidate)
  | goalAdmissionDecided (decision : GoalAdmissionDecision)
  | implementationGoalSealed (goal : ImplementationGoalContract)
  | candidateEnvironmentRecorded (manifest : CandidateEnvironmentManifest)
  | developmentEvidenceRecorded (evidence : DevelopmentEvidence)
  | independentReviewRecorded (review : IndependentReview)
  | projectSuccessorDecided (decision : ProjectSuccessorDecision)
  | promotionDecisionRecorded (decision : PromotionDecision)
  | recursiveCycleCheckpointRecorded (checkpoint : RecursiveCycleCheckpoint)
  | recursiveStopDispositionRecorded (disposition : RecursiveStopDisposition)
deriving DecidableEq

inductive EventBody where
  | inquiryStarted (manifestArtifact : ArtifactRef) (policyVersion : String) (context : InquiryContext)
  | effect (event : EffectEvent)
  | claim (event : ClaimEvent)
  | warrant (event : WarrantEvent)
  | probe (event : ProbeDomainEvent)
  | memory (event : MemoryEvent)
  | learning (event : LearningEvent)
  | compression (event : CompressionEvent)
  | project (event : ProjectEvent)
deriving DecidableEq

structure DomainEvent where
  head : EventMetadata
  body : EventBody
deriving DecidableEq

/-- The facts that carry JSON are compared as the source compares records; all others exactly. -/
def ClaimEvent.same : ClaimEvent → ClaimEvent → Bool
  | .claimAdmitted claim conflicts obligations, .claimAdmitted claim' conflicts' obligations' =>
    RecordEq.same claim claim' && conflicts = conflicts' && RecordEq.same obligations obligations'
  | .obligationOpened obligation, .obligationOpened obligation' => RecordEq.same obligation obligation'
  | .candidateRecorded candidate, .candidateRecorded candidate' => RecordEq.same candidate candidate'
  | .residualRecorded residual, .residualRecorded residual' => RecordEq.same residual residual'
  | left, right => left = right

def ProbeDomainEvent.same : ProbeDomainEvent → ProbeDomainEvent → Bool
  | .predictionSealed prediction, .predictionSealed prediction' => RecordEq.same prediction prediction'
  | .probeObservationRecorded observation, .probeObservationRecorded observation' =>
    RecordEq.same observation observation'
  | left, right => left = right

def LearningEvent.same : LearningEvent → LearningEvent → Bool
  | .semanticFieldEvaluationRecorded evaluation residual, .semanticFieldEvaluationRecorded evaluation' residual' =>
    evaluation = evaluation' && RecordEq.same residual.toList residual'.toList
  | .learnedProbeCandidateRecorded candidate, .learnedProbeCandidateRecorded candidate' =>
    RecordEq.same candidate candidate'
  | left, right => left = right

def EventBody.same : EventBody → EventBody → Bool
  | .claim left, .claim right => left.same right
  | .probe left, .probe right => left.same right
  | .learning left, .learning right => left.same right
  | left, right => left = right

theorem EventBody.same_refl (body : EventBody) : body.same body = true := by
  cases body with
  | claim event => cases event <;> simp [EventBody.same, ClaimEvent.same, RecordEq.same_refl]
  | probe event => cases event <;> simp [EventBody.same, ProbeDomainEvent.same, RecordEq.same_refl]
  | learning event => cases event <;> simp [EventBody.same, LearningEvent.same, RecordEq.same_refl]
  | _ => simp [EventBody.same]

instance : RecordEq DomainEvent where
  same left right := left.head = right.head && left.body.same right.body
  same_refl event := by simp [EventBody.same_refl]

end RatchetingInquiry
