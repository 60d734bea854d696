import RatchetingInquiry.Core.Commands

/-! What each event adds to the records of its area, and the command that it is checked against. -/

namespace RatchetingInquiry

/-- The command that a claim event is checked against. -/
def ClaimEvent.command : ClaimEvent → ClaimCommand
  | .claimAdmitted claim _ _ => .admitClaim claim
  | .obligationOpened obligation => .openObligation obligation
  | .obligationDispositionRecorded disposition => .recordObligationDisposition disposition
  | .candidateRecorded candidate => .recordCandidate candidate
  | .residualRecorded residual => .recordResidual residual
  | .correctionAppended correction => .appendCorrection correction
  | .guardStandingChanged change => .changeGuardStanding change

def ClaimRecords.apply (records : ClaimRecords) : ClaimEvent → ClaimRecords
  | .claimAdmitted claim derivedConflicts derivedObligations => { records with
      claims := records.claims ++ [claim]
      conflicts := records.conflicts ++ derivedConflicts
      obligations := records.obligations ++ derivedObligations }
  | .obligationOpened obligation => { records with obligations := records.obligations ++ [obligation] }
  | .obligationDispositionRecorded disposition => { records with
      obligationDispositions := records.obligationDispositions ++ [disposition] }
  | .candidateRecorded candidate => { records with candidates := records.candidates ++ [candidate] }
  | .residualRecorded residual => { records with residuals := records.residuals ++ [residual] }
  | .correctionAppended correction => { records with corrections := records.corrections ++ [correction] }
  | .guardStandingChanged change => { records with guardChanges := records.guardChanges ++ [change] }

/-- A promotion is rebuilt from the records that it created; its routes come back in canonical order. -/
def rebuiltPromotion (version : LemmaVersion) (support : LemmaSupport) (link : PromotionLink) : Promotion where
  promotionId := link.id
  lemmaId := version.id
  relationId := version.relationId
  propositionKind := version.propositionKind
  scope := version.scope
  applicability := version.applicability
  supportRoutes := support.allSupportRoutes
  warrantDecisionId := link.warrantDecisionId
  provenanceRefs := support.provenanceRefs
  sourceClaimIds := version.sourceClaimIds
  predecessorRefs := version.predecessorRefs

def WarrantEvent.command : WarrantEvent → WarrantCommand
  | .nogoodRecorded nogood => .recordNogood nogood
  | .supportRouteStandingChanged change => .changeSupportRouteStanding change
  | .nogoodStandingChanged change => .changeNogoodStanding change
  | .evidenceRecorded evidence => .recordEvidence evidence
  | .checkerVerdictRecorded verdict => .recordCheckerVerdict verdict
  | .warrantDecisionRecorded scope decision => .evaluateWarrant {
      decisionId := decision.id
      evidenceId := decision.evidenceId
      checkerVerdictId := decision.checkerVerdictId
      propositionId := decision.propositionId
      propositionKind := decision.propositionKind
      scope := scope }
  | .lemmaPromoted version support link => .promoteClaim (rebuiltPromotion version support link)

def WarrantRecords.apply (records : WarrantRecords) : WarrantEvent → WarrantRecords
  | .nogoodRecorded nogood => { records with nogoods := records.nogoods ++ [nogood] }
  | .supportRouteStandingChanged change => { records with
      supportRouteStandingChanges := records.supportRouteStandingChanges ++ [change] }
  | .nogoodStandingChanged change => { records with
      nogoodStandingChanges := records.nogoodStandingChanges ++ [change] }
  | .evidenceRecorded evidence => { records with evidenceRecords := records.evidenceRecords ++ [evidence] }
  | .checkerVerdictRecorded verdict => { records with checkerVerdicts := records.checkerVerdicts ++ [verdict] }
  | .warrantDecisionRecorded _ decision => { records with
      warrantDecisions := records.warrantDecisions ++ [decision] }
  | .lemmaPromoted version support link => { records with
      lemmaVersions := records.lemmaVersions ++ [version]
      lemmaSupports := records.lemmaSupports ++ [support]
      promotionLinks := records.promotionLinks ++ [link] }

def ProbeDomainEvent.command : ProbeDomainEvent → ProbeCommand
  | .probeAdmitted probe => .admitProbe probe
  | .cognitivePlanRecorded plan => .recordCognitivePlan plan
  | .predictionSealed prediction => .sealPrediction prediction
  | .probeObservationRecorded observation => .recordProbeObservation observation
  | .reconstructionRecorded reconstruction => .recordReconstruction reconstruction
  | .mismatchRecorded mismatch => .recordMismatch mismatch
  | .semanticDeltaCommitted delta => .commitSemanticDelta delta

def ProbeRecords.apply (records : ProbeRecords) : ProbeDomainEvent → ProbeRecords
  | .probeAdmitted probe => { records with admittedProbes := records.admittedProbes ++ [probe] }
  | .cognitivePlanRecorded plan => { records with cognitivePlans := records.cognitivePlans ++ [plan] }
  | .predictionSealed prediction => { records with predictions := records.predictions ++ [prediction] }
  | .probeObservationRecorded observation => { records with
      probeObservations := records.probeObservations ++ [observation] }
  | .reconstructionRecorded reconstruction => { records with
      reconstructions := records.reconstructions ++ [reconstruction] }
  | .mismatchRecorded mismatch => { records with mismatches := records.mismatches ++ [mismatch] }
  | .semanticDeltaCommitted delta => { records with semanticDeltas := records.semanticDeltas ++ [delta] }

def MemoryEvent.command : MemoryEvent → MemoryCommand
  | .retentionPackageRegistered registration => .registerRetentionPackage registration
  | .retrievalCompleted _ query result => .runRetrieval result.id query
  | .reacquisitionRequested request => .requestReacquisition request
  | .reacquisitionInquiryLinked link => .linkReacquisitionInquiry link
  | .recoveryObservationRecorded observation => .recordRecoveryObservation observation
  | .recoveryComparisonRecorded comparison => .recordRecoveryComparison comparison

def RetentionRecords.register (records : RetentionRecords) (registration : RetentionRegistration) :
    RetentionRecords where
  directUseRoutes := records.directUseRoutes ++ registration.directUseRoutes
  reconstructionRoutes := records.reconstructionRoutes ++ registration.reconstructionRoutes
  consequenceEvaluationRoutes := records.consequenceEvaluationRoutes ++ registration.consequenceEvaluationRoutes
  reacquisitionRoutes := records.reacquisitionRoutes ++ registration.reacquisitionRoutes
  reacquisitionScaffolds := records.reacquisitionScaffolds ++ registration.scaffolds
  recoveryProtocols := records.recoveryProtocols ++ registration.recoveryProtocols
  retentionPackages := records.retentionPackages ++ [registration.package]

/-- Every completed retrieval stores a snapshot of its policy. -/
def RetrievalRecords.complete (records : RetrievalRecords) (policy : StructuralRetrievalPolicy)
    (query : RetrievalQuery) (result : RetrievalResult) : RetrievalRecords where
  retrievalPolicies := records.retrievalPolicies ++ [policy]
  retrievalQueries := records.retrievalQueries ++ [query]
  retrievalResults := records.retrievalResults ++ [result]

def InquiryState.applyMemory (state : InquiryState) : MemoryEvent → InquiryState
  | .retentionPackageRegistered registration => { state with
      toRetentionRecords := state.toRetentionRecords.register registration }
  | .retrievalCompleted policy query result => { state with
      toRetrievalRecords := state.toRetrievalRecords.complete policy query result }
  | .reacquisitionRequested request => { state with
      reacquisitionRequests := state.reacquisitionRequests ++ [request] }
  | .reacquisitionInquiryLinked link => { state with
      reacquisitionInquiryLinks := state.reacquisitionInquiryLinks ++ [link] }
  | .recoveryObservationRecorded observation => { state with
      recoveryObservations := state.recoveryObservations ++ [observation] }
  | .recoveryComparisonRecorded comparison => { state with
      recoveryComparisons := state.recoveryComparisons ++ [comparison] }

def LearningEvent.command : LearningEvent → LearningCommand
  | .consolidationCheckpointRecorded checkpoint => .recordConsolidationCheckpoint checkpoint
  | .consolidationCandidateRecorded candidate => .recordConsolidationCandidate candidate
  | .memoryPatchCandidateRecorded candidate => .recordMemoryPatchCandidate candidate
  | .reconsolidationLinked link => .recordReconsolidationLink link
  | .semanticFieldEvaluationRecorded evaluation residual => .recordSemanticFieldEvaluation evaluation residual
  | .representationGapRecorded gap => .recordRepresentationGap gap
  | .learnedProbeCandidateRecorded candidate => .recordLearnedProbeCandidate candidate
  | .probeEvaluationRecorded evaluation => .recordProbeEvaluation evaluation
  | .probeAdmissionDecisionRecorded decision => .recordProbeAdmissionDecision decision

def LearningRecords.apply (records : LearningRecords) : LearningEvent → LearningRecords
  | .consolidationCheckpointRecorded checkpoint => { records with
      consolidationCheckpoints := records.consolidationCheckpoints ++ [checkpoint] }
  | .consolidationCandidateRecorded candidate => { records with
      consolidationCandidates := records.consolidationCandidates ++ [candidate] }
  | .memoryPatchCandidateRecorded candidate => { records with
      memoryPatchCandidates := records.memoryPatchCandidates ++ [candidate] }
  | .reconsolidationLinked link => { records with reconsolidationLinks := records.reconsolidationLinks ++ [link] }
  | .semanticFieldEvaluationRecorded evaluation _ => { records with
      semanticFieldEvaluations := records.semanticFieldEvaluations ++ [evaluation] }
  | .representationGapRecorded gap => { records with representationGaps := records.representationGaps ++ [gap] }
  | .learnedProbeCandidateRecorded candidate => { records with
      learnedProbeCandidates := records.learnedProbeCandidates ++ [candidate] }
  | .probeEvaluationRecorded evaluation => { records with
      probeEvaluations := records.probeEvaluations ++ [evaluation] }
  | .probeAdmissionDecisionRecorded decision => { records with
      probeAdmissionDecisions := records.probeAdmissionDecisions ++ [decision] }

/-- The probe that an admission brings in, if it admits one. -/
def ProbeAdmissionDecision.admittedProbe (decision : ProbeAdmissionDecision) (learning : LearningRecords) :
    Option ProbeIdentity :=
  if decision.outcome = .admitted then
    (learning.learnedProbeCandidates.find? (fun item => item.id = decision.candidateProbeId)).map (·.probeIdentity)
  else none

/-- Learning events own their records. A field evaluation also leaves its overflow residual, and an
admission its probe. -/
def InquiryState.applyLearning (state : InquiryState) (event : LearningEvent) : InquiryState :=
  match event with
  | .semanticFieldEvaluationRecorded _ residual => { state with
      toLearningRecords := state.toLearningRecords.apply event
      residuals := state.residuals ++ residual.toList }
  | .probeAdmissionDecisionRecorded decision => { state with
      toLearningRecords := state.toLearningRecords.apply event
      admittedProbes := state.admittedProbes ++ (decision.admittedProbe state.toLearningRecords).toList }
  | _ => { state with toLearningRecords := state.toLearningRecords.apply event }

def CompressionEvent.command : CompressionEvent → CompressionCommand
  | .bindingCarrierManifestRegistered manifest => .registerBindingCarrierManifest manifest
  | .realizedHistoryDerivationRecorded derivation => .recordRealizedHistoryDerivation derivation
  | .compressionContractRegistered contract => .registerCompressionContract contract
  | .compressionValidationRecorded validation => .recordCompressionValidation validation
  | .exactCompressionLicenseGranted license => .grantExactCompressionLicense license
  | .compressionApplicationRecorded application residues => .recordCompressionApplication application residues
  | .recoveryLicenseGranted license => .grantRecoveryLicense license
  | .retentionCapabilityLinked link => .linkRetentionCapability link
  | .representationSuccessorDecided decision => .decideRepresentationSuccessor decision
  | .representationReopened reopening => .reopenRepresentation reopening

def CompressionRecords.apply (records : CompressionRecords) : CompressionEvent → CompressionRecords
  | .bindingCarrierManifestRegistered manifest => { records with
      bindingCarrierManifests := records.bindingCarrierManifests ++ [manifest] }
  | .realizedHistoryDerivationRecorded derivation => { records with
      realizedHistoryDerivations := records.realizedHistoryDerivations ++ [derivation] }
  | .compressionContractRegistered contract => { records with
      compressionContracts := records.compressionContracts ++ [contract] }
  | .compressionValidationRecorded validation => { records with
      compressionValidations := records.compressionValidations ++ [validation] }
  | .exactCompressionLicenseGranted license => { records with
      exactCompressionLicenses := records.exactCompressionLicenses ++ [license] }
  | .compressionApplicationRecorded application residues => { records with
      pathResidues := records.pathResidues ++ residues
      compressionApplications := records.compressionApplications ++ [application] }
  | .recoveryLicenseGranted license => { records with recoveryLicenses := records.recoveryLicenses ++ [license] }
  | .retentionCapabilityLinked link => { records with
      retentionCapabilityLinks := records.retentionCapabilityLinks ++ [link] }
  | .representationSuccessorDecided decision => { records with
      representationSuccessorDecisions := records.representationSuccessorDecisions ++ [decision] }
  | .representationReopened reopening => { records with
      representationReopenings := records.representationReopenings ++ [reopening] }

def ProjectEvent.command : ProjectEvent → ProjectCommand
  | .projectAnchorRecorded anchor => .recordProjectAnchor anchor
  | .capabilityLimitationRecorded limitation => .recordCapabilityLimitation limitation
  | .questionContractCandidateRecorded candidate => .recordQuestionContractCandidate candidate
  | .questionRepertoireDecided decision => .decideQuestionRepertoire decision
  | .methodBindingCandidateRecorded candidate => .recordMethodBindingCandidate candidate
  | .methodAdmissionDecided decision => .decideMethodAdmission decision
  | .capabilitySuccessorCandidateRecorded candidate => .recordCapabilitySuccessorCandidate candidate
  | .capabilityFrontierRecorded frontier => .recordCapabilityFrontier frontier
  | .implementationGoalCandidateRecorded candidate => .recordImplementationGoalCandidate candidate
  | .goalAdmissionDecided decision => .decideGoalAdmission decision
  | .implementationGoalSealed goal => .sealImplementationGoal goal
  | .candidateEnvironmentRecorded manifest => .recordCandidateEnvironment manifest
  | .developmentEvidenceRecorded evidence => .recordDevelopmentEvidence evidence
  | .independentReviewRecorded review => .recordIndependentReview review
  | .projectSuccessorDecided decision => .decideProjectSuccessor decision
  | .promotionDecisionRecorded decision => .recordPromotionDecision decision
  | .recursiveCycleCheckpointRecorded checkpoint => .recordRecursiveCycleCheckpoint checkpoint
  | .recursiveStopDispositionRecorded disposition => .recordRecursiveStopDisposition disposition

def ProjectRecords.apply (records : ProjectRecords) : ProjectEvent → ProjectRecords
  | .projectAnchorRecorded anchor => { records with projectAnchors := records.projectAnchors ++ [anchor] }
  | .capabilityLimitationRecorded limitation => { records with
      capabilityLimitations := records.capabilityLimitations ++ [limitation] }
  | .questionContractCandidateRecorded candidate => { records with
      questionContractCandidates := records.questionContractCandidates ++ [candidate] }
  | .questionRepertoireDecided decision => { records with
      questionRepertoireDecisions := records.questionRepertoireDecisions ++ [decision] }
  | .methodBindingCandidateRecorded candidate => { records with
      methodBindingCandidates := records.methodBindingCandidates ++ [candidate] }
  | .methodAdmissionDecided decision => { records with
      methodAdmissionDecisions := records.methodAdmissionDecisions ++ [decision] }
  | .capabilitySuccessorCandidateRecorded candidate => { records with
      capabilitySuccessorCandidates := records.capabilitySuccessorCandidates ++ [candidate] }
  | .capabilityFrontierRecorded frontier => { records with
      capabilityFrontiers := records.capabilityFrontiers ++ [frontier] }
  | .implementationGoalCandidateRecorded candidate => { records with
      implementationGoalCandidates := records.implementationGoalCandidates ++ [candidate] }
  | .goalAdmissionDecided decision => { records with
      goalAdmissionDecisions := records.goalAdmissionDecisions ++ [decision] }
  | .implementationGoalSealed goal => { records with implementationGoals := records.implementationGoals ++ [goal] }
  | .candidateEnvironmentRecorded manifest => { records with
      candidateEnvironments := records.candidateEnvironments ++ [manifest] }
  | .developmentEvidenceRecorded evidence => { records with
      developmentEvidence := records.developmentEvidence ++ [evidence] }
  | .independentReviewRecorded review => { records with
      independentReviews := records.independentReviews ++ [review] }
  | .projectSuccessorDecided decision => { records with
      projectSuccessorDecisions := records.projectSuccessorDecisions ++ [decision] }
  | .promotionDecisionRecorded decision => { records with
      promotionDecisions := records.promotionDecisions ++ [decision] }
  | .recursiveCycleCheckpointRecorded checkpoint => { records with
      recursiveCycleCheckpoints := records.recursiveCycleCheckpoints ++ [checkpoint] }
  | .recursiveStopDispositionRecorded disposition => { records with
      recursiveStopDispositions := records.recursiveStopDispositions ++ [disposition] }

end RatchetingInquiry
