import RatchetingInquiry.Core.Validate.Memory

/-! The aggregate check of exact compression and of recursive inquiry into the repository. -/

namespace RatchetingInquiry

/-- The identity columns of the compression records. -/
def compressionIdentities (records : CompressionRecords) : List (List String) := [
  records.bindingCarrierManifests.map (·.id), records.realizedHistoryDerivations.map (·.id),
  records.compressionContracts.map (·.id), records.compressionValidations.map (·.id),
  records.exactCompressionLicenses.map (·.id), records.pathResidues.map (·.id),
  records.compressionApplications.map (·.id), records.recoveryLicenses.map (·.id),
  records.retentionCapabilityLinks.map (·.id), records.representationSuccessorDecisions.map (·.id),
  records.representationReopenings.map (·.id)]

def validateCompression (retention : RetentionRecords) (records : CompressionRecords) : Except Failure Unit := do
  let manifests := records.bindingCarrierManifests.map BindingCarrierManifest.id
  let contracts := records.compressionContracts.map CompressionContract.id
  let applications := records.compressionApplications.map CompressionApplication.id
  let packages := retention.retentionPackages.map RetentionPackage.id
  require (∀ identifiers ∈ compressionIdentities records, identifiers.Nodup)
    (.validation "G3A record identities must be unique within their owner")
  require (∀ contract ∈ records.compressionContracts, contract.carrierManifestId ∈ manifests)
    (.validation "compression contracts require an owned carrier manifest")
  require (∀ derivation ∈ records.realizedHistoryDerivations, derivation.carrierManifestId ∈ manifests)
    (.validation "history derivations require an owned carrier manifest")
  require (∀ validation ∈ records.compressionValidations, validation.contractId ∈ contracts)
    (.validation "compression validations require an owned contract")
  require (∀ license ∈ records.exactCompressionLicenses, license.contractId ∈ contracts ∧
      license.validationId ∈ records.compressionValidations.map CompressionValidation.id)
    (.validation "exact licenses require an owned contract and validation")
  require (∀ application ∈ records.compressionApplications,
      application.licenseId ∈ records.exactCompressionLicenses.map ExactCompressionLicense.id ∧
      application.sourceHistoryDerivationId ∈
        records.realizedHistoryDerivations.map RealizedHistoryDerivation.id ∧
      application.pathResidueIds ⊆ records.pathResidues.map PathResidue.id)
    (.validation "compression applications require owned license, history, and residue")
  require (∀ license ∈ records.recoveryLicenses, license.compressionApplicationId ∈ applications ∧
      license.retentionPackageId ∈ packages)
    (.validation "recovery licenses require owned application and package")
  require (∀ link ∈ records.retentionCapabilityLinks, link.compressionApplicationId ∈ applications ∧
      link.recoveryLicenseId ∈ records.recoveryLicenses.map RecoveryLicense.id ∧ link.retentionPackageId ∈ packages)
    (.validation "retention capability links require owned records")

/-- The identity columns of all project records, goal candidates and goal admissions included. -/
def projectIdentities (records : ProjectRecords) : List (List String) :=
  (projectReferents records).map Prod.snd ++
    [records.implementationGoalCandidates.map (·.id), records.goalAdmissionDecisions.map (·.id)]

namespace ProjectRecords

def evidenceIds (records : ProjectRecords) : List String := records.developmentEvidence.map DevelopmentEvidence.id

def goalIds (records : ProjectRecords) : List String :=
  records.implementationGoals.map ImplementationGoalContract.id

def candidateWithId (records : ProjectRecords) (candidateId : String) : Option CapabilitySuccessorCandidate :=
  indexBy CapabilitySuccessorCandidate.id records.capabilitySuccessorCandidates candidateId

def environmentWithId (records : ProjectRecords) (environmentId : String) : Option CandidateEnvironmentManifest :=
  indexBy CandidateEnvironmentManifest.id records.candidateEnvironments environmentId

def reviewWithId (records : ProjectRecords) (reviewId : String) : Option IndependentReview :=
  indexBy IndependentReview.id records.independentReviews reviewId

/-- The owned evidence among the given ids. -/
def evidenceAmong (records : ProjectRecords) (evidenceIds : List String) : List DevelopmentEvidence :=
  evidenceIds.filterMap records.evidenceWithId

/-- The evidence passed and exactly it was validly reviewed. -/
def reviewedAndPassing (records : ProjectRecords) (evidenceIds : List String) : Bool :=
  (records.evidenceAmong evidenceIds).all (fun item => item.outcome = .pass) &&
    records.independentReviews.any (fun review => review.outcome = .valid && review.evidenceIds = evidenceIds)

end ProjectRecords

def validateQuestionDecision (records : ProjectRecords) (decision : QuestionRepertoireDecision) :
    Except Failure Unit := do
  let candidate := indexBy QuestionContractCandidate.id records.questionContractCandidates decision.candidateId
  require (candidate.all (fun candidate => (records.evidenceAmong decision.evidenceIds).all
      (records.evidenceAddresses candidate.limitationId)))
    (.validation "question decision evidence must address its exact limitation")
  require (decision.outcome = .admitted → candidate.any (fun candidate =>
      candidate.contract.family = "recursive-project") ∧ records.reviewedAndPassing decision.evidenceIds)
    (.validation "question admission requires exact independently reviewed evidence")

/-- The adapter of an admitted method is a sealed goal for the method's own limitation. -/
def adapterGoalSealed (records : ProjectRecords) (candidate : MethodBindingCandidate)
    (decision : MethodAdmissionDecision) : Bool :=
  (decision.implementationGoalId.bind (fun goalId =>
    (indexBy ImplementationGoalContract.id records.implementationGoals goalId).bind (fun goal =>
      records.candidateWithId goal.candidateId))).any (fun successor => successor.limitationId = candidate.limitationId)

def validateMethodDecision (records : ProjectRecords) (decision : MethodAdmissionDecision) : Except Failure Unit := do
  let candidate := indexBy MethodBindingCandidate.id records.methodBindingCandidates decision.candidateId
  require (candidate.all (fun candidate => (records.evidenceAmong decision.evidenceIds).all
      (records.evidenceAddresses candidate.limitationId)))
    (.validation "method decision evidence must address its exact limitation")
  require (decision.outcome = .admitted → candidate.isSome ∧ records.reviewedAndPassing decision.evidenceIds)
    (.validation "method admission requires exact independently reviewed evidence")
  require (candidate.all (fun candidate => decision.outcome ≠ .admitted || !candidate.adapterRequired ||
      adapterGoalSealed records candidate decision))
    (.validation "method adapter admission requires an exact sealed Goal")

/-- The references of limitations, questions, methods, candidates and frontiers. -/
def validateRepertoire (records : ProjectRecords) : Except Failure Unit := do
  let anchorIds := records.projectAnchors.map ProjectAnchor.id
  let limitationIds := records.capabilityLimitations.map CapabilityLimitation.id
  require (∀ limitation ∈ records.capabilityLimitations, limitation.anchorId ∈ anchorIds)
    (.validation "project limitations require an owned project anchor")
  require (∀ candidate ∈ records.questionContractCandidates, candidate.limitationId ∈ limitationIds)
    (.validation "question candidates require an owned project limitation")
  require (∀ decision ∈ records.questionRepertoireDecisions,
      decision.candidateId ∈ records.questionContractCandidates.map QuestionContractCandidate.id ∧
      decision.evidenceIds ⊆ records.evidenceIds)
    (.validation "question decisions require owned candidates and evidence")
  records.questionRepertoireDecisions.forM (validateQuestionDecision records)
  require (∀ candidate ∈ records.methodBindingCandidates, candidate.limitationId ∈ limitationIds)
    (.validation "method candidates require an owned project limitation")
  require (∀ decision ∈ records.methodAdmissionDecisions,
      decision.candidateId ∈ records.methodBindingCandidates.map MethodBindingCandidate.id ∧
      decision.evidenceIds ⊆ records.evidenceIds ∧
      decision.implementationGoalId.all (fun goalId => goalId ∈ records.goalIds))
    (.validation "method decisions require owned candidates, evidence, and Goals")
  records.methodAdmissionDecisions.forM (validateMethodDecision records)
  require (∀ candidate ∈ records.capabilitySuccessorCandidates,
      candidate.anchorId ∈ anchorIds ∧ candidate.limitationId ∈ limitationIds)
    (.validation "project successor candidates require owned anchor and limitation")
  require (∀ frontier ∈ records.capabilityFrontiers, frontier.anchorId ∈ anchorIds ∧
      frontier.limitationId ∈ limitationIds ∧ ∀ candidateId ∈ frontier.candidateIds,
        (records.candidateWithId candidateId).any (fun candidate =>
          candidate.anchorId = frontier.anchorId && candidate.limitationId = frontier.limitationId))
    (.validation "project frontiers require owned anchors, limitations, and candidates")

section
variable [Fingerprints]

/-- The goal candidates recompile to themselves, and admissions and sealed goals agree with them. -/
def validateGoals (sources : GoalSources) : Except Failure Unit := do
  let records := sources.project
  require (∀ candidate ∈ records.implementationGoalCandidates,
      compileImplementationGoalCandidate sources candidate.sourceObligationId candidate.downstreamObligationId
        candidate.frontierId = .ok candidate)
    (.validation "implementation Goal candidate must equal pure compilation")
  require (records.goalAdmissionDecisions.map GoalAdmissionDecision.candidateId).Nodup
    (.validation "each Goal candidate permits one total admission decision")
  require (∀ decision ∈ records.goalAdmissionDecisions,
      (indexBy ImplementationGoalCandidate.id records.implementationGoalCandidates decision.candidateId).any
        decision.admits)
    (.validation "Goal admission requires its exact owned candidate and evidence")
  require (∀ goal ∈ records.implementationGoals, goal.anchorId ∈ records.projectAnchors.map ProjectAnchor.id ∧
      goal.candidateId ∈ records.capabilitySuccessorCandidates.map CapabilitySuccessorCandidate.id ∧
      (indexBy CapabilityFrontier.id records.capabilityFrontiers goal.frontierId).any (fun frontier =>
        frontier.anchorId = goal.anchorId && frontier.selectedDiscriminatorCandidateId = some goal.candidateId))
    (.validation "implementation goals require owned frontier inputs")
  require (∀ goal ∈ records.implementationGoals, generatedGoalAdmitted records goal)
    (.validation "generated implementation Goals require exact admission")

end

/-- The environments, evidence, reviews and decisions that follow a sealed goal. -/
def validateProofChain (records : ProjectRecords) : Except Failure Unit := do
  require (∀ environment ∈ records.candidateEnvironments,
      ((indexBy ImplementationGoalContract.id records.implementationGoals environment.goalId).bind (fun goal =>
        indexBy ProjectAnchor.id records.projectAnchors goal.anchorId)).any (fun anchor =>
          anchor.commitSha = environment.baseCommitSha))
    (.validation "candidate environments require an owned sealed goal")
  require (∀ evidence ∈ records.developmentEvidence, evidence.goalId ∈ records.goalIds ∧
      (records.environmentWithId evidence.candidateEnvironmentId).any (fun environment =>
        environment.goalId = evidence.goalId && environment.baseCommitSha = evidence.baseCommitSha))
    (.validation "development evidence requires owned goal and candidate environment")
  require (∀ review ∈ records.independentReviews, review.goalId ∈ records.goalIds ∧
      review.evidenceIds ⊆ records.evidenceIds ∧
      (records.environmentWithId review.candidateEnvironmentId).any (fun environment =>
        review.isIndependent environment (records.evidenceAmong review.evidenceIds)) ∧
      (review.outcome = .valid →
        ∀ evidence ∈ records.evidenceAmong review.evidenceIds, evidence.outcome = .pass))
    (.validation "independent reviews require exact owned candidate evidence")
  require (∀ decision ∈ records.projectSuccessorDecisions, decision.goalId ∈ records.goalIds ∧
      decision.candidateId ∈ records.capabilitySuccessorCandidates.map CapabilitySuccessorCandidate.id ∧
      decision.candidateEnvironmentId ∈ records.candidateEnvironments.map CandidateEnvironmentManifest.id ∧
      decision.evidenceIds ⊆ records.evidenceIds ∧
      (records.reviewWithId decision.reviewId).any (fun review => review.goalId = decision.goalId &&
        review.candidateEnvironmentId = decision.candidateEnvironmentId &&
        review.evidenceIds = decision.evidenceIds))
    (.validation "project successor decisions require their exact owned proof chain")
  require (∀ decision ∈ records.promotionDecisions,
      decision.successorDecisionId ∈ records.projectSuccessorDecisions.map ProjectSuccessorDecision.id)
    (.validation "promotion decisions require an owned project successor decision")

/-- A checkpoint extends the history of its cycle by a later phase. -/
def validateCycleStep (earlier : List RecursiveCycleCheckpoint) (checkpoint : RecursiveCycleCheckpoint) :
    Except Failure Unit :=
  match indexBy RecursiveCycleCheckpoint.cycleId earlier checkpoint.cycleId with
  | none =>
    require (checkpoint.predecessorId = none) (.validation "first cycle checkpoint cannot name a predecessor")
  | some predecessor =>
    require (checkpoint.predecessorId = some predecessor.id ∧ predecessor.phase.index < checkpoint.phase.index)
      (.validation "cycle checkpoint history must be exact and monotone")

def validateCycles (records : ProjectRecords) : Except Failure Unit := do
  require (∀ checkpoint ∈ records.recursiveCycleCheckpoints, checkpoint.id ∉ checkpoint.recordIds ∧
      checkpoint.recordIds ⊆ (projectIdentities records).flatten)
    (.validation "cycle checkpoints require owned project records")
  eachAfter validateCycleStep [] records.recursiveCycleCheckpoints
  require (∀ stop ∈ records.recursiveStopDispositions,
      stop.cycleId ∈ records.recursiveCycleCheckpoints.map RecursiveCycleCheckpoint.cycleId ∧
      stop.consequentialResidualIds ⊆ records.capabilityLimitations.map CapabilityLimitation.id)
    (.validation "recursive stops require an owned cycle and limitation residue")

def validateProject [Fingerprints] (sources : GoalSources) : Except Failure Unit := do
  require (∀ identifiers ∈ projectIdentities sources.project, identifiers.Nodup)
    (.validation "G3R record identities must be unique within their owner")
  validateRepertoire sources.project
  validateGoals sources
  validateProofChain sources.project
  validateCycles sources.project

end RatchetingInquiry
