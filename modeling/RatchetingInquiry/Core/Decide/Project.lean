import RatchetingInquiry.Core.Decide.Compression
import RatchetingInquiry.Project.GoalSynthesis
import RatchetingInquiry.Project.Selection

/-! Decisions over recursive inquiry into the repository itself. -/

namespace RatchetingInquiry

namespace ProjectRecords

def anchorById (records : ProjectRecords) (anchorId : String) : Option ProjectAnchor :=
  records.projectAnchors.find? (fun item => item.id = anchorId)

def limitationById (records : ProjectRecords) (limitationId : String) : Option CapabilityLimitation :=
  records.capabilityLimitations.find? (fun item => item.id = limitationId)

def questionCandidateById (records : ProjectRecords) (candidateId : String) : Option QuestionContractCandidate :=
  records.questionContractCandidates.find? (fun item => item.id = candidateId)

def methodCandidateById (records : ProjectRecords) (candidateId : String) : Option MethodBindingCandidate :=
  records.methodBindingCandidates.find? (fun item => item.id = candidateId)

def successorCandidateById (records : ProjectRecords) (candidateId : String) : Option CapabilitySuccessorCandidate :=
  records.capabilitySuccessorCandidates.find? (fun item => item.id = candidateId)

def frontierById (records : ProjectRecords) (frontierId : String) : Option CapabilityFrontier :=
  records.capabilityFrontiers.find? (fun item => item.id = frontierId)

def goalCandidateById (records : ProjectRecords) (candidateId : String) : Option ImplementationGoalCandidate :=
  records.implementationGoalCandidates.find? (fun item => item.id = candidateId)

def goalById (records : ProjectRecords) (goalId : String) : Option ImplementationGoalContract :=
  records.implementationGoals.find? (fun item => item.id = goalId)

def environmentById (records : ProjectRecords) (environmentId : String) : Option CandidateEnvironmentManifest :=
  records.candidateEnvironments.find? (fun item => item.id = environmentId)

def reviewById (records : ProjectRecords) (reviewId : String) : Option IndependentReview :=
  records.independentReviews.find? (fun item => item.id = reviewId)

def evidenceWithId (records : ProjectRecords) (evidenceId : String) : Option DevelopmentEvidence :=
  indexBy DevelopmentEvidence.id records.developmentEvidence evidenceId

/-- The evidence with the given ids, in order, or `failure` when one of them is not owned. -/
def ownedEvidence (records : ProjectRecords) (evidenceIds : List String) (failure : Failure) :
    Except Failure (List DevelopmentEvidence) :=
  found (evidenceIds.mapM records.evidenceWithId) failure

/-- The evidence was collected for a goal whose candidate addresses the limitation. -/
def evidenceAddresses (records : ProjectRecords) (limitationId : String) (evidence : DevelopmentEvidence) : Bool :=
  ((indexBy ImplementationGoalContract.id records.implementationGoals evidence.goalId).bind (fun goal =>
    indexBy CapabilitySuccessorCandidate.id records.capabilitySuccessorCandidates goal.candidateId)).any
      (fun candidate => candidate.limitationId = limitationId)

/-- `_require_project_admission_evidence`. -/
def requireAdmissionEvidence (records : ProjectRecords) (evidenceIds : List String) (limitationId : String)
    (requireValidReview : Bool) : Except Failure Unit := do
  let evidence ← records.ownedEvidence evidenceIds
    (.invalidCommand "repertoire decision requires owned development evidence")
  require (∀ item ∈ evidence, records.evidenceAddresses limitationId item)
    (.invalidCommand "repertoire evidence must address the exact limitation")
  require (requireValidReview → ∀ item ∈ evidence, item.outcome = .pass)
    (.invalidCommand "repertoire admission requires passing evidence")
  require (requireValidReview → ∃ review ∈ records.independentReviews,
      review.outcome = .valid ∧ review.evidenceIds = evidenceIds)
    (.invalidCommand "repertoire admission requires exact independent review")

end ProjectRecords

def freshLimitation (records : ProjectRecords) (limitation : CapabilityLimitation) : Except Failure ProjectEvent := do
  require (records.anchorById limitation.anchorId).isSome
    (.invalidCommand "capability limitation requires an owned clean anchor")
  return .capabilityLimitationRecorded limitation

def freshQuestionCandidate (records : ProjectRecords) (candidate : QuestionContractCandidate) :
    Except Failure ProjectEvent := do
  require (records.limitationById candidate.limitationId).isSome
    (.invalidCommand "question candidate requires an owned limitation")
  return .questionContractCandidateRecorded candidate

def freshQuestionDecision (records : ProjectRecords) (decision : QuestionRepertoireDecision) :
    Except Failure ProjectEvent := do
  let candidate ← found (records.questionCandidateById decision.candidateId)
    (.invalidCommand "question decision requires its inert candidate")
  require (decision.outcome = .admitted → candidate.contract.family = "recursive-project")
    (.invalidCommand "generated admission is confined to recursive-project")
  records.requireAdmissionEvidence decision.evidenceIds candidate.limitationId (decision.outcome = .admitted)
  return .questionRepertoireDecided decision

def freshMethodCandidate (records : ProjectRecords) (candidate : MethodBindingCandidate) :
    Except Failure ProjectEvent := do
  require (records.limitationById candidate.limitationId).isSome
    (.invalidCommand "method binding requires an owned limitation")
  return .methodBindingCandidateRecorded candidate

/-- An admitted method that needs an adapter opens a sealed goal for its own limitation. -/
def requireAdapterGoal (records : ProjectRecords) (candidate : MethodBindingCandidate)
    (decision : MethodAdmissionDecision) : Except Failure Unit := do
  if decision.outcome = .admitted ∧ candidate.adapterRequired then
    let goal ← found (decision.implementationGoalId.bind records.goalById)
      (.invalidCommand "a missing method adapter must open a sealed goal")
    require ((records.successorCandidateById goal.candidateId).any (fun successor =>
        successor.limitationId = candidate.limitationId))
      (.invalidCommand "method adapter goal must address the exact limitation")

def freshMethodDecision (records : ProjectRecords) (decision : MethodAdmissionDecision) :
    Except Failure ProjectEvent := do
  let candidate ← found (records.methodCandidateById decision.candidateId)
    (.invalidCommand "method decision requires its inert candidate")
  records.requireAdmissionEvidence decision.evidenceIds candidate.limitationId (decision.outcome = .admitted)
  requireAdapterGoal records candidate decision
  return .methodAdmissionDecided decision

def freshSuccessorCandidate (records : ProjectRecords) (candidate : CapabilitySuccessorCandidate) :
    Except Failure ProjectEvent := do
  require ((records.anchorById candidate.anchorId).isSome ∧ (records.limitationById candidate.limitationId).isSome)
    (.invalidCommand "project successor requires owned anchor and limitation")
  return .capabilitySuccessorCandidateRecorded candidate

/-- The frontier derived again from the candidates that a recorded one names. -/
def rederiveCapabilityFrontier (records : ProjectRecords) (frontier : CapabilityFrontier) :
    Except Failure CapabilityFrontier := do
  let candidates ← found (frontier.candidateIds.mapM
      (indexBy CapabilitySuccessorCandidate.id records.capabilitySuccessorCandidates))
    (.keyError "unknown successor candidate")
  deriveCapabilityFrontier frontier.id candidates

def freshFrontier (records : ProjectRecords) (frontier : CapabilityFrontier) : Except Failure ProjectEvent :=
  match rederiveCapabilityFrontier records frontier with
  | .error _ => .error (.invalidCommand "frontier references invalid successor candidates")
  | .ok expected => do
    require (expected = frontier)
      (.invalidCommand "capability frontier must equal pure deterministic selection")
    return .capabilityFrontierRecorded frontier

section
variable [Fingerprints]

def freshGoalCandidate (sources : GoalSources) (candidate : ImplementationGoalCandidate) :
    Except Failure ProjectEvent := do
  require (compileImplementationGoalCandidate sources candidate.sourceObligationId candidate.downstreamObligationId
      candidate.frontierId = .ok candidate)
    (.invalidCommand "implementation-Goal candidate must equal pure deterministic compilation")
  return .implementationGoalCandidateRecorded candidate

/-- The decision cites the candidate's exact content, records and goal. -/
def GoalAdmissionDecision.admits (decision : GoalAdmissionDecision) (candidate : ImplementationGoalCandidate) : Bool :=
  decision.candidateFingerprint = Fingerprints.digest (.goalCandidate candidate) &&
    decision.evidenceRecordIds = goalAdmissionEvidenceIds candidate &&
    (decision.outcome ≠ .admitted || decision.admittedGoalId = some candidate.goal.id)

def freshGoalAdmission (records : ProjectRecords) (decision : GoalAdmissionDecision) : Except Failure ProjectEvent := do
  require ((records.goalCandidateById decision.candidateId).any decision.admits)
    (.invalidCommand "Goal admission must reference the exact derived candidate")
  return .goalAdmissionDecided decision

end

/-- A generated goal is sealed only as its one candidate states it, after an admission that names it. -/
def generatedGoalAdmitted (records : ProjectRecords) (goal : ImplementationGoalContract) : Bool :=
  match records.implementationGoalCandidates.filter (fun item => item.goal.id = goal.id) with
  | [] => true
  | [candidate] => candidate.goal = goal && records.goalAdmissionDecisions.any (fun decision =>
      decision.candidateId = candidate.id && decision.outcome = .admitted && decision.admittedGoalId = some goal.id)
  | _ => false

def freshGoal (records : ProjectRecords) (goal : ImplementationGoalContract) : Except Failure ProjectEvent := do
  require ((records.frontierById goal.frontierId).any (fun frontier => frontier.status = .ready &&
      frontier.selectedDiscriminatorCandidateId = some goal.candidateId))
    (.invalidCommand "goal must seal the frontier-selected discriminator candidate")
  require (generatedGoalAdmitted records goal)
    (.invalidCommand "generated Goal requires its exact admission decision")
  return .implementationGoalSealed goal

def freshEnvironment (records : ProjectRecords) (manifest : CandidateEnvironmentManifest) :
    Except Failure ProjectEvent := do
  require (((records.goalById manifest.goalId).bind (fun goal => records.anchorById goal.anchorId)).any
      (fun anchor => manifest.baseCommitSha = anchor.commitSha))
    (.invalidCommand "candidate environment must start from its sealed anchor")
  return .candidateEnvironmentRecorded manifest

def freshDevelopmentEvidence (records : ProjectRecords) (evidence : DevelopmentEvidence) :
    Except Failure ProjectEvent := do
  let goal ← found (records.goalById evidence.goalId)
    (.invalidCommand "development evidence requires its sealed candidate environment")
  let environment ← found ((records.environmentById evidence.candidateEnvironmentId).filter (fun item =>
      item.goalId = goal.id))
    (.invalidCommand "development evidence requires its sealed candidate environment")
  require (evidence.baseCommitSha = environment.baseCommitSha ∧
      (evidence.gateDigest = goal.incumbentGateDigest ∨ evidence.gateDigest = goal.proposedGateDigest))
    (.invalidCommand "development evidence must preserve base and sealed gate pins")
  return .developmentEvidenceRecorded evidence

/-- The review is by another agent and about exactly the evidence of one environment and head. -/
def IndependentReview.isIndependent (review : IndependentReview) (environment : CandidateEnvironmentManifest)
    (evidence : List DevelopmentEvidence) : Bool :=
  environment.goalId = review.goalId && review.reviewerId ≠ environment.developerId &&
    evidence.all (fun item => item.goalId = review.goalId &&
      item.candidateEnvironmentId = review.candidateEnvironmentId &&
      item.candidateCommitSha = review.reviewedCommitSha)

def freshReview (records : ProjectRecords) (review : IndependentReview) : Except Failure ProjectEvent := do
  let evidence ← records.ownedEvidence review.evidenceIds
    (.invalidCommand "review references unknown development evidence")
  require ((records.environmentById review.candidateEnvironmentId).any (fun environment =>
      review.isIndependent environment evidence))
    (.invalidCommand "review must be fresh, independent, and exact-head bound")
  require (review.outcome = .valid → ∀ item ∈ evidence, item.outcome = .pass)
    (.invalidCommand "a valid review cannot bless failing or unknown evidence")
  return .independentReviewRecorded review

/-- The goal, environment and review of a successor decision are about one sealed candidate. -/
def successorChainAligned (goal : ImplementationGoalContract) (candidate : CapabilitySuccessorCandidate)
    (environment : CandidateEnvironmentManifest) (review : IndependentReview) : Bool :=
  goal.candidateId = candidate.id && environment.goalId = goal.id && review.goalId = goal.id &&
    review.candidateEnvironmentId = environment.id

def freshProjectSuccessor (records : ProjectRecords) (decision : ProjectSuccessorDecision) :
    Except Failure ProjectEvent := do
  let evidence ← records.ownedEvidence decision.evidenceIds
    (.invalidCommand "successor decision references unknown evidence")
  let incomplete : Failure := .invalidCommand "successor decision requires its complete owned proof chain"
  let goal ← found (records.goalById decision.goalId) incomplete
  let candidate ← found (records.successorCandidateById decision.candidateId) incomplete
  let review ← found (records.reviewById decision.reviewId) incomplete
  let environment ← found (records.environmentById decision.candidateEnvironmentId) incomplete
  require (successorChainAligned goal candidate environment review)
    (.invalidCommand "successor proof chain does not name one sealed candidate")
  require (decision.evidenceIds = review.evidenceIds)
    (.invalidCommand "successor decision must use exactly the reviewed evidence")
  require (decision.disposition = .replace →
      review.outcome = .valid ∧ ∀ item ∈ evidence, item.outcome = .pass)
    (.invalidCommand "replacement requires valid independent review and evidence")
  require (decision.disposition = .replace →
      candidate.preservedCapabilityIds ⊆ decision.preservedCapabilityIds ∧ candidate.gainKinds = decision.gainKinds)
    (.invalidCommand "replacement must preserve and gain exactly as proposed")
  return .projectSuccessorDecided decision

def freshPromotionDecision (records : ProjectRecords) (decision : PromotionDecision) : Except Failure ProjectEvent := do
  let unreviewed : Failure := .invalidCommand "promotion requires an owned independently reviewed successor"
  let successor ← found
    (records.projectSuccessorDecisions.find? (fun item => item.id = decision.successorDecisionId)) unreviewed
  let review ← found (records.reviewById successor.reviewId) unreviewed
  require (decision.outcome = .merged → successor.disposition = .replace ∧ review.outcome = .valid ∧
      decision.candidateCommitSha = review.reviewedCommitSha)
    (.invalidCommand "merged promotion must match the validated successor head")
  return .promotionDecisionRecorded decision

/-- The place of a phase in its enumeration. -/
def CyclePhase.index : CyclePhase → Nat
  | .anchored => 0 | .limitationRecorded => 1 | .basisTested => 2 | .frontierConstructed => 3 | .goalSealed => 4
  | .candidateDeveloped => 5 | .locallyVerified => 6 | .independentlyReviewed => 7 | .prVerified => 8
  | .merged => 9 | .postmergeVerified => 10 | .retained => 11

/-- The identities of the project records that a checkpoint may name. -/
def ownedProjectIds (records : ProjectRecords) : List String := (projectReferents records).flatMap Prod.snd

def freshCycleCheckpoint (records : ProjectRecords) (checkpoint : RecursiveCycleCheckpoint) :
    Except Failure ProjectEvent := do
  let tail := (records.recursiveCycleCheckpoints.filter (fun item => item.cycleId = checkpoint.cycleId)).getLast?
  require (tail.all (fun prior => checkpoint.predecessorId = some prior.id))
    (.invalidCommand "cycle checkpoint must succeed the exact current tail")
  require (tail.isSome ∨ checkpoint.predecessorId = none)
    (.invalidCommand "first cycle checkpoint cannot name a predecessor")
  require (tail.all (fun prior => prior.phase.index < checkpoint.phase.index))
    (.invalidCommand "cycle checkpoints must advance monotonically")
  require (checkpoint.recordIds ⊆ ownedProjectIds records)
    (.invalidCommand "cycle checkpoint may reference only owned project records")
  return .recursiveCycleCheckpointRecorded checkpoint

def freshStopDisposition (records : ProjectRecords) (disposition : RecursiveStopDisposition) :
    Except Failure ProjectEvent := do
  require (∃ item ∈ records.recursiveCycleCheckpoints, item.cycleId = disposition.cycleId)
    (.invalidCommand "recursive stop requires an owned cycle checkpoint")
  require (disposition.consequentialResidualIds ⊆ records.capabilityLimitations.map CapabilityLimitation.id)
    (.invalidCommand "recursive stop residuals must name owned limitations")
  return .recursiveStopDispositionRecorded disposition

def decideProject [Fingerprints] (state : InquiryState) : ProjectCommand → Except Failure (Option ProjectEvent)
  | .recordProjectAnchor anchor =>
    recordOnce (state.anchorById anchor.id) anchor "project-anchor identity was reused"
      (.ok (.projectAnchorRecorded anchor))
  | .recordCapabilityLimitation limitation =>
    recordOnce (state.limitationById limitation.id) limitation "capability-limitation identity was reused"
      (freshLimitation state.toProjectRecords limitation)
  | .recordQuestionContractCandidate candidate =>
    recordOnce (state.questionCandidateById candidate.id) candidate "question-candidate identity was reused"
      (freshQuestionCandidate state.toProjectRecords candidate)
  | .decideQuestionRepertoire decision =>
    recordOnce (state.questionRepertoireDecisions.find? (fun item => item.id = decision.id)) decision
      "question-decision identity was reused" (freshQuestionDecision state.toProjectRecords decision)
  | .recordMethodBindingCandidate candidate =>
    recordOnce (state.methodCandidateById candidate.id) candidate "method-candidate identity was reused"
      (freshMethodCandidate state.toProjectRecords candidate)
  | .decideMethodAdmission decision =>
    recordOnce (state.methodAdmissionDecisions.find? (fun item => item.id = decision.id)) decision
      "method-decision identity was reused" (freshMethodDecision state.toProjectRecords decision)
  | .recordCapabilitySuccessorCandidate candidate =>
    recordOnce (state.successorCandidateById candidate.id) candidate
      "project-successor candidate identity was reused" (freshSuccessorCandidate state.toProjectRecords candidate)
  | .recordCapabilityFrontier frontier =>
    recordOnce (state.frontierById frontier.id) frontier "capability-frontier identity was reused"
      (freshFrontier state.toProjectRecords frontier)
  | .recordImplementationGoalCandidate candidate =>
    recordOnce (state.goalCandidateById candidate.id) candidate
      "implementation-Goal candidate identity was reused" (freshGoalCandidate state.goalSources candidate)
  -- A goal admission is identified by the candidate that it decides, not by its own id.
  | .decideGoalAdmission decision =>
    recordOnce (state.goalAdmissionDecisions.find? (fun item => item.candidateId = decision.candidateId)) decision
      "a Goal candidate permits one total admission decision" (freshGoalAdmission state.toProjectRecords decision)
  | .sealImplementationGoal goal =>
    recordOnce (state.goalById goal.id) goal "sealed implementation goal is immutable"
      (freshGoal state.toProjectRecords goal)
  | .recordCandidateEnvironment manifest =>
    recordOnce (state.environmentById manifest.id) manifest "candidate-environment identity was reused"
      (freshEnvironment state.toProjectRecords manifest)
  | .recordDevelopmentEvidence evidence =>
    recordOnce (state.developmentEvidence.find? (fun item => item.id = evidence.id)) evidence
      "development-evidence identity was reused" (freshDevelopmentEvidence state.toProjectRecords evidence)
  | .recordIndependentReview review =>
    recordOnce (state.reviewById review.id) review "independent-review identity was reused"
      (freshReview state.toProjectRecords review)
  | .decideProjectSuccessor decision =>
    recordOnce (state.projectSuccessorDecisions.find? (fun item => item.id = decision.id)) decision
      "project-successor decision identity was reused" (freshProjectSuccessor state.toProjectRecords decision)
  | .recordPromotionDecision decision =>
    recordOnce (state.promotionDecisions.find? (fun item => item.id = decision.id)) decision
      "promotion-decision identity was reused" (freshPromotionDecision state.toProjectRecords decision)
  | .recordRecursiveCycleCheckpoint checkpoint =>
    recordOnce (state.recursiveCycleCheckpoints.find? (fun item => item.id = checkpoint.id)) checkpoint
      "cycle-checkpoint identity was reused" (freshCycleCheckpoint state.toProjectRecords checkpoint)
  | .recordRecursiveStopDisposition disposition =>
    recordOnce (state.recursiveStopDispositions.find? (fun item => item.id = disposition.id)) disposition
      "recursive-stop identity was reused" (freshStopDisposition state.toProjectRecords disposition)

end RatchetingInquiry
