import RatchetingInquiry.Memory.Models
import RatchetingInquiry.Questions.Models

/-! Strict records for recursive inquiry over the repository itself. They make a development argument
replayable: limitation, alternatives, sealed goal, candidate evidence, independent review and promotion
remain different facts. Repository paths are kept as texts; their normal form is not modelled. -/

namespace RatchetingInquiry

inductive LimitationKind where
  | theory | question | probe | representation | method | evidence | implementation | authority
deriving DecidableEq

inductive SuccessorKind where
  | theory | questionRepertoire | probeRepertoire | representation | methodRepertoire | implementation
  | goalDecomposition
deriving DecidableEq

inductive ProjectGainKind where
  | repairedFailure | newSeparator | executableRelation | complexityReduction | developmentRecovery
  | scopeExtension | newMethod | independentCheckability
deriving DecidableEq

def ProjectGainKind.value : ProjectGainKind → String
  | .repairedFailure => "repaired_failure" | .newSeparator => "new_separator"
  | .executableRelation => "executable_relation" | .complexityReduction => "complexity_reduction"
  | .developmentRecovery => "development_recovery" | .scopeExtension => "scope_extension"
  | .newMethod => "new_method" | .independentCheckability => "independent_checkability"

inductive AdmissionOutcome where
  | admitted | reject | inconclusive
deriving DecidableEq

inductive DevelopmentEvidenceKind where
  | reproduction | test | staticCheck | propertyCheck | benchmark | solver | referenceImplementation
  | build | ci | research
deriving DecidableEq

inductive EvidenceOutcome where
  | pass | fail | indeterminate | unsupported
deriving DecidableEq

inductive ReviewOutcome where
  | valid | invalid | indeterminate
deriving DecidableEq

inductive ProjectDisposition where
  | replace | keep | frontier | reject
deriving DecidableEq

inductive ProjectPromotionOutcome where
  | proposed | merged | rejected | revertRequired
deriving DecidableEq

inductive CyclePhase where
  | anchored | limitationRecorded | basisTested | frontierConstructed | goalSealed | candidateDeveloped
  | locallyVerified | independentlyReviewed | prVerified | merged | postmergeVerified | retained
deriving DecidableEq

inductive StopReason where
  | noConsequentialResidue | noDiscriminator | repeatedBlocker | authorityExpansionRequired
  | evidenceInvalid | evidenceIndeterminate | unknown
deriving DecidableEq

structure ProjectAnchor where
  id : String
  repository : String
  protectedBranch : String
  commitSha : String
  treeDigest : String
  authorityDigest : String
  gateDigest : String
deriving DecidableEq

@[ext]
structure CapabilityLimitation where
  id : String
  anchorId : String
  kind : LimitationKind
  currentCapability : String
  missingCapability : String
  consequentialBoundary : String
  protectedConsequenceIds : List String
  observedEvidence : List ArtifactRef
  existingQuestionContractKeys : List String := []
  blockedDependencyIds : List String := []
  consequences_canonical : protectedConsequenceIds ≠ [] ∧ CanonicalIds protectedConsequenceIds := by decide
  contracts_canonical : CanonicalIds existingQuestionContractKeys := by decide
  dependencies_canonical : CanonicalIds blockedDependencyIds := by decide
  observed : observedEvidence ≠ [] := by decide

instance : DecidableEq CapabilityLimitation := fun _ _ => decidable_of_iff' _ CapabilityLimitation.ext_iff

structure ConsequentialReturn where
  returnClassId : String
  downstreamStateId : String
  downstreamObligationKind : LimitationKind
deriving DecidableEq

@[ext]
structure QuestionContractCandidate where
  id : String
  limitationId : String
  contract : QuestionContract
  typedReferentIds : List String
  preconditionIds : List String
  possibleReturns : List ConsequentialReturn
  comparisonPolicyId : String
  downstreamConsumerIds : List String
  falsifyingAttackIds : List String
  referents_canonical : typedReferentIds ≠ [] ∧ CanonicalIds typedReferentIds := by decide
  preconditions_canonical : CanonicalIds preconditionIds := by decide
  consumers_canonical : downstreamConsumerIds ≠ [] ∧ CanonicalIds downstreamConsumerIds := by decide
  attacks_canonical : falsifyingAttackIds ≠ [] ∧ CanonicalIds falsifyingAttackIds := by decide
  returns_distinct : 2 ≤ (possibleReturns.map ConsequentialReturn.downstreamStateId).dedup.length := by decide
  not_stable : contract.maturity ≠ .stable := by decide

instance : DecidableEq QuestionContractCandidate := fun _ _ => decidable_of_iff' _ QuestionContractCandidate.ext_iff

/-- An admission names the one confined profile `recursive-project-v1`, so the named profile is kept
as a flag. -/
@[ext]
structure QuestionRepertoireDecision where
  id : String
  candidateId : String
  outcome : AdmissionOutcome
  controllerPolicyVersion : String
  evidenceIds : List String
  profileAdmitted : Bool := false
  evidence_canonical : evidenceIds ≠ [] ∧ CanonicalIds evidenceIds := by decide
  admitted_profile : (outcome = .admitted) = (profileAdmitted = true) := by decide

instance : DecidableEq QuestionRepertoireDecision := fun _ _ => decidable_of_iff' _ QuestionRepertoireDecision.ext_iff

@[ext]
structure MethodBindingCandidate where
  id : String
  limitationId : String
  relationId : String
  nativeField : String
  methodId : String
  primarySourceUrls : List String
  sourceArtifacts : List ArtifactRef
  assumptionIds : List String
  applicabilityCheckIds : List String
  licenseId : String
  adapterRequired : Bool
  sources_given : primarySourceUrls ≠ [] ∧ sourceArtifacts ≠ [] := by decide
  assumptions_canonical : assumptionIds ≠ [] ∧ CanonicalIds assumptionIds := by decide
  checks_canonical : applicabilityCheckIds ≠ [] ∧ CanonicalIds applicabilityCheckIds := by decide

instance : DecidableEq MethodBindingCandidate := fun _ _ => decidable_of_iff' _ MethodBindingCandidate.ext_iff

@[ext]
structure MethodAdmissionDecision where
  id : String
  candidateId : String
  outcome : AdmissionOutcome
  methodPolicyVersion : String
  evidenceIds : List String
  implementationGoalId : Option String := none
  evidence_canonical : evidenceIds ≠ [] ∧ CanonicalIds evidenceIds := by decide

instance : DecidableEq MethodAdmissionDecision := fun _ _ => decidable_of_iff' _ MethodAdmissionDecision.ext_iff

structure ProjectCost where
  axis : String
  value : Option Nat := none
deriving DecidableEq

@[ext]
structure CapabilitySuccessorCandidate where
  id : String
  anchorId : String
  limitationId : String
  kind : SuccessorKind
  currentState : String
  desiredState : String
  preservedCapabilityIds : List String
  explicitlyDisposedCapabilityIds : List String := []
  gainKinds : List ProjectGainKind
  discriminatorId : Option String
  evidenceMechanismIds : List String
  estimatedCosts : List ProjectCost
  reversible : Bool
  preserved_canonical : preservedCapabilityIds ≠ [] ∧ CanonicalIds preservedCapabilityIds := by decide
  disposed_canonical : CanonicalIds explicitlyDisposedCapabilityIds := by decide
  gains_canonical : gainKinds ≠ [] ∧ CanonicalIds (gainKinds.map ProjectGainKind.value) := by decide
  mechanisms_canonical : evidenceMechanismIds ≠ [] ∧ CanonicalIds evidenceMechanismIds := by decide
  costs_canonical : estimatedCosts ≠ [] ∧ CanonicalIds (estimatedCosts.map ProjectCost.axis) := by decide
  preserved_not_disposed : ∀ capability ∈ preservedCapabilityIds,
    capability ∉ explicitlyDisposedCapabilityIds := by decide

instance : DecidableEq CapabilitySuccessorCandidate := fun _ _ => decidable_of_iff' _ CapabilitySuccessorCandidate.ext_iff

inductive FrontierStatus where
  | ready | unknown
deriving DecidableEq

structure CapabilityFrontier where
  id : String
  anchorId : String
  limitationId : String
  candidateIds : List String
  nondominatedCandidateIds : List String
  incomparablePairs : List (String × String)
  selectedDiscriminatorCandidateId : Option String
  status : FrontierStatus
deriving DecidableEq

/-- `CapabilityFrontier.validate_frontier`, run whenever a frontier is built. -/
def CapabilityFrontier.validateFrontier (frontier : CapabilityFrontier) : Except Failure CapabilityFrontier := do
  require (frontier.candidateIds ≠ []) (.validation "frontier candidates must not be empty")
  require (CanonicalIds frontier.candidateIds)
    (.validation "frontier candidates must be unique and canonically ordered")
  require (frontier.nondominatedCandidateIds ≠ []) (.validation "nondominated candidates must not be empty")
  require (CanonicalIds frontier.nondominatedCandidateIds)
    (.validation "nondominated candidates must be unique and canonically ordered")
  require (frontier.nondominatedCandidateIds ⊆ frontier.candidateIds)
    (.validation "nondominated candidates must belong to the frontier")
  require (frontier.status = .ready → frontier.selectedDiscriminatorCandidateId.isSome)
    (.validation "a ready frontier must select the smallest discriminator")
  require (frontier.status = .unknown → frontier.selectedDiscriminatorCandidateId = none)
    (.validation "an unknown frontier cannot fabricate a discriminator")
  return frontier

structure ImplementationGoalContract where
  id : String
  cycleId : String
  anchorId : String
  frontierId : String
  candidateId : String
  current : String
  desired : String
  separator : String
  expectedIncumbentReturn : String
  expectedCandidateReturn : String
  preserveCapabilityIds : List String
  acceptanceCommands : List String
  allowedMutationRoots : List String
  forbiddenAuthorityRoots : List String
  assumptionIds : List String
  incumbentGateDigest : String
  proposedGateDigest : String
  rollbackCondition : String
  reopeningCondition : String
deriving DecidableEq

/-- Inert deterministic derivation of one possible implementation goal. -/
structure ImplementationGoalCandidate where
  id : String
  questionCandidateId : String
  questionCandidateFingerprint : String
  questionDecisionId : String
  questionDecisionFingerprint : String
  compiledQuestionId : String
  compiledQuestionFingerprint : String
  sourceObligationId : String
  sourceObligationFingerprint : String
  effectRequestId : String
  acceptedDecodeId : String
  acceptedDecodeFingerprint : String
  sourceClaimId : String
  sourceClaimFingerprint : String
  downstreamObligationId : String
  downstreamObligationFingerprint : String
  anchorId : String
  anchorFingerprint : String
  limitationId : String
  limitationFingerprint : String
  frontierId : String
  frontierFingerprint : String
  selectedCandidateId : String
  selectedCandidateFingerprint : String
  bindingRevision : String
  scopeFingerprint : String
  protectedHorizonId : String
  goal : ImplementationGoalContract
  goalFingerprint : String
deriving DecidableEq

/-- One total controller decision over an exact inert goal candidate. -/
@[ext]
structure GoalAdmissionDecision where
  id : String
  candidateId : String
  candidateFingerprint : String
  outcome : AdmissionOutcome
  evidenceRecordIds : List String
  admittedGoalId : Option String := none
  evidence_canonical : evidenceRecordIds ≠ [] ∧ CanonicalIds evidenceRecordIds := by decide
  admitted_named : (outcome = .admitted) = (admittedGoalId.isSome = true) := by decide

instance : DecidableEq GoalAdmissionDecision := fun _ _ => decidable_of_iff' _ GoalAdmissionDecision.ext_iff

structure CandidateEnvironmentManifest where
  id : String
  goalId : String
  developerId : String
  baseCommitSha : String
  candidateBranch : String
  worktreePath : String
  initialTreeDigest : String
  toolchainArtifact : ArtifactRef
  toolchainDigest : String
deriving DecidableEq

structure DevelopmentEvidence where
  id : String
  goalId : String
  candidateEnvironmentId : String
  kind : DevelopmentEvidenceKind
  commandOrMethod : String
  outcome : EvidenceOutcome
  observedReturn : ArtifactRef
  baseCommitSha : String
  candidateCommitSha : String
  gateDigest : String
deriving DecidableEq

@[ext]
structure IndependentReview where
  id : String
  goalId : String
  candidateEnvironmentId : String
  reviewerId : String
  reviewerContextDigest : String
  reviewedCommitSha : String
  evidenceIds : List String
  outcome : ReviewOutcome
  findingsArtifact : ArtifactRef
  evidence_canonical : evidenceIds ≠ [] ∧ CanonicalIds evidenceIds := by decide

instance : DecidableEq IndependentReview := fun _ _ => decidable_of_iff' _ IndependentReview.ext_iff

@[ext]
structure ProjectSuccessorDecision where
  id : String
  goalId : String
  candidateId : String
  candidateEnvironmentId : String
  reviewId : String
  evidenceIds : List String
  disposition : ProjectDisposition
  preservedCapabilityIds : List String
  explicitlyDisposedCapabilityIds : List String := []
  gainKinds : List ProjectGainKind := []
  reason : String
  evidence_canonical : evidenceIds ≠ [] ∧ CanonicalIds evidenceIds := by decide
  preserved_canonical : preservedCapabilityIds ≠ [] ∧ CanonicalIds preservedCapabilityIds := by decide
  disposed_canonical : CanonicalIds explicitlyDisposedCapabilityIds := by decide
  gains_canonical : CanonicalIds (gainKinds.map ProjectGainKind.value) := by decide
  replacement_gains : disposition = .replace → gainKinds ≠ [] := by decide

instance : DecidableEq ProjectSuccessorDecision := fun _ _ => decidable_of_iff' _ ProjectSuccessorDecision.ext_iff

inductive CheckConclusionKind where
  | success | failure | cancelled | skipped
deriving DecidableEq

structure CheckConclusion where
  context : String
  conclusion : CheckConclusionKind
deriving DecidableEq

structure PromotionDecision where
  id : String
  successorDecisionId : String
  candidateCommitSha : String
  pullRequestUrl : String
  requiredChecks : List CheckConclusion
  outcome : ProjectPromotionOutcome
  mergedCommitSha : Option String := none
  checks_canonical : requiredChecks ≠ [] ∧ CanonicalIds (requiredChecks.map CheckConclusion.context) := by decide
  merged_passing : outcome = .merged →
    mergedCommitSha.isSome ∧ ∀ check ∈ requiredChecks, check.conclusion = .success := by decide
  only_merged_named : outcome ≠ .merged → mergedCommitSha = none := by decide
deriving DecidableEq

@[ext]
structure RecursiveCycleCheckpoint where
  id : String
  cycleId : String
  phase : CyclePhase
  predecessorId : Option String
  recordIds : List String
  reportArtifact : ArtifactRef
  records_canonical : recordIds ≠ [] ∧ CanonicalIds recordIds := by decide
  not_own_predecessor : predecessorId ≠ some id := by decide

instance : DecidableEq RecursiveCycleCheckpoint := fun _ _ => decidable_of_iff' _ RecursiveCycleCheckpoint.ext_iff

@[ext]
structure RecursiveStopDisposition where
  id : String
  cycleId : String
  reason : StopReason
  consequentialResidualIds : List String := []
  blockedDependencyIds : List String := []
  evidenceArtifact : ArtifactRef
  residuals_canonical : CanonicalIds consequentialResidualIds := by decide
  dependencies_canonical : CanonicalIds blockedDependencyIds := by decide
  no_residue_retained : reason = .noConsequentialResidue → consequentialResidualIds = [] := by decide

instance : DecidableEq RecursiveStopDisposition := fun _ _ => decidable_of_iff' _ RecursiveStopDisposition.ext_iff

end RatchetingInquiry
