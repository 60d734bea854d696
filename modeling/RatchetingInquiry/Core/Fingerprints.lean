import RatchetingInquiry.Core.Effects
import RatchetingInquiry.Formal.Universe
import RatchetingInquiry.Learning.Models
import RatchetingInquiry.Compression.Models
import RatchetingInquiry.Project.Models

/-! Content fingerprints. The source hashes a namespace and the canonical JSON of a value with SHA-256.
`Material` lists what is hashed, one constructor for each namespace, and the hash function itself is a
parameter: a statement that needs no collisions says so. -/

namespace RatchetingInquiry

/-- An aggregate-owned record that a memory reference can name. -/
inductive OwnedRecord where
  | probeEvent (record : ProbeEvent)
  | lemmaVersion (record : LemmaVersion)
  | semanticDelta (record : SemanticDelta)
  | probeIdentity (record : ProbeIdentity)
  | retentionPackage (record : RetentionPackage)
  | reacquisitionScaffold (record : ReacquisitionScaffold)
  | recoveryProtocol (record : RecoveryProtocol)
  | evidence (record : Evidence)
  | checkerVerdict (record : CheckerVerdictRecord)
  | warrantDecision (record : WarrantDecisionRecord)
  | effectRequest (record : EffectRequest)
  | externalReturn (record : ExternalReturn)
  | reconstruction (record : Reconstruction)
  | predictionSeal (record : PredictionSeal)
deriving DecidableEq

/-- The observation facts that a measurement check binds, without the check itself. -/
structure MeasuredFacts where
  id : String
  branch : RecoveryBranch
  reacquisitionRequestId : String
  childInquiryId : String
  childPrefixSequence : Nat
  childPrefixDigest : String
  retentionPackageId : Option String
  pins : RecoveryPins
  costs : CostVector
  logicalProbeIds : List String
  effectRequestIds : List String
  competenceEstablished : Bool
  competenceCheck : Option CheckReference
deriving DecidableEq

/-- The comparison facts that a comparison check binds, without the check itself. -/
structure ComparedFacts where
  id : String
  baselineFrontier : RecoveryFrontier
  retainedFrontier : RecoveryFrontier
  outcome : RecoveryComparisonOutcome
  coverage : List FrontierCoverage
deriving DecidableEq

structure SemanticFieldMaterial where
  probe : String
  horizon : String
  items : List SemanticItem
  history : List String
  crossProbe : List String
  retrieval : List String
  methods : List String
  reopening : List String
  authorizedIrrelevanceWarrants : List String
deriving DecidableEq

structure ProbeEvaluationMaterial where
  candidateProbeId : String
  protocol : ProbeEvaluationProtocol
  samples : List ProbeSample
  trainingObservationIds : List String
  holdoutObservationIds : List String
  trainingDiscriminationGain : Nat
  holdoutDiscriminationGain : Nat
  protectedErrorCount : Nat
deriving DecidableEq

structure CompilationMaterial where
  candidateFingerprint : String
  decisionFingerprint : String
  anchorCommitSha : String
  bindingRevision : String
  scopeFingerprint : String
  protectedHorizonId : String
  comparisonPolicyId : String
  compilerVersion : String
deriving DecidableEq

structure CompiledReferent where
  recordType : String
  recordId : String
deriving DecidableEq

/-- Rebuildable executable view over one exact admitted question candidate. -/
structure CompiledQuestionContract where
  id : String
  candidateId : String
  candidateFingerprint : String
  decisionId : String
  decisionFingerprint : String
  limitationId : String
  anchorId : String
  anchorCommitSha : String
  bindingRevision : String
  scopeFingerprint : String
  protectedHorizonId : String
  comparisonPolicyId : String
  contract : QuestionContract
  referents : List CompiledReferent
  possibleReturns : List ConsequentialReturn
  downstreamConsumerIds : List String
deriving DecidableEq

structure GoalMaterial where
  compiledQuestionId : String
  acceptedDecodeId : String
  sourceClaimId : String
  downstreamObligationId : String
  anchorId : String
  limitationId : String
  frontierId : String
  selectedCandidateId : String
  compilerVersion : String
  acceptanceRegistryVersion : String
  mutationRegistryVersion : String
deriving DecidableEq

structure GoalCandidateMaterial extends GoalMaterial where
  goalFingerprint : String
  bindingRevision : String
  scopeFingerprint : String
  protectedHorizonId : String
deriving DecidableEq

/-- The complete content that names a step plan. -/
structure StepPlanMaterial where
  inputFingerprint : String
  policyVersion : String
  status : PlanStatus
  selectedObligationId : Option String
  selectedAttemptKey : Option AttemptKey
  reason : PlanReason
  remainingBudget : Nat
deriving DecidableEq

/-- An obligation with the coordinates that order it for the scheduler. -/
structure ScheduledObligation where
  obligation : Obligation
  attemptKey : AttemptKey
  creationSequence : Nat
  dependencyDepth : Nat := 0
deriving DecidableEq

/-- Everything that the scheduler decides upon. -/
structure SchedulerInput where
  entries : List ScheduledObligation
  completedObligationIds : List String
  attemptCounts : List (AttemptKey × Int)
  stepsUsed : Int
  stepBudget : Int
  readyEventCost : Int
  maxAttemptsPerKey : Int
  policyVersion : String
deriving DecidableEq

/-- What is hashed, under the namespace that separates it from the rest. -/
inductive Material where
  | scope (scope : Scope)
  | obligation (kind : ObligationKind) (args : List BoundArgument) (scope bindingRevision : String)
  | conflict (claimIds : String × String)
  | conflictObligation (conflictId : String)
  | attackObligation (carrier : String) (kind : ObligationKind) (scope : String)
  | l0Claim (contract : String) (role : ClaimRole) (answer : InertPayload) (boundArgs : List BoundArgument)
      (scope : String) (provenance : Provenance)
  | probeIdentity (identity : ProbeIdentity)
  | semanticField (material : SemanticFieldMaterial)
  | semanticFieldRecord (field : SemanticField)
  | ownedRecord (owner : MemoryOwner) (recordType : OwnedRecordType) (schemaVersion : Nat) (record : OwnedRecord)
  | retentionPackage (package : RetentionPackage)
  | structuralIndex (packages : List (String × String)) (ownedFingerprints : List (String × String))
  | recoveryMeasurement (facts : MeasuredFacts)
  | recoveryComparison (facts : ComparedFacts)
  | consolidationIndex (sequence : Nat) (keys : List String)
  | fieldIndex (sequence : Nat) (ordered : List String)
  | fieldOverflow (evaluationId : String) (overflow : List String) (scope : String)
  | probeSample (sample : ProbeSample)
  | sampleIndex (fingerprints : List String)
  | probeEvaluation (material : ProbeEvaluationMaterial)
  | compressionContract (contract : CompressionContract)
  | questionCandidate (candidate : QuestionContractCandidate)
  | questionDecision (decision : QuestionRepertoireDecision)
  | generatedQuestion (material : CompilationMaterial)
  | compiledQuestion (compiled : CompiledQuestionContract)
  | gate (commands : List String)
  | goalMaterial (material : GoalMaterial)
  | goal (goal : ImplementationGoalContract)
  | goalCandidateMaterial (material : GoalCandidateMaterial)
  | goalCandidate (candidate : ImplementationGoalCandidate)
  | decodeOutcome (outcome : DecodeOutcome)
  | claim (claim : Claim)
  | claimRecord (claim : Claim)
  | projectAnchor (anchor : ProjectAnchor)
  | capabilityLimitation (limitation : CapabilityLimitation)
  | capabilityFrontier (frontier : CapabilityFrontier)
  | capabilitySuccessor (candidate : CapabilitySuccessorCandidate)
  | stepPlan (material : StepPlanMaterial)
  | context (context : InquiryContext)
  | finiteUniverse (finiteUniverse : FiniteUniverse)
  | schedulerInput (input : SchedulerInput)
  | questionCatalog (catalog : QuestionCatalog)
  | backlogFinding (title protectedConsequence source : String)
  | backlogEffect (text : String)

/-- The hash function, as the hexadecimal digest of what is hashed. -/
class Fingerprints where
  digest : Material → String

/-- The first 24 characters of a digest. -/
def shortDigest (digest : String) : String := String.ofList (digest.toList.take 24)

section
variable [Fingerprints]

def Scope.fingerprint (scope : Scope) : String := Fingerprints.digest (.scope scope)

def FiniteUniverse.fingerprint (finiteUniverse : FiniteUniverse) : String :=
  Fingerprints.digest (.finiteUniverse finiteUniverse)

def QuestionCatalog.digest (catalog : QuestionCatalog) : String := Fingerprints.digest (.questionCatalog catalog)

/-- `Obligation.fingerprint`. Argument names are unique, so their order by name is the canonical one. -/
def Obligation.fingerprint (obligation : Obligation) : String :=
  Fingerprints.digest (.obligation obligation.kind
    (obligation.args.insertionSort (fun left right => left.name ≤ right.name))
    obligation.scope.fingerprint obligation.bindingRevision)

def ProbeIdentity.fingerprint (identity : ProbeIdentity) : String := Fingerprints.digest (.probeIdentity identity)

def RetentionPackage.fingerprint (package : RetentionPackage) : String :=
  Fingerprints.digest (.retentionPackage package)

def ProbeSample.fingerprint (sample : ProbeSample) : String := Fingerprints.digest (.probeSample sample)

/-- Fingerprint of every measured fact, excluding its checker reference. -/
def RecoveryObservation.measurementPropositionId (observation : RecoveryObservation) : String :=
  Fingerprints.digest (.recoveryMeasurement {
    id := observation.id
    branch := observation.branch
    reacquisitionRequestId := observation.reacquisitionRequestId
    childInquiryId := observation.childInquiryId
    childPrefixSequence := observation.childPrefixSequence
    childPrefixDigest := observation.childPrefixDigest
    retentionPackageId := observation.retentionPackageId
    pins := observation.pins
    costs := observation.costs
    logicalProbeIds := observation.logicalProbeIds
    effectRequestIds := observation.effectRequestIds
    competenceEstablished := observation.competenceEstablished
    competenceCheck := observation.competenceCheck })

/-- Fingerprint of the checked arithmetic, excluding its check reference. -/
def RecoveryComparison.comparisonPropositionId (comparison : RecoveryComparison) : String :=
  Fingerprints.digest (.recoveryComparison {
    id := comparison.id
    baselineFrontier := comparison.baselineFrontier
    retainedFrontier := comparison.retainedFrontier
    outcome := comparison.outcome
    coverage := comparison.coverage })

/-- The identity of a step plan covers its complete replayable content. -/
def StepPlanMaterial.planId (material : StepPlanMaterial) : String :=
  "step-plan:" ++ Fingerprints.digest (.stepPlan material)

/-- `WarrantedLemma.validate_join`, run whenever a version and its support are joined. -/
def WarrantedLemma.validateJoin (warranted : WarrantedLemma) : Except Failure WarrantedLemma := do
  require (warranted.version.id = warranted.support.lemmaVersionId)
    (.validation "lemma version and support owner do not refer to one object")
  require (∀ route ∈ warranted.support.allSupportRoutes,
      route.environment.scopeFingerprint = warranted.version.scope.fingerprint ∧
      route.environment.bindingRevision = warranted.version.scope.bindingRevision ∧
      route.environment.finiteUniverseHash = warranted.version.scope.finiteUniverseHash)
    (.validation "support routes must remain inside the lemma's exact scope/binding/universe")
  return warranted

/-- Version and support are about one lemma, and every route stays inside its scope, binding and universe. -/
structure WarrantedLemma.IsJoined (warranted : WarrantedLemma) : Prop where
  one_object : warranted.version.id = warranted.support.lemmaVersionId
  routes_inside : ∀ route ∈ warranted.support.allSupportRoutes,
    route.environment.scopeFingerprint = warranted.version.scope.fingerprint ∧
    route.environment.bindingRevision = warranted.version.scope.bindingRevision ∧
    route.environment.finiteUniverseHash = warranted.version.scope.finiteUniverseHash

theorem validateJoin_eq_ok {warranted result : WarrantedLemma} :
    warranted.validateJoin = .ok result ↔ result.IsJoined ∧ result = warranted := by
  simp only [WarrantedLemma.validateJoin, require_bind_eq_ok, pure, Except.pure, Except.ok.injEq]
  constructor
  · rintro ⟨object, inside, rfl⟩
    exact ⟨⟨object, inside⟩, rfl⟩
  · rintro ⟨⟨object, inside⟩, rfl⟩
    exact ⟨object, inside, rfl⟩

end

end RatchetingInquiry
