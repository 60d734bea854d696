import RatchetingInquiry.Library.Canonical
import RatchetingInquiry.Memory.Models
import RatchetingInquiry.Probes.Models

/-! Strict consolidation, field-evaluation and learned-probe records. -/

namespace RatchetingInquiry

inductive ConsolidationSourceRole where
  | recentEpisode | olderException | counterexample
deriving DecidableEq

inductive ConsolidationStatus where
  | ready | insufficientDiversity
deriving DecidableEq

/-- The one consolidation policy; its type fixes every limit. -/
inductive ConsolidationPolicy where
  | interleaveV1
deriving DecidableEq

def ConsolidationPolicy.recentLimit : ConsolidationPolicy → Nat
  | .interleaveV1 => 4

def ConsolidationPolicy.exceptionLimit : ConsolidationPolicy → Nat
  | .interleaveV1 => 4

def ConsolidationPolicy.counterexampleLimit : ConsolidationPolicy → Nat
  | .interleaveV1 => 4

def ConsolidationPolicy.minimumDistinctEpisodes : ConsolidationPolicy → Nat
  | .interleaveV1 => 2

structure ConsolidationSource where
  role : ConsolidationSourceRole
  reference : OwnedMemoryRef
  semanticSequence : Nat
deriving DecidableEq

structure ConsolidationCheckpoint where
  id : String
  policy : ConsolidationPolicy
  sourceSequence : Nat
  sourceIndexFingerprint : String
  scopeFingerprint : String
  bindingRevision : String
  protectedHorizonId : String
  sources : List ConsolidationSource
  status : ConsolidationStatus
deriving DecidableEq

/-- The number of sources that are episodes, recent or exceptional. -/
def episodeCount (sources : List ConsolidationSource) : Nat :=
  sources.countP (fun source => source.role = .recentEpisode || source.role = .olderException)

def consolidationStatus (policy : ConsolidationPolicy) (sources : List ConsolidationSource) : ConsolidationStatus :=
  if policy.minimumDistinctEpisodes ≤ episodeCount sources then .ready else .insufficientDiversity

/-- `ConsolidationCheckpoint.validate_checkpoint`, run whenever a checkpoint is built. -/
def ConsolidationCheckpoint.validateCheckpoint (checkpoint : ConsolidationCheckpoint) :
    Except Failure ConsolidationCheckpoint := do
  require (checkpoint.sources.map (·.reference.key)).Nodup
    (.validation "consolidation sources must be deduplicated")
  require (checkpoint.status = consolidationStatus checkpoint.policy checkpoint.sources)
    (.validation "consolidation status does not match source diversity")
  return checkpoint

@[ext]
structure CandidateSupportBoundary where
  scope : Scope
  applicabilityGuardId : String
  assumptionIds : List String := []
  requiredDependencyIds : List String := []
  openDependencyObligationIds : List String := []
  assumptions_canonical : CanonicalIds assumptionIds := by decide
  dependencies_canonical : CanonicalIds requiredDependencyIds := by decide
  open_canonical : CanonicalIds openDependencyObligationIds := by decide

instance : DecidableEq CandidateSupportBoundary := fun _ _ => decidable_of_iff' _ CandidateSupportBoundary.ext_iff

@[ext]
structure ConsolidationCandidate where
  id : String
  checkpointId : String
  generalizationClaimId : String
  boundary : CandidateSupportBoundary
  challengeObligationIds : List String
  challenges_canonical : CanonicalIds challengeObligationIds := by decide
  challenged : challengeObligationIds ≠ [] := by decide

instance : DecidableEq ConsolidationCandidate := fun _ _ => decidable_of_iff' _ ConsolidationCandidate.ext_iff

inductive MemoryPatchKind where
  | guardChange | relationChange | split | rebind
deriving DecidableEq

/-- How a patch accounts for one predecessor dependency. Only a hard discharge carries a warrant
decision. -/
inductive DependencyDispositionKind where
  | transported
  | hardDischarged (warrantDecisionId : String)
deriving DecidableEq

structure DependencyDisposition where
  dependencyId : String
  kind : DependencyDispositionKind
deriving DecidableEq

@[ext]
structure MemoryPatchCandidate where
  id : String
  targetLemmaId : String
  triggeringMismatchId : String
  triggeringReturnId : String
  proposedClaimId : String
  patchKind : MemoryPatchKind
  predecessorSupportRouteIds : List String
  dependencyDispositions : List DependencyDisposition
  challengeObligationIds : List String
  scopeFingerprint : String
  predecessors_canonical : CanonicalIds predecessorSupportRouteIds := by decide
  challenges_canonical : CanonicalIds challengeObligationIds := by decide
  dispositions_canonical : CanonicalIds (dependencyDispositions.map (·.dependencyId)) := by decide
  supported_and_challenged : predecessorSupportRouteIds ≠ [] ∧ challengeObligationIds ≠ [] := by decide

instance : DecidableEq MemoryPatchCandidate := fun _ _ => decidable_of_iff' _ MemoryPatchCandidate.ext_iff

structure ReconsolidationLink where
  id : String
  memoryPatchId : String
  predecessorLemmaId : String
  successorLemmaId : String
  correctionId : String
  warrantDecisionId : String
deriving DecidableEq

/-- The one semantic-field policy; its type fixes the bound. -/
inductive SemanticFieldPolicy where
  | conservativeQuestionV1
deriving DecidableEq

def SemanticFieldPolicy.maximumItems : SemanticFieldPolicy → Nat
  | .conservativeQuestionV1 => 32

inductive SemanticFieldEvaluationStatus where
  | valid | incomplete | invalid
deriving DecidableEq

structure SemanticFieldEvaluation where
  id : String
  policy : SemanticFieldPolicy
  fieldId : String
  fieldFingerprint : String
  field : SemanticField
  sourceSequence : Nat
  sourceIndexFingerprint : String
  probeFingerprint : String
  requiredStructureIds : List String
  includedStructureIds : List String
  overflowStructureIds : List String
  irrelevantStructureIds : List String
  status : SemanticFieldEvaluationStatus
deriving DecidableEq

inductive RepresentationGapKind where
  | noSeparator | bindingInadequate | probeBasisInadequate | languageInadequate
deriving DecidableEq

@[ext]
structure RepresentationGap where
  id : String
  obligationId : String
  stateOrClaimIds : List String
  protectedConsequenceDifferenceId : String
  failedProbeFingerprints : List String
  kind : RepresentationGapKind
  scopeFingerprint : String
  bindingRevision : String
  protectedHorizonId : String
  sources_canonical : CanonicalIds stateOrClaimIds := by first | exact canonical_nil | decide
  probes_canonical : CanonicalIds failedProbeFingerprints := by first | exact canonical_nil | decide
  probe_failed : failedProbeFingerprints ≠ [] := by decide

instance : DecidableEq RepresentationGap := fun _ _ => decidable_of_iff' _ RepresentationGap.ext_iff

def learnedProbeContractKey : String := "learned-recurrent-probe@1.0.0"

@[ext]
structure LearnedProbeCandidate where
  id : String
  representationGapId : String
  probeIdentity : ProbeIdentity
  generatedPayload : JsonValue
  challengeObligationIds : List String
  contract_fixed : probeIdentity.questionContractKey = learnedProbeContractKey := by decide
  challenges_canonical : CanonicalIds challengeObligationIds := by decide
  challenged : challengeObligationIds ≠ [] := by decide

instance : DecidableEq LearnedProbeCandidate := fun _ _ => decidable_of_iff' _ LearnedProbeCandidate.ext_iff

instance : RecordEq LearnedProbeCandidate where
  same left right :=
    RecordEq.same left.generatedPayload right.generatedPayload &&
      { left with generatedPayload := right.generatedPayload } = right
  same_refl candidate := by simp [RecordEq.same_refl]

structure ProbeSample where
  observationId : String
  protectedConsequenceClassId : String
  existingBasisClassId : String
  candidateValueId : String
deriving DecidableEq

/-- The one evaluation protocol; its type fixes the holdout share. -/
inductive ProbeEvaluationProtocol where
  | finiteStratifiedHoldoutV1
deriving DecidableEq

def ProbeEvaluationProtocol.holdoutDenominator : ProbeEvaluationProtocol → Nat
  | .finiteStratifiedHoldoutV1 => 4

structure ProbeEvaluation where
  id : String
  candidateProbeId : String
  protocol : ProbeEvaluationProtocol
  sampleIndexFingerprint : String
  samples : List ProbeSample
  trainingObservationIds : List String
  holdoutObservationIds : List String
  trainingDiscriminationGain : Nat
  holdoutDiscriminationGain : Nat
  protectedErrorCount : Nat
  redundancyCheck : CheckReference
  protectedBehaviorCheck : CheckReference
  evaluationPropositionId : String
deriving DecidableEq

/-- `sorted(...)` of the source on texts: by code points. -/
def sortedIds (values : List String) : List String := values.insertionSort (· ≤ ·)

@[simp] theorem mem_sortedIds {values : List String} {value : String} : value ∈ sortedIds values ↔ value ∈ values :=
  List.mem_insertionSort _

theorem sortedIds_perm (values : List String) : (sortedIds values).Perm values := List.perm_insertionSort _ _

theorem sortedIds_eq_of_perm {values others : List String} (same : others.Perm values) :
    sortedIds others = sortedIds values :=
  insertionSort_eq_of_perm _ same (fun _ _ _ _ lower upper => le_antisymm lower upper)

theorem sortedIds_canonical {values : List String} (distinct : values.Nodup) : CanonicalIds (sortedIds values) :=
  insertionSort_strict distinct

/-- `ProbeEvaluation.validate_probe_evaluation`, run whenever an evaluation is built. -/
def ProbeEvaluation.validateProbeEvaluation (evaluation : ProbeEvaluation) : Except Failure ProbeEvaluation := do
  require (CanonicalIds evaluation.trainingObservationIds)
    (.validation "training observations must be unique and canonically sorted")
  require (CanonicalIds evaluation.holdoutObservationIds)
    (.validation "holdout observations must be unique and canonically sorted")
  require (∀ observationId ∈ evaluation.trainingObservationIds, observationId ∉ evaluation.holdoutObservationIds)
    (.validation "training and holdout observations must be disjoint")
  require (evaluation.trainingObservationIds ≠ [] ∧ evaluation.holdoutObservationIds ≠ [])
    (.validation "probe evaluation requires training and holdout observations")
  require ((evaluation.samples.map ProbeSample.observationId).Nodup ∧
      sortedIds (evaluation.samples.map ProbeSample.observationId) =
        sortedIds (evaluation.trainingObservationIds ++ evaluation.holdoutObservationIds))
    (.validation "probe samples must exactly cover training and holdout ids")
  return evaluation

inductive ProbeAdmissionOutcome where
  | admitted | reject | inconclusive
deriving DecidableEq

structure ProbeAdmissionDecision where
  id : String
  candidateProbeId : String
  evaluationId : String
  outcome : ProbeAdmissionOutcome
  controllerId : String
deriving DecidableEq

end RatchetingInquiry
