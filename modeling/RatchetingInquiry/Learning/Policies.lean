import RatchetingInquiry.Memory.References
import RatchetingInquiry.Probes.Lifecycle

/-! Pure deterministic consolidation, field and probe-evaluation policies. -/

namespace RatchetingInquiry

/-- The last `limit` items of a list. -/
def lastItems {α : Type} (limit : Nat) (items : List α) : List α := items.drop (items.length - limit)

/-- Observations in the order of their sequence index and then of their identity. -/
def sortedObservations (observations : List ProbeEvent) : List ProbeEvent :=
  observations.insertionSort (fun left right =>
    left.sequenceIndex < right.sequenceIndex ∨ (left.sequenceIndex = right.sequenceIndex ∧ left.id ≤ right.id))

/-- The observation has a mismatched return, or an interpretation that is conflicted, contested or
refuted. -/
def isExceptional (claims : List Claim) (conflicts : List Conflict) (mismatches : List Mismatch)
    (observation : ProbeEvent) : Bool :=
  observation.externalReturnIds.any (fun returnId => returnId ∈ mismatches.map Mismatch.externalReturnId) ||
    (observation.interpretationClaimIds.filterMap (indexBy Claim.id claims)).any (fun claim =>
      conflicts.any (fun conflict => claim.id = conflict.claimIds.1 ∨ claim.id = conflict.claimIds.2) ||
        claim.assessment = .contested || claim.assessment = .refuted)

/-- Keep the first source of each reference key. -/
def deduplicateSources (sources : List ConsolidationSource) : List ConsolidationSource :=
  sources.foldl (fun unique source =>
    if source.reference.key ∈ unique.map (·.reference.key) then unique else unique ++ [source]) []

section
variable [Fingerprints]

def sourceIndexFingerprint (references : List OwnedMemoryRef) (sequence : Nat) : String :=
  Fingerprints.digest (.consolidationIndex sequence (sortedIds (references.map (·.key.text))))

/-- The source of one observation. A reference takes only an identifier, and observations are not held to that. -/
def episodeSource (role : ConsolidationSourceRole) (observation : ProbeEvent) : Except Failure ConsolidationSource := do
  require (isIdentifier observation.id) (.validation patternMismatch)
  return {
    role := role
    reference := makeOwnedMemoryRef .probeEvent observation.id ownedSchemaVersion (.probeEvent observation)
    semanticSequence := observation.sequenceIndex }

/-- The sources of accepted counterexamples. The selected requests are read for a schema version that a
request record does not have, so the first counterexample among them raises. -/
def counterexampleSources (requests : List EffectRequestState) : Except Failure (List ConsolidationSource) := do
  requests.forM fun request =>
    match request.acceptedResult with
    | some { role := .counterexample .., .. } =>
      throw (.attributeError "'EffectRequest' object has no attribute 'schema_version'")
    | _ => pure ()
  return []

/-- Interleave recent episodes, older exceptions and accepted counterexamples. -/
def selectConsolidationCheckpoint (checkpointId : String) (policy : ConsolidationPolicy) (sourceSequence : Nat)
    (scopeFingerprint bindingRevision protectedHorizonId : String) (probeObservations : List ProbeEvent)
    (claims : List Claim) (conflicts : List Conflict) (mismatches : List Mismatch)
    (requests : List EffectRequestState) : Except Failure ConsolidationCheckpoint := do
  let observations := sortedObservations (probeObservations.filter (fun item =>
    item.probeIdentity.scopeFingerprint = scopeFingerprint && item.bindingRevision = bindingRevision &&
      item.probeIdentity.protectedHorizonId = protectedHorizonId))
  let recent := lastItems policy.recentLimit observations
  let olderExceptions := lastItems policy.exceptionLimit (observations.filter (fun item =>
    item.id ∉ recent.map ProbeEvent.id && isExceptional claims conflicts mismatches item))
  let recentSources ← recent.reverse.mapM (episodeSource .recentEpisode)
  let exceptionSources ← olderExceptions.reverse.mapM (episodeSource .olderException)
  let selectedRequests := (requests.insertionSort (fun left right =>
    left.request.id ≤ right.request.id)).take policy.counterexampleLimit
  let counterexamples ← counterexampleSources selectedRequests
  let sources := deduplicateSources (recentSources ++ exceptionSources ++ counterexamples)
  ConsolidationCheckpoint.validateCheckpoint {
    id := checkpointId
    policy := policy
    sourceSequence := sourceSequence
    sourceIndexFingerprint := sourceIndexFingerprint (sources.map (·.reference)) sourceSequence
    scopeFingerprint := scopeFingerprint
    bindingRevision := bindingRevision
    protectedHorizonId := protectedHorizonId
    sources := sources
    status := consolidationStatus policy sources }

/-- Distinct ids of the groups, earlier groups first, each group in canonical order. -/
def orderedStructureIds (groups : List (List String)) : List String :=
  (groups.flatMap (fun group => sortedIds group.dedup)).foldl (fun ordered item =>
    if item ∈ ordered then ordered else ordered ++ [item]) []

/-- The bounded field over the four groups, with its required ids, its overflow and its index. -/
def deriveConservativeField (probeIdentity : ProbeIdentity) (sourceSequence : Nat) (policy : SemanticFieldPolicy)
    (safety exception dependency retrieval : List String) :
    Except Failure (SemanticField × List String × List String × String) := do
  let ordered := orderedStructureIds [safety, exception, dependency, retrieval]
  let required := sortedIds (safety ++ exception ++ dependency).dedup
  let included := ordered.take policy.maximumItems
  let overflow := sortedIds (ordered.drop policy.maximumItems)
  -- every included item is built through its validator
  require ("" ∉ included) (.validation "semantic structure identity is required")
  let field ← buildSemanticField probeIdentity probeIdentity.protectedHorizonId
    (included.map (fun item => { structureId := item, relevance := .active })) [] [] (sortedIds retrieval.dedup) [] [] []
  return (field, required, overflow, Fingerprints.digest (.fieldIndex sourceSequence ordered))

/-- `SemanticFieldEvaluation.validate_evaluation`, run whenever an evaluation is built. -/
def SemanticFieldEvaluation.validateEvaluation (evaluation : SemanticFieldEvaluation) :
    Except Failure SemanticFieldEvaluation := do
  require (∀ structureId ∈ evaluation.requiredStructureIds ++ evaluation.includedStructureIds ++
      evaluation.overflowStructureIds ++ evaluation.irrelevantStructureIds, isIdentifier structureId)
    (.validation patternMismatch)
  require (evaluation.field.id = evaluation.fieldId)
    (.validation "semantic-field evaluation must embed its exact derived field")
  require (Fingerprints.digest (.semanticFieldRecord evaluation.field) = evaluation.fieldFingerprint)
    (.validation "semantic-field fingerprint does not match the embedded field")
  require (evaluation.field.probeFingerprint = evaluation.probeFingerprint)
    (.validation "semantic field and evaluation must name the same probe")
  require (CanonicalIds evaluation.requiredStructureIds)
    (.validation "required structures must be unique and canonically sorted")
  require (CanonicalIds evaluation.includedStructureIds)
    (.validation "included structures must be unique and canonically sorted")
  require (CanonicalIds evaluation.overflowStructureIds)
    (.validation "overflow structures must be unique and canonically sorted")
  require (CanonicalIds evaluation.irrelevantStructureIds)
    (.validation "irrelevant structures must be unique and canonically sorted")
  require (∀ item ∈ evaluation.includedStructureIds, item ∉ evaluation.overflowStructureIds)
    (.validation "field items cannot be both included and overflow")
  require (evaluation.status =
      if evaluation.requiredStructureIds ⊆ evaluation.includedStructureIds ∧ evaluation.overflowStructureIds = [] then
        .valid else .incomplete)
    (.validation "field status does not match exact coverage")
  return evaluation

def evaluateConservativeField (evaluationId : String) (field : SemanticField) (policy : SemanticFieldPolicy)
    (sourceSequence : Nat) (sourceIndex probeFingerprint : String) (required overflow : List String) :
    Except Failure SemanticFieldEvaluation :=
  let included := sortedIds (field.items.map SemanticItem.structureId)
  let irrelevant := sortedIds
    ((field.items.filter (fun item => item.relevance = .irrelevant)).map SemanticItem.structureId)
  let requiredIds := sortedIds required.dedup
  let overflowIds := sortedIds overflow.dedup
  SemanticFieldEvaluation.validateEvaluation {
    id := evaluationId
    policy := policy
    fieldId := field.id
    fieldFingerprint := Fingerprints.digest (.semanticFieldRecord field)
    field := field
    sourceSequence := sourceSequence
    sourceIndexFingerprint := sourceIndex
    probeFingerprint := probeFingerprint
    requiredStructureIds := requiredIds
    includedStructureIds := included
    overflowStructureIds := overflowIds
    irrelevantStructureIds := irrelevant
    status := if requiredIds ⊆ included ∧ overflowIds = [] then .valid else .incomplete }

/-- The exact ordinary residual for structures omitted by the field bound. -/
def semanticFieldOverflowResidual (evaluation : SemanticFieldEvaluation) (scope : Scope) : Option Residual :=
  if evaluation.overflowStructureIds = [] then none
  else some {
    id := "residual_" ++ shortDigest (Fingerprints.digest
      (.fieldOverflow evaluation.id evaluation.overflowStructureIds scope.fingerprint))
    carrierId := evaluation.fieldId
    payload := .json (.object [("kind", .text "semantic_field_overflow"),
      ("structure_ids", .list (evaluation.overflowStructureIds.map .text))])
    scope := scope
    provenance := { kind := "derived_policy", sourceId := evaluation.id } }

end

/-- Number of pairs that the candidate separates although the existing basis does not. -/
def pairGain : List ProbeSample → Nat
  | [] => 0
  | left :: rest =>
    rest.countP (fun right => left.protectedConsequenceClassId ≠ right.protectedConsequenceClassId &&
      left.existingBasisClassId = right.existingBasisClassId && left.candidateValueId ≠ right.candidateValueId) +
      pairGain rest

section
variable [Fingerprints]

/-- Training and holdout parts: the last quarter of every consequence class, rounded up, is held out. -/
def stratifiedProbeSplit (samples : List ProbeSample) (protocol : ProbeEvaluationProtocol) :
    Except Failure (List ProbeSample × List ProbeSample) :=
  (sortedIds (samples.map ProbeSample.protectedConsequenceClassId).dedup).foldlM (fun (training, holdout) classId => do
    let group := (samples.filter (fun sample => sample.protectedConsequenceClassId = classId)).insertionSort
      (fun left right => left.fingerprint < right.fingerprint ∨
        (left.fingerprint = right.fingerprint ∧ left.observationId ≤ right.observationId))
    require (2 ≤ group.length)
      (.validation "each consequence class requires training and holdout samples")
    let holdoutCount := max 1 ((group.length + protocol.holdoutDenominator - 1) / protocol.holdoutDenominator)
    require (holdoutCount < group.length)
      (.validation "holdout split must leave a training sample in each class")
    return (training ++ group.take (group.length - holdoutCount), holdout ++ group.drop (group.length - holdoutCount)))
    ([], [])

def sortedSamples (samples : List ProbeSample) : List ProbeSample :=
  samples.insertionSort (fun left right => left.observationId ≤ right.observationId)

/-- Fingerprint the exact proof material checked for a probe evaluation. -/
def probeEvaluationPropositionId (material : ProbeEvaluationMaterial) : String :=
  "probe-evaluation:" ++ Fingerprints.digest (.probeEvaluation material)

def buildProbeEvaluation (evaluationId candidateProbeId : String) (samples : List ProbeSample)
    (protocol : ProbeEvaluationProtocol) (redundancyCheck protectedBehaviorCheck : CheckReference) :
    Except Failure ProbeEvaluation := do
  let (training, holdout) ← stratifiedProbeSplit samples protocol
  let trainingIds := sortedIds (training.map ProbeSample.observationId)
  let holdoutIds := sortedIds (holdout.map ProbeSample.observationId)
  ProbeEvaluation.validateProbeEvaluation {
    id := evaluationId
    candidateProbeId := candidateProbeId
    protocol := protocol
    sampleIndexFingerprint := Fingerprints.digest (.sampleIndex (sortedIds (samples.map ProbeSample.fingerprint)))
    samples := sortedSamples samples
    trainingObservationIds := trainingIds
    holdoutObservationIds := holdoutIds
    trainingDiscriminationGain := pairGain training
    holdoutDiscriminationGain := pairGain holdout
    protectedErrorCount := 0
    redundancyCheck := redundancyCheck
    protectedBehaviorCheck := protectedBehaviorCheck
    evaluationPropositionId := probeEvaluationPropositionId {
      candidateProbeId := candidateProbeId
      protocol := protocol
      samples := sortedSamples samples
      trainingObservationIds := trainingIds
      holdoutObservationIds := holdoutIds
      trainingDiscriminationGain := pairGain training
      holdoutDiscriminationGain := pairGain holdout
      protectedErrorCount := 0 } }

end

end RatchetingInquiry
