import RatchetingInquiry.Claims.Models

/-! Strict cognitive records; effect, return and decode authority remains with the core records. -/

namespace RatchetingInquiry

structure ProbeIdentity where
  questionContractKey : String
  relationalRole : String
  bindingSchemaId : String
  bindingRevision : String
  scopeFingerprint : String
  comparisonSemanticsId : String
  applicabilityGuardId : String
  protectedHorizonId : String
deriving DecidableEq

structure ComparabilityBridge where
  fromProbeFingerprint : String
  toProbeFingerprint : String
  comparisonPropositionId : String
  scopeFingerprint : String
  warrantLemmaId : String
deriving DecidableEq

/-- The bridge joins exactly the two given probes, in either direction. -/
def ComparabilityBridge.connects (bridge : ComparabilityBridge) (left right : String) : Bool :=
  (bridge.fromProbeFingerprint = left && bridge.toProbeFingerprint = right) ||
    (bridge.fromProbeFingerprint = right && bridge.toProbeFingerprint = left)

inductive PriorAnswerExposure where
  | notApplicable | withheldUntilCapture | exposedBeforeCapture
deriving DecidableEq

structure ProbeEvent where
  id : String
  probeIdentity : ProbeIdentity
  boundReferents : List BoundArgument
  bindingRevision : String
  stateRevision : Nat
  semanticFieldId : String
  generatedAnswerClaimId : Option String := none
  externalReturnIds : List String := []
  interpretationClaimIds : List String := []
  sequenceIndex : Nat
  comparabilityBridge : Option ComparabilityBridge := none
  freshObservationRequired : Bool := false
  priorAnswerExposure : PriorAnswerExposure := .notApplicable
deriving DecidableEq

instance : RecordEq ProbeEvent where
  same left right :=
    RecordEq.same left.boundReferents right.boundReferents &&
      { left with boundReferents := right.boundReferents } = right
  same_refl event := by simp [RecordEq.same_refl]

inductive RelevanceStatus where
  | active | undetermined | irrelevant
deriving DecidableEq

structure SemanticItem where
  structureId : String
  relevance : RelevanceStatus
  irrelevanceWarrantId : Option String := none
  reopeningConditionId : Option String := none
deriving DecidableEq

structure SemanticField where
  id : String
  probeFingerprint : String
  protectedHorizonId : String
  items : List SemanticItem
  sameProbeHistoryEventIds : List String := []
  crossProbeTraceIds : List String := []
  retrievalResultIds : List String := []
  methodContractIds : List String := []
  reopeningConditionIds : List String := []
deriving DecidableEq

/-- `SemanticField.validate_field`, run whenever a field is built. -/
def SemanticField.validateField (field : SemanticField) : Except Failure SemanticField := do
  require (field.items.map SemanticItem.structureId).Nodup
    (.validation "semantic structures must appear exactly once in the field")
  require (field.sameProbeHistoryEventIds.Nodup ∧ field.crossProbeTraceIds.Nodup ∧ field.retrievalResultIds.Nodup ∧
      field.methodContractIds.Nodup ∧ field.reopeningConditionIds.Nodup)
    (.validation "semantic field reference collections must be unique")
  return field

/-- Inquiry intent linked to, but not duplicating, the core effect-attempt plan. -/
structure CognitiveAttemptPlan where
  id : String
  obligationId : String
  probeOrActionId : String
  effectRequestId : String
  effectAttemptPlanId : Option String
  sourceStateRevision : Nat
  scopeFingerprint : String
  plannedSequence : Nat
deriving DecidableEq

structure PredictionSeal where
  id : String
  cognitivePlanId : String
  probeOrActionId : String
  predictedReturnClass : String
  predictedConsequence : JsonValue
  acceptableVariation : JsonValue
  scopeFingerprint : String
  basisClaimIds : List String
  sealedSequence : Nat
deriving DecidableEq

instance : RecordEq PredictionSeal where
  same left right :=
    RecordEq.same left.predictedConsequence right.predictedConsequence &&
      RecordEq.same left.acceptableVariation right.acceptableVariation &&
      { left with
        predictedConsequence := right.predictedConsequence, acceptableVariation := right.acceptableVariation } = right
  same_refl prediction := by simp [RecordEq.same_refl]

structure Mismatch where
  id : String
  predictionId : String
  externalReturnId : String
  decodeOutcomeId : String
  differenceClaimId : String
  scopeFingerprint : String
  protectedConsequenceChanged : Bool
  classification : String
deriving DecidableEq

structure Reconstruction where
  id : String
  priorStateRevision : Nat
  externalReturnId : String
  decodeOutcomeIds : List String
  activatedMemoryIds : List String := []
  candidateClaimIds : List String := []
  candidateRepairIds : List String := []
  residualObligationIds : List String := []
  generatedDetailIds : List String := []
  historicalFactIds : List String := []
  reconstructedSequence : Nat
deriving DecidableEq

inductive SemanticChangeOperation where
  | add | reopen | retire
deriving DecidableEq

structure WarrantedChange where
  changeId : String
  propositionId : String
  scopeFingerprint : String
  operation : SemanticChangeOperation
  warrantLemmaId : String
deriving DecidableEq

@[ext]
structure SemanticDelta where
  id : String
  reconstructionId : String
  warrantedChanges : List WarrantedChange
  reopenedStructureIds : List String := []
  retiredStructureIds : List String := []
  committedSequence : Nat
  changes_unique : (warrantedChanges.map WarrantedChange.changeId).Nodup := by decide
  reopened_not_retired : ∀ structureId ∈ reopenedStructureIds, structureId ∉ retiredStructureIds := by decide

instance : DecidableEq SemanticDelta := fun _ _ => decidable_of_iff' _ SemanticDelta.ext_iff

end RatchetingInquiry
