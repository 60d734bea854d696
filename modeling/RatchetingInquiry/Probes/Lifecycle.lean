import RatchetingInquiry.Core.Fingerprints

/-! Pure probe-trace and semantic-field transformations. -/

namespace RatchetingInquiry

section
variable [Fingerprints]

/-- Two observations are comparable when probe, binding and referents agree, or a bridge joins their
probes. -/
def compareProbeEvents (left right : ProbeEvent) : Bool :=
  let leftFingerprint := left.probeIdentity.fingerprint
  let rightFingerprint := right.probeIdentity.fingerprint
  if leftFingerprint = rightFingerprint && left.bindingRevision = right.bindingRevision &&
      RecordEq.same left.boundReferents right.boundReferents then true
  else
    (right.comparabilityBridge.or left.comparabilityBridge).any
      (fun bridge => bridge.connects leftFingerprint rightFingerprint)

/-- The observations recorded for one recurrent probe. -/
structure ProbeTrace where
  probeFingerprint : String
  events : List ProbeEvent
deriving DecidableEq

/-- `ProbeTrace.validate_trace`, run whenever a trace is built. -/
def ProbeTrace.validateTrace (trace : ProbeTrace) : Except Failure ProbeTrace := do
  require (∀ event ∈ trace.events, event.probeIdentity.fingerprint = trace.probeFingerprint)
    (.validation "trace contains an event with a different probe identity")
  require ((trace.events.map ProbeEvent.sequenceIndex).Pairwise (· < ·))
    (.validation "probe trace events must have a strict sequence order")
  require (trace.events.map ProbeEvent.id).Nodup (.validation "probe trace event ids must be unique")
  return trace

def appendProbeEvent (trace : ProbeTrace) (event : ProbeEvent) : Except Failure ProbeTrace := do
  require (event.probeIdentity.fingerprint = trace.probeFingerprint)
    (.validation "event does not belong to this recurrent probe")
  match trace.events.getLast? with
  | none => pure ()
  | some previous =>
    require (previous.sequenceIndex < event.sequenceIndex)
      (.validation "new probe event must follow the current trace tail")
    require (compareProbeEvents previous event)
      (.validation "probe observations are not comparable without a bridge")
  return { trace with events := trace.events ++ [event] }

/-- Build a non-authoritative view from explicit, checked input references. -/
def buildSemanticField (probeIdentity : ProbeIdentity) (protectedHorizonId : String) (items : List SemanticItem)
    (sameProbeHistoryEventIds crossProbeTraceIds retrievalResultIds methodContractIds reopeningConditionIds
      authorizedIrrelevanceWarrantIds : List String) : Except Failure SemanticField := do
  let irrelevant := items.filter (fun item => item.relevance = .irrelevant)
  require (irrelevant.filterMap SemanticItem.irrelevanceWarrantId ⊆ authorizedIrrelevanceWarrantIds)
    (.validation "irrelevance requires an active checked consequence-null warrant")
  require (irrelevant.filterMap SemanticItem.reopeningConditionId ⊆ reopeningConditionIds)
    (.validation "irrelevance reopening conditions must be pinned by the field")
  SemanticField.validateField {
    id := "field_" ++ shortDigest (Fingerprints.digest (.semanticField {
      probe := probeIdentity.fingerprint
      horizon := protectedHorizonId
      items := items
      history := sameProbeHistoryEventIds
      crossProbe := crossProbeTraceIds
      retrieval := retrievalResultIds
      methods := methodContractIds
      reopening := reopeningConditionIds
      authorizedIrrelevanceWarrants := sortedIds authorizedIrrelevanceWarrantIds }))
    probeFingerprint := probeIdentity.fingerprint
    protectedHorizonId := protectedHorizonId
    items := items
    sameProbeHistoryEventIds := sameProbeHistoryEventIds
    crossProbeTraceIds := crossProbeTraceIds
    retrievalResultIds := retrievalResultIds
    methodContractIds := methodContractIds
    reopeningConditionIds := reopeningConditionIds }

end

end RatchetingInquiry
