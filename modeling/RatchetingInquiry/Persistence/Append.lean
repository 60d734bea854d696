import RatchetingInquiry.Persistence.Ledger
import RatchetingInquiry.Serialization.Memory

/-! The append of a batch to a stream: one transaction that folds the committed prefix, checks every proposed
transition and every cross-stream fact, and only then writes. -/

namespace RatchetingInquiry

def childManifestFields : Fields ReacquisitionChildManifest ReacquisitionChildManifest :=
  Fields.of ReacquisitionChildManifest.mk |>.literal "schema_version" (.int 1)
    |>.field "parent_inquiry_id" (·.parentInquiryId) |>.field "request_id" (·.requestId)
    |>.field "child_inquiry_id" (·.childInquiryId) |>.field "pins" (·.pins) |>.field "context_digest" (·.contextDigest)
    |>.field "policy_version" (·.policyVersion) |>.field "inquiry_manifest_artifact" (·.inquiryManifestArtifact)

/-- `ReacquisitionChildManifest.model_validate_json`, which refuses an inquiry that is its own child. -/
def ReacquisitionChildManifest.validate (given : JsonValue) : Option ReacquisitionChildManifest :=
  (childManifestFields.validate given).filter (fun manifest => manifest.parentInquiryId ≠ manifest.childInquiryId)

/-- The replay of committed events, with a failure of its own for a lifecycle that they violate. -/
def replayCommitted [Fingerprints] (events : List StoredEvent) (violated : StoreFailure) :
    Except StoreFailure InquiryState :=
  match replay initialState (events.map StoredEvent.event) with
  | .ok state => .ok state
  | .error (.invalidTransition _) => .error violated
  | .error failure => .error (.domain failure)

section
variable [ByteFacts]

/-- `_load_child_manifest`. -/
def loadChildManifest (store : Option ArtifactStore) (request : ReacquisitionRequest) :
    Except StoreFailure ReacquisitionChildManifest := do
  let store ← found store (.sagaIntegrity "reacquisition requires a configured artifact store")
  let bytes ← store.getBytes request.childManifestArtifact
  let manifest ← found (bytes.loads.bind ReacquisitionChildManifest.validate)
    (.sagaIntegrity "reacquisition child manifest is malformed")
  let _ ← store.getBytes manifest.inquiryManifestArtifact
  return manifest

/-- The manifest binds the child that the request asks for. -/
def ReacquisitionChildManifest.answers (manifest : ReacquisitionChildManifest) (request : ReacquisitionRequest) : Bool :=
  manifest.parentInquiryId = request.parentInquiryId && manifest.requestId = request.id &&
    manifest.childInquiryId = request.childInquiryId && manifest.pins = request.pins &&
    manifest.contextDigest = request.childContextDigest && manifest.policyVersion = request.childPolicyVersion &&
    manifest.inquiryManifestArtifact = request.childInquiryManifestArtifact

/-- `_validate_request_manifest`. -/
def validateRequestManifest (store : Option ArtifactStore) (request : ReacquisitionRequest) :
    Except StoreFailure Unit := do
  let manifest ← loadChildManifest store request
  require (manifest.answers request = true)
    (.sagaIntegrity "reacquisition manifest differs from its parent request")

/-- `_validate_child_manifest`, against the context that the child started with. -/
def validateChildManifest (store : Option ArtifactStore) (request : ReacquisitionRequest) (context : InquiryContext) :
    Except StoreFailure Unit := do
  let manifest ← loadChildManifest store request
  require (manifest.answers request = true)
    (.sagaIntegrity "reacquisition child manifest does not match the request")
  require (context.scopeFingerprint = manifest.pins.scopeFingerprint ∧
      context.bindingRevision = manifest.pins.bindingRevision ∧
      context.protectedHorizonId = manifest.pins.protectedHorizonId ∧
      context.finiteUniverseHash = some manifest.pins.finiteUniverseHash)
    (.sagaIntegrity "reacquisition child context differs from recovery pins")

end

section
variable [Fingerprints] [ByteFacts] [Pydantic]

omit [Fingerprints] in
/-- `_load_prefix_on_connection`. -/
def loadPrefix (store : Option ArtifactStore) (ledger : Ledger) (streamId : String) (throughSequence : Nat) :
    Except StoreFailure (List StoredEvent) := do
  require ((ledger.streamRow streamId).any (fun row => throughSequence ≤ row.version))
    (.sagaIntegrity "reacquisition child prefix is absent or incomplete")
  let stored ← ((ledger.rowsOf streamId).filter (fun row => row.sequence ≤ throughSequence)).mapM decodeRow
  require (stored.map StoredEvent.sequence = List.range' 1 throughSequence)
    (.sagaIntegrity "reacquisition child prefix contains a sequence gap")
  verifyArtifacts store (storedArtifacts stored)
  return stored

omit [Fingerprints] in
/-- The digest of the context that an inquiry started with. -/
def contextDigest (context : InquiryContext) : String :=
  ByteFacts.sha256 (canonicalBytes (JsonModel.dump context))

omit [Fingerprints] in
/-- `_validate_reacquisition_link`. -/
def Ledger.validateReacquisitionLink (ledger : Ledger) (store : Option ArtifactStore) (parent : InquiryState)
    (link : ReacquisitionInquiryLink) : Except StoreFailure Unit := do
  let request ← found (parent.reacquisitionRequests.find? (fun item => item.id = link.requestId))
    (.sagaIntegrity "reacquisition link has no owned parent request")
  let stored ← loadPrefix store ledger link.childInquiryId link.childPrefixSequence
  -- A link names a positive sequence, so its prefix has a first event.
  let start ← found stored.head? (.sagaIntegrity "reacquisition child prefix is absent or incomplete")
  match start.event.body with
  | .inquiryStarted manifestArtifact policyVersion context =>
    require (start.sequence = 1 ∧ start.event.head.eventId = link.childStartEventId ∧
        start.eventDigest = link.childStartEventDigest ∧ manifestArtifact = link.childManifestArtifact ∧
        manifestArtifact = request.childManifestArtifact ∧ policyVersion = request.childPolicyVersion ∧
        contextDigest context = link.childContextDigest ∧ contextDigest context = request.childContextDigest ∧
        prefixDigest link.childInquiryId stored link.childPrefixSequence = link.childPrefixDigest)
      (.sagaIntegrity "reacquisition child prefix does not match its pinned request and link proof")
    validateChildManifest store request context
  | _ => .error (.sagaIntegrity "reacquisition child prefix does not begin with InquiryStarted")

/-- `_validate_recovery_observation`. -/
def Ledger.validateRecoveryObservation (ledger : Ledger) (store : Option ArtifactStore) (parent : InquiryState)
    (observation : RecoveryObservation) : Except StoreFailure Unit := do
  require ((parent.reacquisitionRequests.find? (fun item => item.id = observation.reacquisitionRequestId)).isSome ∧
      (parent.reacquisitionInquiryLinks.find?
        (fun item => item.requestId = observation.reacquisitionRequestId)).isSome)
    (.sagaIntegrity "recovery observation requires a durably linked child inquiry")
  let stored ← loadPrefix store ledger observation.childInquiryId observation.childPrefixSequence
  require (prefixDigest observation.childInquiryId stored observation.childPrefixSequence =
      observation.childPrefixDigest)
    (.sagaIntegrity "recovery observation child prefix digest is invalid")
  let child ← replayCommitted stored (.sagaIntegrity "recovery observation child prefix is not replayable")
  require (∀ requestId ∈ observation.effectRequestIds, ∃ item ∈ child.effectRequests,
      item.acceptedResult.isSome ∧ item.request.id = requestId)
    (.sagaIntegrity "recovery observation names an absent or unresolved child effect request")
  require (∀ probeId ∈ observation.logicalProbeIds, probeId ∈ child.probeObservations.map ProbeEvent.id)
    (.sagaIntegrity "recovery observation names an absent child probe event")
  require (child.obligations ≠ [] ∧ ∀ obligation ∈ child.obligations,
      child.currentObligationStatus obligation.id = some .satisfied)
    (.sagaIntegrity "recovery observation child inquiry is unfinished")

omit [Fingerprints] in
/-- `_validate_realized_history_derivation`. -/
def Ledger.validateRealizedHistoryDerivation (ledger : Ledger) (store : Option ArtifactStore) (streamId : String)
    (committed : InquiryState) (derivation : RealizedHistoryDerivation) : Except StoreFailure Unit := do
  require (∃ item ∈ committed.bindingCarrierManifests, item.id = derivation.carrierManifestId)
    (.integrity "history derivation requires a durably committed carrier manifest")
  require (derivation.sourceLedgerSequence = committed.sequence)
    (.integrity "history derivation must pin the committed stream prefix")
  let stored ← loadPrefix store ledger streamId derivation.sourceLedgerSequence
  require (prefixDigest streamId stored derivation.sourceLedgerSequence = derivation.sourcePrefixDigest)
    (.integrity "history derivation prefix digest does not match the ledger")

/-- The checks of a proposed event that reach beyond its own stream. -/
def validateSagaFact (store : Option ArtifactStore) (ledger : Ledger) (streamId : String) (committed : InquiryState) :
    EventBody → Except StoreFailure Unit
  | .memory (.reacquisitionRequested request) => validateRequestManifest store request
  | .memory (.reacquisitionInquiryLinked link) => ledger.validateReacquisitionLink store committed link
  | .memory (.recoveryObservationRecorded observation) =>
    ledger.validateRecoveryObservation store committed observation
  | .compression (.realizedHistoryDerivationRecorded derivation) =>
    ledger.validateRealizedHistoryDerivation store streamId committed derivation
  | _ => .ok ()

/-- `_fold_committed_stream`. -/
def foldCommittedStream (store : Option ArtifactStore) (ledger : Ledger) (streamId : String) (version : Nat) :
    Except StoreFailure InquiryState := do
  let committed ← (ledger.rowsOf streamId).mapM decodeRow
  require (committed.map StoredEvent.sequence = List.range' 1 version)
    (.integrity "event stream contains a sequence gap")
  verifyArtifacts store (storedArtifacts committed)
  let state ← replayCommitted committed (.integrity "committed event stream violates its lifecycle")
  require (state.sequence = version) (.integrity "committed event fold does not match the stream version")
  require (version ≠ 0 → state.inquiryId = some streamId)
    (.integrity "committed event fold belongs to a different stream")
  return state

/-- One proposed event, after the ones before it. -/
def proposeEvent (store : Option ArtifactStore) (ledger : Ledger) (streamId : String) (committed candidate : InquiryState)
    (event : DomainEvent) : Except StoreFailure InquiryState := do
  validateSagaFact store ledger streamId committed event.body
  fromCore (evolve candidate event)

end

/-- `INSERT INTO streams`, under its primary key. -/
def Ledger.insertStream (ledger : Ledger) (streamId : String) : Except StoreFailure Ledger := do
  require (∀ row ∈ ledger.streams, row.streamId ≠ streamId) (.duplicateEvent "event identity already exists")
  return { ledger with streams := ledger.streams ++ [⟨streamId, 0⟩] }

/-- `INSERT INTO events`, under the primary key of the table and the unique event id. -/
def Ledger.insertEvent (ledger : Ledger) (row : EventRow) : Except StoreFailure Ledger := do
  require (∀ other ∈ ledger.events, other.eventId ≠ row.eventId ∧
      ¬ (other.streamId = row.streamId ∧ other.sequence = row.sequence))
    (.duplicateEvent "event identity already exists")
  return { ledger with events := ledger.events ++ [row] }

/-- `UPDATE streams`, guarded by the version that was read, which has to change one row. -/
def Ledger.updateVersion (ledger : Ledger) (streamId : String) (current next : Nat) : Except StoreFailure Ledger := do
  require ((ledger.streams.filter (fun row => row.streamId = streamId ∧ row.version = current)).length = 1)
    (.optimisticConcurrency "stream version changed during append")
  return { ledger with streams := ledger.streams.map (fun row =>
    if row.streamId = streamId ∧ row.version = current then { row with version := next } else row) }

section
variable [ByteFacts] [Pydantic]

/-- The inserts of a batch behind a sequence. -/
def Ledger.insertEvents (streamId : String) : Ledger → Nat → List DomainEvent → Except StoreFailure Ledger
  | ledger, _, [] => .ok ledger
  | ledger, sequence, event :: rest => do
    Ledger.insertEvents streamId (← ledger.insertEvent (eventRow streamId (sequence + 1) event)) (sequence + 1) rest

/-- The writes of a batch. An empty batch writes nothing. -/
def Ledger.writeBatch (ledger : Ledger) (streamId : String) (current : Nat) (events : List DomainEvent) :
    Except StoreFailure Ledger :=
  if events = [] then .ok ledger
  else do
    let opened ← if ledger.streamRow streamId = none then ledger.insertStream streamId else .ok ledger
    let inserted ← opened.insertEvents streamId current events
    inserted.updateVersion streamId current (current + events.length)

variable [Fingerprints]

/-- The body of an append: what it returns and the tables that it would commit. The artifacts are verified once
more, as they are by then, right before the commit. -/
def appendBatch (store atCommit : Option ArtifactStore) (ledger : Ledger) (streamId : String) (expectedSequence : Int)
    (events : List DomainEvent) : Except StoreFailure (Ledger × Nat) := do
  require (0 ≤ expectedSequence) (.valueError "expected sequence cannot be negative")
  require (∀ event ∈ events, event.head.inquiryId = streamId)
    (.valueError "every event inquiry id must match its stream id")
  require (events.map (fun event => event.head.eventId)).Nodup
    (.duplicateEvent "an append batch contains duplicate event ids")
  verifyArtifacts store (eventArtifacts events)
  let current := ledger.streamVersion streamId
  require (current = expectedSequence) (.optimisticConcurrency "stream is not at the expected sequence")
  let committed ← foldCommittedStream store ledger streamId current
  let _ ← events.foldlM (proposeEvent store ledger streamId committed) committed
  let written ← ledger.writeBatch streamId current events
  verifyArtifacts atCommit (eventArtifacts events)
  return (written, current + events.length)

/-- `SQLiteEventStore.append`: one transaction, which is rolled back when anything in it raises. -/
def append (store atCommit : Option ArtifactStore) (ledger : Ledger) (streamId : String) (expectedSequence : Int)
    (events : List DomainEvent) : Ledger × Except StoreFailure Nat :=
  match appendBatch store atCommit ledger streamId expectedSequence events with
  | .ok (written, sequence) => (written, .ok sequence)
  | .error failure => (ledger, .error failure)

end

end RatchetingInquiry
