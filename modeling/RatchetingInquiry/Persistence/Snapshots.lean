import RatchetingInquiry.Persistence.Ledger
import RatchetingInquiry.Serialization.State

/-! Snapshots of folded states, and the state that is rebuilt from one and the events behind it. -/

namespace RatchetingInquiry

/-- The state with the records of another one where these carry JSON. -/
def InquiryState.withJsonOf (state other : InquiryState) : InquiryState :=
  { state with
    claims := other.claims
    obligations := other.obligations
    candidates := other.candidates
    residuals := other.residuals
    predictions := other.predictions
    probeObservations := other.probeObservations
    learnedProbeCandidates := other.learnedProbeCandidates }

/-- Comparison of states as the source's `==` makes it. -/
def InquiryState.sameAs (left right : InquiryState) : Bool :=
  RecordEq.same left.claims right.claims && RecordEq.same left.obligations right.obligations &&
    RecordEq.same left.candidates right.candidates && RecordEq.same left.residuals right.residuals &&
    RecordEq.same left.predictions right.predictions &&
    RecordEq.same left.probeObservations right.probeObservations &&
    RecordEq.same left.learnedProbeCandidates right.learnedProbeCandidates &&
    Decidable.decide (right.withJsonOf left = left)

instance : RecordEq InquiryState where
  same := InquiryState.sameAs
  same_refl state := by simp [InquiryState.sameAs, InquiryState.withJsonOf, RecordEq.same_refl]

/-- What `==` says of two states, collection by collection. -/
structure InquiryState.Alike (left right : InquiryState) : Prop where
  claims : RecordEq.same left.claims right.claims = true
  obligations : RecordEq.same left.obligations right.obligations = true
  candidates : RecordEq.same left.candidates right.candidates = true
  residuals : RecordEq.same left.residuals right.residuals = true
  predictions : RecordEq.same left.predictions right.predictions = true
  probe_observations : RecordEq.same left.probeObservations right.probeObservations = true
  learned_probes : RecordEq.same left.learnedProbeCandidates right.learnedProbeCandidates = true
  others : right.withJsonOf left = left

theorem InquiryState.sameAs_alike {left right : InquiryState} (same : RecordEq.same left right = true) :
    left.Alike right := by
  change left.sameAs right = true at same
  unfold InquiryState.sameAs at same
  simp only [Bool.and_eq_true, decide_eq_true_eq] at same
  obtain ⟨⟨⟨⟨⟨⟨⟨claims, obligations⟩, candidates⟩, residuals⟩, predictions⟩, observations⟩, learned⟩, others⟩ := same
  exact ⟨claims, obligations, candidates, residuals, predictions, observations, learned, others⟩

def foldedStateSchemaVersion : String := "rci.inquiry-state.v6"

/-- The earlier fold schemas, whose snapshots are passed over in silence. -/
def rebuildableFoldedStateSchemas : List String :=
  ["rci.inquiry-state.v1", "rci.inquiry-state.v2", "rci.inquiry-state.v3", "rci.inquiry-state.v4",
    "rci.inquiry-state.v5"]

structure SnapshotRecord where
  streamId : String
  sequence : Nat
  foldSchemaVersion : String
  sourceEventDigest : String
  stateDigest : String
  state : InquiryState
deriving DecidableEq

/-- The snapshot row of a stream with the highest sequence. -/
def Ledger.latestSnapshot (ledger : Ledger) (streamId : String) : Option SnapshotRow :=
  ((ledger.snapshots.filter (fun row => row.streamId = streamId)).insertionSort
    (fun left right => right.sequence ≤ left.sequence)).head?

section
variable [Fingerprints] [ByteFacts] [Pydantic]

omit [ByteFacts] in
/-- `decode_state`, from the persisted bytes. -/
def decodeStateBytes (bytes : StoredBytes) : Except Failure InquiryState := do
  decodeState (← found bytes.loads (.validation "persisted bytes are not JSON"))

/-- The read of the bytes of a snapshot, whose value errors are turned into integrity errors. -/
def decodeSnapshot (bytes : StoredBytes) : Except StoreFailure InquiryState :=
  match decodeStateBytes bytes with
  | .ok state => .ok state
  | .error failure =>
    if failure.isValueError then .error (.integrity "snapshot state bytes are not a supported folded state")
    else .error (.domain failure)

/-- The checks of a row of the current fold schema. -/
def readSnapshot (store : Option ArtifactStore) (ledger : Ledger) (streamId : String) (row : SnapshotRow) :
    Except StoreFailure SnapshotRecord := do
  require (ByteFacts.sha256 row.stateBytes = row.stateDigest) (.integrity "snapshot bytes do not match their digest")
  let state ← decodeSnapshot row.stateBytes
  require (state.inquiryId = some streamId ∧ state.sequence = row.sequence)
    (.integrity "snapshot metadata does not match its state bytes")
  let sourceEventDigest ← streamPrefixDigest store ledger streamId state.sequence
  require (sourceEventDigest = row.sourceEventDigest)
    (.integrity "snapshot source prefix does not match the event ledger")
  let stream ← loadStream store ledger streamId 0
  let expected ← fromCore (replay initialState ((stream.events.take state.sequence).map StoredEvent.event))
  require (RecordEq.same expected state = true) (.integrity "snapshot state does not equal its event prefix")
  verifyArtifacts store state.artifactRefs
  return ⟨streamId, row.sequence, row.foldSchemaVersion, sourceEventDigest, row.stateDigest, state⟩

/-- `load_latest_snapshot`. -/
def loadLatestSnapshot (store : Option ArtifactStore) (ledger : Ledger) (streamId : String) :
    Except StoreFailure (Option SnapshotRecord) :=
  match ledger.latestSnapshot streamId with
  | none => .ok none
  | some row =>
    if row.foldSchemaVersion = foldedStateSchemaVersion then (readSnapshot store ledger streamId row).map some
    else if row.foldSchemaVersion ∈ rebuildableFoldedStateSchemas then .ok none
    else .error (.unsupportedSchemaVersion "snapshot fold schema is unsupported")

/-- The failures of a snapshot that have it ignored. -/
def StoreFailure.isDisposable : StoreFailure → Bool
  | .unsupportedSchemaVersion _ => true
  | failure => failure.isIntegrity

omit [Fingerprints] [ByteFacts] [Pydantic] in
theorem StoreFailure.isDisposable_of_isIntegrity {failure : StoreFailure} (integrity : failure.isIntegrity = true) :
    failure.isDisposable = true := by
  cases failure <;> first | exact integrity | rfl

/-- The snapshot that a rebuild starts from, if it takes one. -/
def usableSnapshot (store : Option ArtifactStore) (ledger : Ledger) (streamId : String) (useSnapshot : Bool) :
    Except StoreFailure (Option SnapshotRecord) :=
  if useSnapshot then
    match loadLatestSnapshot store ledger streamId with
    | .ok snapshot => .ok snapshot
    | .error failure => if failure.isDisposable then .ok none else .error failure
  else .ok none

/-- The fold of the events behind a state. -/
def rebuildFrom (store : Option ArtifactStore) (ledger : Ledger) (streamId : String) (state : InquiryState) :
    Except StoreFailure InquiryState := do
  let stream ← loadStream store ledger streamId state.sequence
  let rebuilt ← fromCore (replay state (stream.events.map StoredEvent.event))
  require (rebuilt.sequence = stream.version)
    (.integrity "rebuilt state sequence does not equal stream version")
  return rebuilt

/-- `rebuild_state`. -/
def rebuildState (store : Option ArtifactStore) (ledger : Ledger) (streamId : String) (useSnapshot : Bool) :
    Except StoreFailure InquiryState := do
  let snapshot ← usableSnapshot store ledger streamId useSnapshot
  rebuildFrom store ledger streamId ((snapshot.map SnapshotRecord.state).getD initialState)

end

end RatchetingInquiry
