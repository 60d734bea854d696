import RatchetingInquiry.Core.Run
import RatchetingInquiry.Persistence.Artifacts
import RatchetingInquiry.Serialization.Events

/-! The event ledger: its tables, and how the committed rows of a stream are read back. -/

namespace RatchetingInquiry

/-- A row of the `events` table. -/
structure EventRow where
  streamId : String
  sequence : Nat
  eventId : String
  eventType : String
  eventSchemaVersion : Int
  eventBytes : StoredBytes
  eventDigest : String
deriving DecidableEq

/-- A row of the `streams` table. -/
structure StreamRow where
  streamId : String
  version : Nat
deriving DecidableEq

/-- A row of the `snapshots` table, whose check constraint keeps the sequence positive. -/
@[ext]
structure SnapshotRow where
  streamId : String
  sequence : Nat
  foldSchemaVersion : String
  sourceEventDigest : String
  stateBytes : StoredBytes
  stateDigest : String
  sequence_positive : 1 ≤ sequence := by decide

instance : DecidableEq SnapshotRow := fun _ _ => decidable_of_iff' _ SnapshotRow.ext_iff

structure Ledger where
  streams : List StreamRow := []
  events : List EventRow := []
  snapshots : List SnapshotRow := []
deriving DecidableEq

structure StoredEvent where
  streamId : String
  sequence : Nat
  eventDigest : String
  event : DomainEvent
deriving DecidableEq

structure StreamSlice where
  streamId : String
  version : Nat
  events : List StoredEvent
deriving DecidableEq

/-- The version that every kind of event has, and the only one that is read. -/
def currentEventSchemaVersion : Int := 1

def Ledger.streamRow (ledger : Ledger) (streamId : String) : Option StreamRow :=
  ledger.streams.find? (fun row => row.streamId = streamId)

/-- `stream_version`. -/
def Ledger.streamVersion (ledger : Ledger) (streamId : String) : Nat :=
  ((ledger.streamRow streamId).map StreamRow.version).getD 0

/-- The event rows of a stream, ordered by sequence. -/
def Ledger.rowsOf (ledger : Ledger) (streamId : String) : List EventRow :=
  (ledger.events.filter (fun row => row.streamId = streamId)).insertionSort
    (fun left right => left.sequence ≤ right.sequence)

/-- What the transition core raises, as the stores see it. -/
def fromCore {α : Type} : Except Failure α → Except StoreFailure α
  | .ok value => .ok value
  | .error failure => .error (.domain failure)

@[simp] theorem fromCore_eq_ok {α : Type} {result : Except Failure α} {value : α} :
    fromCore result = .ok value ↔ result = .ok value := by
  cases result <;> simp [fromCore]

@[simp] theorem fromCore_bind_eq_ok {α β : Type} {first : Except Failure α} {next : α → Except StoreFailure β}
    {result : β} : (fromCore first >>= next) = .ok result ↔ ∃ value, first = .ok value ∧ next value = .ok result := by
  rw [bind_eq_ok]
  simp only [fromCore_eq_ok]

section
variable [ByteFacts] [Pydantic]

/-- `decode_event`, from the persisted bytes. -/
def decodeEventBytes (bytes : StoredBytes) : Except Failure DomainEvent := do
  decodeEvent (← found bytes.loads (.validation "persisted bytes are not JSON"))

/-- The row that an event is committed as. -/
def eventRow (streamId : String) (sequence : Nat) (event : DomainEvent) : EventRow where
  streamId := streamId
  sequence := sequence
  eventId := event.head.eventId
  eventType := event.body.kind
  eventSchemaVersion := currentEventSchemaVersion
  eventBytes := canonicalBytes (encodeEvent event)
  eventDigest := ByteFacts.sha256 (canonicalBytes (encodeEvent event))

/-- `_decode_row`. -/
def decodeRow (row : EventRow) : Except StoreFailure StoredEvent := do
  require (ByteFacts.sha256 row.eventBytes = row.eventDigest) (.integrity "event digest mismatch")
  let event ← fromCore (decodeEventBytes row.eventBytes)
  require (event.head.eventId = row.eventId ∧ event.body.kind = row.eventType)
    (.integrity "event index metadata does not match immutable event bytes")
  require (currentEventSchemaVersion = row.eventSchemaVersion)
    (.integrity "event schema index does not match immutable event bytes")
  require (event.head.inquiryId = row.streamId)
    (.integrity "event stream index does not match immutable event bytes")
  return ⟨row.streamId, row.sequence, row.eventDigest, event⟩

def storedArtifacts (events : List StoredEvent) : List ArtifactRef :=
  eventArtifacts (events.map StoredEvent.event)

/-- `load_stream`. -/
def loadStream (store : Option ArtifactStore) (ledger : Ledger) (streamId : String) (afterSequence : Nat) :
    Except StoreFailure StreamSlice := do
  let version := ledger.streamVersion streamId
  require (afterSequence ≤ version) (.integrity "requested events beyond the stream version")
  let decoded ← ((ledger.rowsOf streamId).filter (fun row => afterSequence < row.sequence)).mapM decodeRow
  verifyArtifacts store (storedArtifacts decoded)
  require (decoded.map StoredEvent.sequence = List.range' (afterSequence + 1) (version - afterSequence))
    (.integrity "event stream contains a sequence gap")
  return ⟨streamId, version, decoded⟩

omit [Pydantic] in
/-- `_prefix_digest`. -/
def prefixDigest (streamId : String) (events : List StoredEvent) (sequence : Nat) : String :=
  ByteFacts.sha256 (canonicalBytes (objectOf [
    ("event_digests", .list ((events.take sequence).map (fun item => .text item.eventDigest))),
    ("format", .text "rci.event-prefix.v1"),
    ("sequence", .int sequence),
    ("stream_id", .text streamId)]))

/-- `stream_prefix_digest`. -/
def streamPrefixDigest (store : Option ArtifactStore) (ledger : Ledger) (streamId : String)
    (throughSequence : Nat) : Except StoreFailure String := do
  let stream ← loadStream store ledger streamId 0
  require (throughSequence ≤ stream.version) (.valueError "stream prefix sequence is outside the event stream")
  return prefixDigest streamId stream.events throughSequence

/-- The rows that a slice was decoded from, and what was checked of them. -/
theorem loadStream_eq_ok {store : Option ArtifactStore} {ledger : Ledger} {streamId : String} {afterSequence : Nat}
    {slice : StreamSlice} : loadStream store ledger streamId afterSequence = .ok slice ↔
      afterSequence ≤ ledger.streamVersion streamId ∧
      List.Forall₂ (fun row item => decodeRow row = .ok item)
        ((ledger.rowsOf streamId).filter (fun row => afterSequence < row.sequence)) slice.events ∧
      verifyArtifacts store (storedArtifacts slice.events) = .ok () ∧
      slice.events.map StoredEvent.sequence =
        List.range' (afterSequence + 1) (ledger.streamVersion streamId - afterSequence) ∧
      slice.streamId = streamId ∧ slice.version = ledger.streamVersion streamId := by
  unfold loadStream
  simp only [require_bind_eq_ok, mapM_bind_eq_ok, verifyArtifacts_bind_eq_ok, pure, Except.pure, Except.ok.injEq]
  constructor
  · intro loaded
    obtain ⟨within, events, decoded, verified, gapless, rfl⟩ := loaded
    exact ⟨within, decoded, verified, gapless, rfl, rfl⟩
  · intro loaded
    obtain ⟨within, decoded, verified, gapless, named, versioned⟩ := loaded
    refine ⟨within, slice.events, decoded, verified, gapless, ?_⟩
    rw [← versioned, ← named]

theorem decodeRow_sequence {row : EventRow} {item : StoredEvent} (decoded : decodeRow row = .ok item) :
    item.sequence = row.sequence := by
  unfold decodeRow at decoded
  simp only [require_bind_eq_ok, fromCore_bind_eq_ok, pure, Except.pure, Except.ok.injEq] at decoded
  obtain ⟨-, event, -, -, -, -, rfl⟩ := decoded
  rfl

theorem decodedRows_sequences {rows : List EventRow} {items : List StoredEvent}
    (decoded : List.Forall₂ (fun row item => decodeRow row = .ok item) rows items) :
    rows.map EventRow.sequence = items.map StoredEvent.sequence := by
  induction decoded with
  | nil => rfl
  | cons first _ ih => simp [decodeRow_sequence first, ih]

omit [ByteFacts] [Pydantic] in
/-- Among rows that are numbered without a gap, those after a number are those behind it. -/
theorem filter_numbered {rows : List EventRow} {start count : Nat} (skipped : Nat)
    (numbered : rows.map EventRow.sequence = List.range' (start + 1) count) :
    rows.filter (fun row => start + skipped < row.sequence) = rows.drop skipped := by
  induction rows generalizing start count skipped with
  | nil => simp
  | cons row rest ih =>
    cases count with
    | zero => simp at numbered
    | succ count =>
      simp only [List.map_cons, List.range'_succ, List.cons.injEq] at numbered
      obtain ⟨first, later⟩ := numbered
      cases skipped with
      | zero =>
        rw [List.drop_zero, List.filter_eq_self]
        intro row member
        have listed := List.mem_map_of_mem (f := EventRow.sequence) member
        rw [List.map_cons, first, later, ← List.range'_succ, List.mem_range'_1] at listed
        simp
        omega
      | succ skipped =>
        rw [List.filter_cons_of_neg (by simp [first]), List.drop_succ_cons, ← ih skipped later]
        congr 1
        funext row
        congr 2
        omega

/-- A stream that loads from its beginning loads from any later place, with the events behind that place. -/
theorem loadStream_after {store : Option ArtifactStore} {ledger : Ledger} {streamId : String} {afterSequence : Nat}
    {slice : StreamSlice} (loaded : loadStream store ledger streamId 0 = .ok slice)
    (within : afterSequence ≤ slice.version) :
    loadStream store ledger streamId afterSequence =
      .ok { slice with events := slice.events.drop afterSequence } := by
  obtain ⟨-, decoded, verified, numbered, named, versioned⟩ := loadStream_eq_ok.mp loaded
  rw [versioned] at within
  have rowsNumbered := (decodedRows_sequences decoded).trans numbered
  have behind := filter_numbered afterSequence rowsNumbered
  rw [List.filter_filter] at behind
  refine loadStream_eq_ok.mpr ⟨within, ?_, ?_, ?_, named, versioned⟩
  · have dropped := List.forall₂_drop afterSequence decoded
    rw [← behind] at dropped
    convert dropped using 3
    simp
    omega
  · refine verifyArtifacts_subset ?_ verified
    intro artifact member
    simp only [storedArtifacts, eventArtifacts, List.mem_flatMap, List.mem_map] at member ⊢
    obtain ⟨event, ⟨item, behindPlace, rfl⟩, refers⟩ := member
    exact ⟨item.event, ⟨item, List.mem_of_mem_drop behindPlace, rfl⟩, refers⟩
  · rw [List.map_drop, numbered, List.drop_range']
    congr 1
    omega

end

end RatchetingInquiry
