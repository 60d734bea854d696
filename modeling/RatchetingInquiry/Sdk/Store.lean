import RatchetingInquiry.Library.Clients
import RatchetingInquiry.Orchestration.Effects

/-! The SDK over the event ledger and the artifact store: every call is a client of the two, which reads and appends
in separate operations. -/

namespace RatchetingInquiry

/-- What the calls of the SDK share: the ledger, the artifacts, and how often the clock was read. -/
structure SdkWorld where
  ledger : Ledger
  store : ArtifactStore
  ticks : Nat := 0

abbrev SdkProgram : Type → Type := Client SdkWorld StoreFailure

/-- The SDK, of which the clock is outside its control. -/
structure RCI where
  clock : Nat → Timestamp

namespace RCI

section
variable [ByteFacts]

/-- `_stable_id`, whose digests are shorter than those of the executor. -/
def stableId (kind : String) (parts : List String) : String :=
  kind ++ "_" ++ String.ofList ((ByteFacts.sha256 (.other (String.intercalate "\x00" parts))).toList.take 24)

def getBytes (artifact : ArtifactRef) : SdkProgram StoredBytes :=
  Client.observe (fun world => world.store.getBytes artifact)

def putBytes (data : StoredBytes) (mediaType encoding : String) : SdkProgram ArtifactRef :=
  Client.update (fun world =>
    let (stored, store) := world.store.putBytes data mediaType encoding
    (stored, { world with store := store }))

end

def now (rci : RCI) : SdkProgram Timestamp :=
  Client.update (fun world => (.ok (rci.clock world.ticks), { world with ticks := world.ticks + 1 }))

section
variable [Fingerprints] [ByteFacts] [Pydantic]

/-- The state that the ledger is rebuilt to. -/
def inspect (inquiryId : String) : SdkProgram InquiryState :=
  Client.observe (fun world => rebuildState (some world.store) world.ledger inquiryId true)

/-- The append of the event store, which verifies the artifacts. -/
def appendEvents (inquiryId : String) (expectedSequence : Nat) (events : List DomainEvent) : SdkProgram Nat :=
  Client.update (fun world =>
    let (ledger, appended) := append (some world.store) (some world.store) world.ledger inquiryId expectedSequence events
    (appended, { world with ledger := ledger }))

/-- `_apply_batch`: the commands are decided upon the state as it is then, and their events appended at once. -/
def applyBatch (inquiryId : String) (commands : List DomainCommand) : SdkProgram InquiryState := do
  let state ← inspect inquiryId
  let (pending, next) ← Client.lift (fromCore (PersistedEffectExecutor.decidePending state commands))
  if pending = [] then return next
  else do
    let _ ← appendEvents inquiryId state.sequence pending
    return next

end

end RCI

end RatchetingInquiry
