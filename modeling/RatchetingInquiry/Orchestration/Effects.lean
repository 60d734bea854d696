import RatchetingInquiry.Library.Crash
import RatchetingInquiry.Persistence.Append
import RatchetingInquiry.Persistence.Snapshots

/-! The execution of a planned attempt through an adapter. Every effect of the executor on the ledger, on the
artifact store and on the adapter is one operation, and a call may crash before any of them. -/

namespace RatchetingInquiry

/-- The classes of an adapter's exceptions that the executor tells apart. -/
inductive AdapterFailureKind where
  | unsupported | timeout | transport | other
deriving DecidableEq

structure AdapterFailure where
  kind : AdapterFailureKind
  typeName : String
deriving DecidableEq

/-- What the executor raises. -/
inductive ExecutorFailure where
  | valueError (reason : String)
  | runtime (reason : String)
  | unknownRouteDefinition (reason : String)
  | routeValidation (reason : String)
  | stopIteration
  | adapter (failure : AdapterFailure)
  | store (failure : StoreFailure)
deriving DecidableEq

def fromStore {α : Type} : Except StoreFailure α → Except ExecutorFailure α
  | .ok value => .ok value
  | .error failure => .error (.store failure)

@[simp] theorem fromStore_eq_ok {α : Type} {result : Except StoreFailure α} {value : α} :
    fromStore result = .ok value ↔ result = .ok value := by
  cases result <;> simp [fromStore]

def fromAdapter {α : Type} : Except AdapterFailure α → Except ExecutorFailure α
  | .ok value => .ok value
  | .error failure => .error (.adapter failure)

/-- What `perform_exact` returned: exact bytes, or some other value. -/
inductive AdapterReturn where
  | bytes (raw : StoredBytes)
  | otherValue
deriving DecidableEq

@[ext]
structure NonEmptyText where
  text : String
  bounded : 1 ≤ text.length ∧ text.length ≤ 4096
deriving DecidableEq

/-- `AdapterDecodeResult`, of which a decoded one carries the semantic fields alone and any other one a diagnostic. -/
inductive AdapterDecodeResult where
  | decoded (semanticBytes : StoredBytes) (semanticMediaType semanticEncoding operationId : String)
  | malformed (diagnostic : NonEmptyText)
  | unsupported (diagnostic : NonEmptyText)
  | failed (diagnostic : NonEmptyText)
deriving DecidableEq

/-- An adapter. Its answers may differ from one operation to the next. -/
structure PersistedEffectAdapter where
  adapterId : String
  adapterVersion : String
  validateInput : Nat → StoredBytes → Except AdapterFailure Unit
  preflight : Nat → Except AdapterFailure Unit
  performExact : Nat → StoredBytes → Nat → Except AdapterFailure AdapterReturn
  decodeExact : Nat → StoredBytes → Except AdapterFailure AdapterDecodeResult

structure RouteTransformDefinition where
  id : String
  version : String
deriving DecidableEq

/-- Allowlisted executable behavior, distinct from one attempt's snapshot. -/
structure RouteDefinition where
  definitionId : String
  definitionVersion : String
  backendId : String
  adapterId : String
  adapterVersion : String
  endpointOrChannel : Option String := none
  transport : String
  transforms : List RouteTransformDefinition := []
  transforms_unique : transforms.Nodup := by decide
deriving DecidableEq

def RouteDefinition.key (definition : RouteDefinition) : String × String :=
  (definition.definitionId, definition.definitionVersion)

def RouteDefinition.dump (definition : RouteDefinition) : JsonValue :=
  objectOf [
    ("definition_id", .text definition.definitionId),
    ("definition_version", .text definition.definitionVersion),
    ("backend_id", .text definition.backendId),
    ("adapter_id", .text definition.adapterId),
    ("adapter_version", .text definition.adapterVersion),
    ("endpoint_or_channel", dumpOptional .text definition.endpointOrChannel),
    ("transport", .text definition.transport),
    ("transforms", .list (definition.transforms.map (fun transform =>
      objectOf [("id", .text transform.id), ("version", .text transform.version)])))]

/-- A closed registry of route definitions. -/
structure RouteRegistry where
  definitions : List RouteDefinition
  keys_unique : (definitions.map RouteDefinition.key).Nodup
  nonempty : definitions ≠ []

section
variable [ByteFacts]

/-- `ArtifactStore.put_bytes`: bytes that are there already are verified and left alone. -/
def ArtifactStore.putBytes (store : ArtifactStore) (data : StoredBytes) (mediaType encoding : String) :
    Except StoreFailure ArtifactRef × ArtifactStore :=
  let artifact : ArtifactRef :=
    ⟨ByteFacts.sha256 data, ByteFacts.length data, some mediaType, some encoding⟩
  match store.files artifact.digest with
  | some _ => ((store.getBytes artifact).map (fun _ => artifact), store)
  | none => (.ok artifact, ⟨fun digest => if digest = artifact.digest then some data else store.files digest⟩)

/-- The first exact field in which a snapshot differs from its definition. -/
def RouteDefinition.mismatch (definition : RouteDefinition) (snapshot : RouteSnapshot) : Option String :=
  let exactFields : List (Option String × Option String × String) := [
    (some snapshot.backendId, some definition.backendId, "backend"),
    (some snapshot.adapterId, some definition.adapterId, "adapter"),
    (some snapshot.adapterVersion, some definition.adapterVersion, "adapter version"),
    (snapshot.endpointOrChannel, definition.endpointOrChannel, "endpoint/channel"),
    (snapshot.transport, some definition.transport, "transport")]
  (exactFields.find? (fun field => field.1 ≠ field.2.1)).map (fun field => field.2.2)

/-- `RouteRegistry.validate`, against the artifacts that the store holds. -/
def RouteRegistry.validate (registry : RouteRegistry) (store : ArtifactStore) (request : EffectRequest)
    (snapshot : RouteSnapshot) : Except ExecutorFailure RouteDefinition := do
  let definition ← found (registry.definitions.find? (fun item =>
      item.key = (snapshot.definitionId, snapshot.definitionVersion)))
    (.unknownRouteDefinition ("route definition is not allowlisted: " ++ snapshot.definitionId ++ "@" ++
      snapshot.definitionVersion))
  let actual ← fromStore (store.getBytes snapshot.definitionArtifact)
  require (actual = canonicalBytes definition.dump)
    (.routeValidation "route definition artifact does not match the registry")
  match definition.mismatch snapshot with
  | some label => throw (.routeValidation ("route snapshot " ++ label ++ " is not allowlisted"))
  | none => do
    require (snapshot.requestOrActionDigest = ByteFacts.sha256 (canonicalBytes (JsonModel.dump request)))
      (.routeValidation "route snapshot does not pin the exact request digest")
    let _ ← fromStore (store.getBytes snapshot.executionEnvironmentArtifact)
    require (snapshot.transformEvidence.map (fun item => (item.id, item.version)) =
        definition.transforms.map (fun item => (item.id, item.version)))
      (.routeValidation "route transform order/version differs from its definition")
    return definition

/-- `_stable_id`. The parts are joined by a null character, and one part alone is an identifier, so that the bytes
are no JSON text. -/
def stableId (kind : String) (parts : List String) : String :=
  kind ++ "_" ++ String.ofList ((ByteFacts.sha256 (.other (String.intercalate "\x00" parts))).toList.take 32)

/-- The diagnostics of a failure, as they are stored. -/
def diagnosticBytes (phase label text : String) : StoredBytes :=
  canonicalBytes (objectOf [("phase", .text phase), (label, .text text)])

end

/-- What outlives a call: the ledger, the artifacts, and the calls of the adapter that were made, each with the ledger
as it was then. -/
structure ExecutorWorld where
  ledger : Ledger
  store : ArtifactStore
  performed : List Ledger := []
  decodings : List (StoredBytes × Ledger) := []

/-- An executor and what is outside its control: the clock, whether its event store verifies artifacts, and the
failures of the database and of the file system. -/
structure PersistedEffectExecutor where
  routes : RouteRegistry
  clock : Nat → Timestamp
  verifies : Bool
  faults : Nat → Option StoreFailure

abbrev ExecutorProgram : Type → Type := Program ExecutorWorld ExecutorFailure

/-- `_locate_attempt`. -/
def locateAttempt (state : InquiryState) (requestId attemptId : String) :
    Except ExecutorFailure (EffectRequestState × AttemptState) := do
  let request ← found (state.requestById requestId) (.valueError "effect execution requires a persisted request")
  let attempt ← found (request.attemptById attemptId)
    (.valueError "effect execution requires a persisted attempt plan")
  return (request, attempt)

namespace PersistedEffectExecutor

section
variable (executor : PersistedEffectExecutor)

def now : ExecutorProgram Timestamp := Program.operate (fun moment world => (.ok (executor.clock moment), world))

/-- The artifact store that the event store was given. -/
def eventArtifacts (store : ArtifactStore) : Option ArtifactStore := if executor.verifies then some store else none

variable [ByteFacts]

def getBytes (artifact : ArtifactRef) : ExecutorProgram StoredBytes := Program.operate (fun moment world =>
  match executor.faults moment with
  | some failure => (.error (.store failure), world)
  | none => (fromStore (world.store.getBytes artifact), world))

def putBytes (data : StoredBytes) (mediaType encoding : String) : ExecutorProgram ArtifactRef :=
  Program.operate (fun moment world =>
    match executor.faults moment with
    | some failure => (.error (.store failure), world)
    | none =>
      let (stored, store) := world.store.putBytes data mediaType encoding
      (fromStore stored, { world with store := store }))

def validateRoute (request : EffectRequest) (snapshot : RouteSnapshot) : ExecutorProgram RouteDefinition :=
  Program.operate (fun moment world =>
    match executor.faults moment with
    | some failure => (.error (.store failure), world)
    | none => (executor.routes.validate world.store request snapshot, world))

variable [Fingerprints] [Pydantic]

def rebuildState (inquiryId : String) : ExecutorProgram InquiryState := Program.operate (fun moment world =>
  match executor.faults moment with
  | some failure => (.error (.store failure), world)
  | none =>
    (fromStore (RatchetingInquiry.rebuildState (executor.eventArtifacts world.store) world.ledger inquiryId true), world))

/-- The append of the event store. Its failures are returned, for the loop around it. -/
def appendEvents (inquiryId : String) (expectedSequence : Nat) (events : List DomainEvent) :
    ExecutorProgram (Except StoreFailure Nat) := Program.operate (fun moment world =>
  match executor.faults moment with
  | some failure => (.ok (.error failure), world)
  | none =>
    let artifacts := executor.eventArtifacts world.store
    let (ledger, appended) := RatchetingInquiry.append artifacts artifacts world.ledger inquiryId expectedSequence events
    (.ok appended, { world with ledger := ledger }))

omit [ByteFacts] [Pydantic] in
/-- The commands decided one after another, with the events that are pending. -/
def decidePending (state : InquiryState) (commands : List DomainCommand) :
    Except Failure (List DomainEvent × InquiryState) :=
  commands.foldlM (fun progress command => do
    let events ← decide progress.2 command
    let next ← events.foldlM evolve progress.2
    return (progress.1 ++ events, next)) ([], state)

/-- The rounds of `_append` that are left. -/
def appendRounds (inquiryId : String) (commands : List DomainCommand) : Nat → ExecutorProgram InquiryState
  | 0 => Program.raise (.store (.optimisticConcurrency "effect append lost three optimistic races"))
  | rounds + 1 => do
    let state ← executor.rebuildState inquiryId
    let (pending, next) ← Program.lift (fromStore (fromCore (decidePending state commands)))
    if pending = [] then return next
    else
      match ← executor.appendEvents inquiryId state.sequence pending with
      | .ok _ => return next
      | .error (.optimisticConcurrency _) => appendRounds inquiryId commands rounds
      | .error failure => Program.raise (.store failure)

/-- `_append`: an idempotent batch of commands, retried only when it lost a race. -/
def append (inquiryId : String) (commands : List DomainCommand) : ExecutorProgram InquiryState :=
  executor.appendRounds inquiryId commands 3

end

end PersistedEffectExecutor

/-- One call of `execute`. -/
structure ExecuteCall where
  executor : PersistedEffectExecutor
  inquiryId : String
  requestId : String
  attemptId : String
  adapter : PersistedEffectAdapter
  acceptDecoded : Bool := true

namespace ExecuteCall

variable (call : ExecuteCall)

def validateInput (input : StoredBytes) : ExecutorProgram Unit :=
  Program.operate (fun moment world => (fromAdapter (call.adapter.validateInput moment input), world))

/-- The answer of `preflight`, whose exceptions the executor looks at. -/
def preflight : ExecutorProgram (Except AdapterFailure Unit) :=
  Program.operate (fun moment world => (.ok (call.adapter.preflight moment), world))

/-- The answer of `perform_exact`, whose exceptions the executor looks at. -/
def performExact (input : StoredBytes) (timeoutSeconds : Nat) :
    ExecutorProgram (Except AdapterFailure AdapterReturn) :=
  Program.operate (fun moment world =>
    (.ok (call.adapter.performExact moment input timeoutSeconds),
      { world with performed := world.performed ++ [world.ledger] }))

def decodeExact (raw : StoredBytes) : ExecutorProgram AdapterDecodeResult :=
  Program.operate (fun moment world =>
    (fromAdapter (call.adapter.decodeExact moment raw),
      { world with decodings := world.decodings ++ [(raw, world.ledger)] }))

section
variable [Fingerprints] [ByteFacts] [Pydantic]

/-- Append one command of the inquiry. -/
def record (eventId : String) (occurredAt : Timestamp) (command : EffectCommand) : ExecutorProgram InquiryState :=
  call.executor.append call.inquiryId [⟨⟨eventId, call.inquiryId, occurredAt⟩, .effect command⟩]

omit [Fingerprints] [Pydantic] in
def putDiagnostics (phase label text : String) : ExecutorProgram ArtifactRef :=
  call.executor.putBytes (diagnosticBytes phase label text) "application/vnd.rci.effect-diagnostic+json" "utf-8"

/-- The checks of a call, up to the input of the request. -/
def checkedInput (request : EffectRequestState) (attempt : AttemptState) : ExecutorProgram StoredBytes := do
  Program.lift (require (request.request.adapterId = call.adapter.adapterId)
    (.routeValidation "request adapter does not match the selected adapter"))
  Program.lift (require (attempt.plan.route.adapterId = call.adapter.adapterId)
    (.routeValidation "route adapter does not match the selected adapter"))
  Program.lift (require (attempt.plan.route.adapterVersion = call.adapter.adapterVersion)
    (.routeValidation "route adapter version does not match the selected adapter"))
  let _ ← call.executor.validateRoute request.request attempt.plan.route
  Program.lift (require (request.request.inputArtifact.size ≤ 4194304)
    (.routeValidation "effect request envelope exceeds the 4 MiB G1 bound"))
  let input ← call.executor.getBytes request.request.inputArtifact
  call.validateInput input
  return input

/-- The adapter cannot present the request, as it says before the attempt starts. -/
def recordNoAttempt (request : EffectRequestState) (failure : AdapterFailure) : ExecutorProgram InquiryState := do
  let diagnostics ← call.putDiagnostics "preflight" "exception_type" failure.typeName
  let occurredAt ← call.executor.now
  call.record (stableId "evt" [call.attemptId, "no-attempt"]) occurredAt (.recordNoAttemptDisposition {
    id := stableId "disposition" [call.attemptId, "unsupported"]
    requestId := call.requestId
    stepPlanId := request.request.stepPlanId
    reasonKind := .unsupported
    diagnostics := some diagnostics })

def startAttempt : ExecutorProgram InquiryState := do
  let startedAt ← call.executor.now
  call.record (stableId "evt" [call.attemptId, "started"]) startedAt (.startEffectAttempt call.attemptId)

/-- An outcome without a return. -/
def recordOutcome (label : String) (outcome : AttemptOutcome) : ExecutorProgram InquiryState := do
  let occurredAt ← call.executor.now
  call.record (stableId "evt" [call.attemptId, label]) occurredAt (.recordAttemptOutcome call.requestId outcome)

/-- An exception of `perform_exact`: the attempt was not presented, or it is unknown whether it was. -/
def recordFailure (attempt : AttemptState) (failure : AdapterFailure) : ExecutorProgram InquiryState :=
  match failure.kind with
  | .unsupported => do
    let diagnostics ← call.putDiagnostics "preflight" "exception_type" failure.typeName
    call.recordOutcome "not-presented"
      (.notPresented call.attemptId attempt.plan.route.id .unsupported (some diagnostics))
  | kind => do
    let diagnostics ← call.putDiagnostics "presentation_or_transport" "exception_type" failure.typeName
    let reason : PresentationUnknownReason := match kind with
      | .timeout => .timeout
      | .transport => .transportError
      | _ => .internalFailure
    call.recordOutcome "presentation-unknown"
      (.presentationUnknown call.attemptId attempt.plan.route.id reason diagnostics)

/-- What `perform_exact` returned was not exact bytes. -/
def recordCaptureFailure (attempt : AttemptState) : ExecutorProgram InquiryState := do
  let diagnostics ← call.putDiagnostics "capture" "reason" "adapter_return_was_not_exact_bytes"
  call.recordOutcome "capture-failed"
    (.captureFailed call.attemptId attempt.plan.route.id .captureError diagnostics)

/-- The bytes are stored before the return that carries them is recorded. -/
def recordReturn (attempt : AttemptState) (raw : StoredBytes) : ExecutorProgram InquiryState := do
  let artifact ← call.executor.putBytes raw "application/octet-stream" "binary"
  let capturedAt ← call.executor.now
  let externalReturn : ExternalReturn := {
    id := stableId "return" [call.attemptId, artifact.digest]
    attemptId := call.attemptId
    routeId := attempt.plan.route.id
    captureBoundary := "adapter-perform-exact-return-bytes"
    captureEncoding := "binary"
    capturedAt := capturedAt
    rawPayload := .bytes artifact }
  call.record (stableId "evt" [externalReturn.id, "captured"]) capturedAt
    (.recordAttemptOutcome call.requestId (.returned externalReturn))

/-- The identity of the executor's decode of a return. -/
def decodeId (externalReturn : ExternalReturn) : String :=
  stableId "decode" [externalReturn.id, call.adapter.adapterVersion]

/-- The diagnostics of a decode that found no meaning. -/
def putDecodeDiagnostics (diagnostic status : String) : ExecutorProgram ArtifactRef :=
  call.executor.putBytes (canonicalBytes (objectOf [("diagnostic", .text diagnostic), ("status", .text status)]))
    "application/vnd.rci.decode-diagnostic+json" "utf-8"

/-- What the decode of a return is recorded as, once its artifacts are stored. -/
def decodeBody (externalReturn : ExternalReturn) : AdapterDecodeResult → ExecutorProgram DecodeBody
  | .decoded semanticBytes semanticMediaType semanticEncoding operationId => do
    let semantic ← call.executor.putBytes semanticBytes semanticMediaType semanticEncoding
    return .decoded ⟨stableId "result" [call.decodeId externalReturn], semantic, .success operationId⟩
  | .unsupported diagnostic => return .unsupported diagnostic.text
  | .malformed diagnostic => return .malformed (← call.putDecodeDiagnostics diagnostic.text "malformed")
  | .failed diagnostic => return .failed (← call.putDecodeDiagnostics diagnostic.text "failed")

/-- Interpret the committed bytes of a return and record what they were decoded to. -/
def recordDecode (externalReturn : ExternalReturn) (raw : StoredBytes) : ExecutorProgram InquiryState := do
  let decoded ← call.decodeExact raw
  let body ← call.decodeBody externalReturn decoded
  let occurredAt ← call.executor.now
  call.record (stableId "evt" [call.decodeId externalReturn, "decoded"]) occurredAt
    (.recordDecodeOutcome call.requestId {
      id := call.decodeId externalReturn
      externalReturnId := externalReturn.id
      decoderId := call.adapter.adapterId ++ "-decoder"
      decoderVersion := call.adapter.adapterVersion
      body := body })

/-- Accept a successful decode, where the call asks for it. -/
def acceptDecode (state : InquiryState) (decode : DecodeOutcome) : ExecutorProgram InquiryState :=
  if call.acceptDecoded && decode.result?.isSome then do
    let occurredAt ← call.executor.now
    call.record (stableId "evt" [decode.id, "accepted"]) occurredAt
      (.acceptEffectResult call.requestId decode.id)
  else return state

/-- The rest of a call once the attempt has an outcome: a return is decoded unless it was, and accepted. -/
def finish (state : InquiryState) (request : EffectRequestState) (attempt : AttemptState) :
    ExecutorProgram InquiryState :=
  match attempt.outcome with
  | some (.returned externalReturn) => do
    let artifact ← Program.lift (found externalReturn.rawPayload.artifact
      (.runtime "byte-return outcome lacks its authoritative artifact"))
    let raw ← call.executor.getBytes artifact
    match request.decodeOutcomes.find? (fun item => item.externalReturnId = externalReturn.id) with
    | some existing => call.acceptDecode state existing
    | none => do
      let state ← call.recordDecode externalReturn raw
      let (request, _) ← Program.lift (locateAttempt state call.requestId call.attemptId)
      let decode ← Program.lift (found
        (request.decodeOutcomes.find? (fun item => item.id = call.decodeId externalReturn)) .stopIteration)
      call.acceptDecode state decode
  | _ => return state

/-- The presentation of a started attempt without an outcome. -/
def present (request : EffectRequestState) (attempt : AttemptState) (input : StoredBytes) :
    ExecutorProgram InquiryState := do
  match ← call.performExact input request.request.timeoutSeconds with
  | .error failure => call.recordFailure attempt failure
  | .ok .otherValue => call.recordCaptureFailure attempt
  | .ok (.bytes raw) => do
    let state ← call.recordReturn attempt raw
    let (request, attempt) ← Program.lift (locateAttempt state call.requestId call.attemptId)
    call.finish state request attempt

/-- A call whose attempt has started. -/
def resume (state : InquiryState) (request : EffectRequestState) (attempt : AttemptState) (input : StoredBytes) :
    ExecutorProgram InquiryState := do
  Program.lift (require attempt.started
    (.runtime "attempt start was not durably folded before execution"))
  if attempt.outcome = none then call.present request attempt input
  else call.finish state request attempt

/-- A call whose attempt has not started: the adapter is asked first. -/
def startAndResume (request : EffectRequestState) (input : StoredBytes) : ExecutorProgram InquiryState := do
  match ← call.preflight with
  | .error failure =>
    if failure.kind = .unsupported then call.recordNoAttempt request failure
    else Program.raise (.adapter failure)
  | .ok () => do
    let state ← call.startAttempt
    let (request, attempt) ← Program.lift (locateAttempt state call.requestId call.attemptId)
    call.resume state request attempt input

/-- `PersistedEffectExecutor.execute`. -/
def execute : ExecutorProgram InquiryState := do
  let state ← call.executor.rebuildState call.inquiryId
  let (request, attempt) ← Program.lift (locateAttempt state call.requestId call.attemptId)
  let input ← call.checkedInput request attempt
  if request.acceptedDecodedOutcomeId.isSome then return state
  else if attempt.outcome.any (fun outcome => outcome.externalReturn?.isNone) then return state
  else if attempt.started then call.resume state request attempt input
  else call.startAndResume request input

end

end ExecuteCall

end RatchetingInquiry
