import RatchetingInquiry.Invariants.Lawfulness
import RatchetingInquiry.Invariants.StreamFold
import RatchetingInquiry.Orchestration.Effects

/-! What one call of the executor can do. Wherever it stops, it made operations that the attempt allows, each judged
by what the ledger shows at that moment. -/

namespace RatchetingInquiry

/-- The request and the attempt that the identities name. -/
def EffectRecords.Locates (effects : EffectRecords) (requestId attemptId : String) (request : EffectRequestState)
    (attempt : AttemptState) : Prop :=
  effects.requestById requestId = some request ∧ request.attemptById attemptId = some attempt

/-- The attempt has started and has no outcome, and its request has no accepted result. -/
def EffectRecords.ReadyToPerform (effects : EffectRecords) (requestId attemptId : String) : Prop :=
  ∃ request attempt, effects.Locates requestId attemptId request attempt ∧ attempt.started = true ∧
    attempt.outcome = none ∧ request.acceptedDecodedOutcomeId = none

/-- The attempt has the return as its outcome. -/
def EffectRecords.HasReturn (effects : EffectRecords) (requestId attemptId : String) (externalReturn : ExternalReturn) :
    Prop :=
  ∃ request attempt, effects.Locates requestId attemptId request attempt ∧
    attempt.outcome = some (.returned externalReturn)

/-- The first decode of a return among the records of the request. -/
def EffectRecords.FirstDecode (effects : EffectRecords) (requestId returnId : String) (decode : DecodeOutcome) : Prop :=
  ∃ request, effects.requestById requestId = some request ∧
    request.decodeOutcomes.find? (fun item => item.externalReturnId = returnId) = some decode

/-- A decode of a return among the records of the request. -/
def EffectRecords.Decoded (effects : EffectRecords) (requestId returnId : String) (decode : DecodeOutcome) : Prop :=
  ∃ request, effects.requestById requestId = some request ∧ decode ∈ request.decodeOutcomes ∧
    decode.externalReturnId = returnId

def EffectRecords.Accepted (effects : EffectRecords) (requestId : String) : Prop :=
  ∃ request, effects.requestById requestId = some request ∧ request.acceptedDecodedOutcomeId ≠ none

/-- What the executor may commit: any fact of the effect lifecycle, but a decode only of the return of the attempt,
and only as the first one. -/
def EffectRecords.MayCommit (effects : EffectRecords) (requestId attemptId : String) : EffectEvent → Prop
  | .effectDecodeOutcomeRecorded owner outcome => owner = requestId ∧ ∃ externalReturn,
      effects.HasReturn requestId attemptId externalReturn ∧ outcome.externalReturnId = externalReturn.id ∧
      ∀ decode, ¬ effects.FirstDecode requestId externalReturn.id decode
  | .effectAttemptStarted _ | .effectNoAttemptDispositionRecorded _ | .effectAttemptOutcomeRecorded _ _
  | .effectResultAccepted _ _ => True
  | _ => False

theorem locateAttempt_eq_ok {state : InquiryState} {requestId attemptId : String} {request : EffectRequestState}
    {attempt : AttemptState} : locateAttempt state requestId attemptId = .ok (request, attempt) ↔
      state.toEffectRecords.Locates requestId attemptId request attempt := by
  simp [locateAttempt, EffectRecords.Locates, pure, Except.pure]

/-- The bytes are those that the artifact of the return names. -/
def ExternalReturn.IsStoredAs [ByteFacts] (externalReturn : ExternalReturn) (raw : StoredBytes) : Prop :=
  ∃ artifact, externalReturn.rawPayload.artifact = some artifact ∧ ByteFacts.sha256 raw = artifact.digest ∧
    ByteFacts.length raw = artifact.size

section
variable [Fingerprints] {state after : InquiryState} {head : EventMetadata} {event : EffectEvent}

/-- A request after an effect event is what the event leaves of it. -/
theorem evolve_request (replayed : Replayable state) (nothing : event.introduces = {})
    (evolved : evolve state ⟨head, .effect event⟩ = .ok after) (requestId : String) :
    after.requestById requestId = (state.requestById requestId).map (event.leaves head) := by
  obtain ⟨transition, -⟩ := evolve_eq_ok.mp evolved
  have appended := transition.effectsAppended replayed.effectsSound replayed.unstarted_eq_initial
  have requests : after.effectRequests = state.effectRequests.map (event.leaves head) := by
    have all := appended.requests
    simp only [EventBody.introduces, nothing, List.append_nil] at all
    exact all
  unfold EffectRecords.requestById
  rw [requests, List.find?_map]
  congr 2
  funext request
  simp only [Function.comp, event.leaves_request]

end

section
variable [Fingerprints] [ByteFacts] [Pydantic]

/-- One operation of a call for the attempt. Artifacts are stored, one fact is committed behind those that the ledger
shows, or the adapter is called while the ledger shows what the call relies on. -/
inductive ExecutorStep (inquiryId requestId attemptId : String) (world : ExecutorWorld) : ExecutorWorld → Prop
  | stored (store : ArtifactStore) : ExecutorStep inquiryId requestId attemptId world { world with store := store }
  | committed (ledger : Ledger) (events : List DomainEvent) (state after : InquiryState) (head : EventMetadata)
      (event : EffectEvent) (fold : ShowsFold world.ledger inquiryId events state)
      (evolved : evolve state ⟨head, .effect event⟩ = .ok after)
      (folded : ShowsFold ledger inquiryId (events ++ [⟨head, .effect event⟩]) after)
      (lawful : state.toEffectRecords.MayCommit requestId attemptId event) :
      ExecutorStep inquiryId requestId attemptId world { world with ledger := ledger }
  | performed (events : List DomainEvent) (state : InquiryState) (fold : ShowsFold world.ledger inquiryId events state)
      (ready : state.toEffectRecords.ReadyToPerform requestId attemptId) :
      ExecutorStep inquiryId requestId attemptId world { world with performed := world.performed ++ [world.ledger] }
  | decoded (raw : StoredBytes) (events : List DomainEvent) (state : InquiryState) (externalReturn : ExternalReturn)
      (fold : ShowsFold world.ledger inquiryId events state)
      (returned : state.toEffectRecords.HasReturn requestId attemptId externalReturn)
      (stored : externalReturn.IsStoredAs raw) :
      ExecutorStep inquiryId requestId attemptId world
        { world with decodings := world.decodings ++ [(raw, world.ledger)] }

/-- What the record of a command leaves: it repeats what is recorded, or its fact is added. -/
inductive CommandRecorded (state : InquiryState) (command : EffectCommand) (after : InquiryState) : Prop
  | repeated (rebuilt : InquiryState) (same : rebuilt.toEffectRecords = state.toEffectRecords)
      (unchanged : after.toEffectRecords = state.toEffectRecords) (decided : decideEffect rebuilt command = .ok none)
  | added (head : EventMetadata) (event : EffectEvent) (commanded : event.command = command)
      (evolved : evolve state ⟨head, .effect event⟩ = .ok after)

omit [ByteFacts] [Pydantic] in
/-- One effect command is repeated or proposes one event. -/
theorem decidePending_effect {state next : InquiryState} {head : EventMetadata} {command : EffectCommand}
    {pending : List DomainEvent}
    (decided : PersistedEffectExecutor.decidePending state [⟨head, .effect command⟩] = .ok (pending, next)) :
    (pending = [] ∧ next = state ∧ decideEffect state command = .ok none) ∨
      ∃ event, pending = [⟨head, .effect event⟩] ∧ event.command = command ∧
        evolve state ⟨head, .effect event⟩ = .ok next := by
  simp only [PersistedEffectExecutor.decidePending, List.foldlM_cons, List.foldlM_nil, List.nil_append, bind_eq_ok, pure,
    Except.pure, Except.ok.injEq] at decided
  obtain ⟨progress, ⟨events, decides, last, folds, rfl⟩, same⟩ := decided
  obtain ⟨rfl, rfl⟩ := Prod.mk.inj same
  obtain ⟨body, decidedBody, rfl⟩ := decide_eq_ok.mp decides
  obtain ⟨-, decidedBody⟩ := unit_bind_eq_ok.mp decidedBody
  obtain ⟨decision, lawful, wrapped⟩ := bind_eq_ok.mp decidedBody
  obtain rfl := Except.ok.inj wrapped
  cases decision with
  | none =>
    left
    have unmoved : state = last := by simpa [pure, Except.pure] using folds
    exact ⟨rfl, unmoved.symm, lawful⟩
  | some event =>
    right
    refine ⟨event, rfl, decideEffect_command command _ lawful event rfl, ?_⟩
    simpa using folds

omit [ByteFacts] [Pydantic] in
/-- An effect event leaves the same effect records of states that have the same ones. -/
theorem evolve_effects_agree {left right leftNext rightNext : InquiryState} {head : EventMetadata} {event : EffectEvent}
    (same : left.toEffectRecords = right.toEffectRecords) (replayed : Replayable right)
    (fromLeft : evolve left ⟨head, .effect event⟩ = .ok leftNext)
    (fromRight : evolve right ⟨head, .effect event⟩ = .ok rightNext) :
    leftNext.toEffectRecords = rightNext.toEffectRecords := by
  have started : left.status ≠ .notStarted := by
    obtain ⟨transition, -⟩ := evolve_eq_ok.mp fromLeft
    cases transition with
    | effect _ _ active => simp [active.1]
  have replayLeft : replay left [⟨head, .effect event⟩] = .ok leftNext := by simpa [replay] using fromLeft
  have replayRight : replay right [⟨head, .effect event⟩] = .ok rightNext := by simpa [replay] using fromRight
  exact replay_effects_agree same started replayed replayLeft replayRight

section
variable {inquiryId requestId attemptId : String} {executor : PersistedEffectExecutor} {world : ExecutorWorld}
  {events : List DomainEvent} {state : InquiryState}

theorem now_traces : Program.Traces (ExecutorStep inquiryId requestId attemptId) executor.now world
    (fun _ next => next = world) :=
  Program.traces_operate (fun _ => .inl rfl) (fun _ _ _ => rfl)

theorem getBytes_traces {artifact : ArtifactRef} :
    Program.Traces (ExecutorStep inquiryId requestId attemptId) (executor.getBytes artifact) world
      (fun raw next => next = world ∧ world.store.getBytes artifact = .ok raw) := by
  apply Program.traces_operate
  · intro moment
    left
    split <;> rfl
  · intro moment raw read
    split at read
    next => cases read
    next => exact ⟨rfl, fromStore_eq_ok.mp read⟩

theorem putBytes_traces {data : StoredBytes} {mediaType encoding : String} :
    Program.Traces (ExecutorStep inquiryId requestId attemptId) (executor.putBytes data mediaType encoding) world
      (fun _ next => next.ledger = world.ledger) := by
  apply Program.traces_operate
  · intro moment
    split
    next => exact .inl rfl
    next => exact .inr (.stored _)
  · intro moment artifact _
    split <;> rfl

theorem validateRoute_traces {request : EffectRequest} {snapshot : RouteSnapshot} :
    Program.Traces (ExecutorStep inquiryId requestId attemptId) (executor.validateRoute request snapshot) world
      (fun _ next => next = world) := by
  apply Program.traces_operate
  · intro moment
    left
    split <;> rfl
  · intro moment definition _
    split <;> rfl

/-- A rebuild has the effect records that the ledger shows. -/
theorem rebuildState_traces (fold : ShowsFold world.ledger inquiryId events state) :
    Program.Traces (ExecutorStep inquiryId requestId attemptId) (executor.rebuildState inquiryId) world
      (fun rebuilt next => next = world ∧ rebuilt.toEffectRecords = state.toEffectRecords) := by
  apply Program.traces_operate
  · intro moment
    left
    split <;> rfl
  · intro moment rebuilt rebuilds
    split at rebuilds
    next => cases rebuilds
    next => exact ⟨rfl, fold.rebuilt_effects (fromStore_eq_ok.mp rebuilds)⟩

/-- The append of an event behind what the ledger shows. -/
theorem appendEvents_traces {expected : Nat} {head : EventMetadata} {event : EffectEvent}
    (fold : ShowsFold world.ledger inquiryId events state)
    (lawful : state.toEffectRecords.MayCommit requestId attemptId event) :
    Program.Traces (ExecutorStep inquiryId requestId attemptId)
      (executor.appendEvents inquiryId expected [⟨head, .effect event⟩]) world (fun appended next =>
        (∀ failure, appended = .error failure → next = world) ∧
        ∀ sequence, appended = .ok sequence → ∃ after, evolve state ⟨head, .effect event⟩ = .ok after ∧
          ShowsFold next.ledger inquiryId (events ++ [⟨head, .effect event⟩]) after) := by
  apply Program.traces_operate
  · intro moment
    split
    next => exact .inl rfl
    next =>
      dsimp only
      rcases ran : append (executor.eventArtifacts world.store) (executor.eventArtifacts world.store) world.ledger
        inquiryId expected [⟨head, .effect event⟩] with ⟨ledger, failure | sequence⟩
      · left
        rw [append_rejected ran]
      · obtain ⟨after, evolved, folded⟩ := fold.appended ran
        exact .inr (.committed ledger events state after head event fold evolved folded lawful)
  · intro moment appended returned
    split at returned
    next failure faulted =>
      obtain rfl := Except.ok.inj returned
      simp
    next =>
      dsimp only at returned ⊢
      rcases ran : append (executor.eventArtifacts world.store) (executor.eventArtifacts world.store) world.ledger
        inquiryId expected [⟨head, .effect event⟩] with ⟨ledger, failure | sequence⟩
      · rw [ran] at returned
        obtain rfl := Except.ok.inj returned
        refine ⟨fun _ _ => by rw [append_rejected ran], ?_⟩
        intro sequence same
        cases same
      · rw [ran] at returned
        obtain rfl := Except.ok.inj returned
        constructor
        · intro failure same
          cases same
        · intro _ _
          exact fold.appended ran

/-- The append of one effect command, however many races it loses. -/
theorem appendRounds_traces {head : EventMetadata} {command : EffectCommand}
    (fold : ShowsFold world.ledger inquiryId events state)
    (lawful : ∀ event : EffectEvent, event.command = command →
      state.toEffectRecords.MayCommit requestId attemptId event) (rounds : Nat) :
    Program.Traces (ExecutorStep inquiryId requestId attemptId)
      (executor.appendRounds inquiryId [⟨head, .effect command⟩] rounds) world (fun result next =>
        ∃ shown after, ShowsFold next.ledger inquiryId shown after ∧ result.toEffectRecords = after.toEffectRecords ∧
          CommandRecorded state command after) := by
  induction rounds with
  | zero => exact Program.traces_raise
  | succ rounds ih =>
    apply Program.traces_bind (rebuildState_traces fold)
    intro rebuilt reached _ ⟨unmoved, same⟩
    subst unmoved
    apply Program.traces_lift_bind
    intro decided done
    have decides := fromCore_eq_ok.mp (fromStore_eq_ok.mp done)
    obtain ⟨pending, next⟩ := decided
    rcases decidePending_effect decides with ⟨rfl, rfl, repeats⟩ | ⟨event, rfl, commanded, evolved⟩
    · apply Program.traces_pure
      exact ⟨events, state, fold, same, .repeated next same rfl repeats⟩
    · simp only [reduceCtorEq, if_false]
      apply Program.traces_bind (appendEvents_traces fold (lawful event commanded))
      intro appended final _ ⟨failed, succeeded⟩
      split
      next sequence =>
        obtain ⟨after, evolvedShown, folded⟩ := succeeded sequence rfl
        apply Program.traces_pure
        exact ⟨_, after, folded, evolve_effects_agree same fold.replayable evolved evolvedShown,
          .added head event commanded evolvedShown⟩
      next =>
        obtain rfl := failed _ rfl
        exact ih
      next => exact Program.traces_raise

end

/-! The parts of a call, from the ends of it to its beginning. -/

/-- The operations of a call are made for its attempt. -/
abbrev ExecuteCall.Step (call : ExecuteCall) : ExecutorWorld → ExecutorWorld → Prop :=
  ExecutorStep call.inquiryId call.requestId call.attemptId

section
variable {call : ExecuteCall} {world : ExecutorWorld} {events : List DomainEvent} {state result : InquiryState}
  {request : EffectRequestState} {attempt : AttemptState} {externalReturn : ExternalReturn} {decode : DecodeOutcome}

/-- What a call leaves and returns once it recorded a command. -/
def ExecuteCall.Recorded (call : ExecuteCall) (state : InquiryState) (command : EffectCommand) (result : InquiryState)
    (next : ExecutorWorld) : Prop :=
  ∃ shown after, ShowsFold next.ledger call.inquiryId shown after ∧ result.toEffectRecords = after.toEffectRecords ∧
    CommandRecorded state command after

theorem record_traces {eventId : String} {occurredAt : Timestamp} {command : EffectCommand}
    (fold : ShowsFold world.ledger call.inquiryId events state)
    (lawful : ∀ event : EffectEvent, event.command = command →
      state.toEffectRecords.MayCommit call.requestId call.attemptId event) :
    Program.Traces call.Step (call.record eventId occurredAt command) world (call.Recorded state command) :=
  appendRounds_traces fold lawful 3

/-- A command that is recorded at the time of the clock. -/
theorem timed_record_traces {eventId : String} {command : EffectCommand}
    (fold : ShowsFold world.ledger call.inquiryId events state)
    (lawful : ∀ event : EffectEvent, event.command = command →
      state.toEffectRecords.MayCommit call.requestId call.attemptId event) :
    Program.Traces call.Step (do
      let occurredAt ← call.executor.now
      call.record eventId occurredAt command) world (call.Recorded state command) := by
  apply Program.traces_bind now_traces
  intro occurredAt reached _ unmoved
  subst unmoved
  exact record_traces fold lawful

theorem acceptDecode_traces (fold : ShowsFold world.ledger call.inquiryId events state) :
    Program.Traces call.Step (call.acceptDecode result decode) world (fun _ _ => True) := by
  unfold ExecuteCall.acceptDecode
  split
  next =>
    apply (timed_record_traces fold ?_).weaken (fun _ _ _ _ => trivial)
    intro event commanded
    cases event <;> simp_all [EffectEvent.command, EffectRecords.MayCommit]
  next => exact Program.traces_pure trivial

theorem decodeBody_traces {decoded : AdapterDecodeResult} :
    Program.Traces call.Step (call.decodeBody externalReturn decoded) world
      (fun _ next => next.ledger = world.ledger) := by
  cases decoded with
  | unsupported diagnostic => exact Program.traces_pure rfl
  | _ =>
    apply Program.traces_bind putBytes_traces
    intro artifact reached _ unmoved
    exact Program.traces_pure unmoved

/-- Interpreting the return of the attempt, of which no decode is recorded. -/
theorem recordDecode_traces {raw : StoredBytes} (fold : ShowsFold world.ledger call.inquiryId events state)
    (returned : state.toEffectRecords.HasReturn call.requestId call.attemptId externalReturn)
    (stored : externalReturn.IsStoredAs raw)
    (undecoded : ∀ decode, ¬ state.toEffectRecords.FirstDecode call.requestId externalReturn.id decode) :
    Program.Traces call.Step (call.recordDecode externalReturn raw) world (fun result next =>
      ∃ shown after, ShowsFold next.ledger call.inquiryId shown after ∧
        result.toEffectRecords = after.toEffectRecords) := by
  have decodes : Program.Traces call.Step (call.decodeExact raw) world (fun _ next => next.ledger = world.ledger) := by
    apply Program.traces_operate
    · intro moment
      exact .inr (.decoded raw events state externalReturn fold returned stored)
    · intro moment decoded _
      rfl
  apply Program.traces_bind decodes
  intro decoded reached _ unmoved
  apply Program.traces_bind decodeBody_traces
  intro body later _ stillUnmoved
  have laterFold : ShowsFold later.ledger call.inquiryId events state := by
    rw [stillUnmoved, unmoved]
    exact fold
  apply (timed_record_traces laterFold ?_).weaken
  · intro result next _ recorded
    obtain ⟨shown, after, folded, same, -⟩ := recorded
    exact ⟨shown, after, folded, same⟩
  · intro event commanded
    cases event <;> simp only [EffectEvent.command, reduceCtorEq] at commanded
    rename_i owner outcome
    obtain ⟨rfl, rfl⟩ := EffectCommand.recordDecodeOutcome.inj commanded
    exact ⟨rfl, externalReturn, returned, rfl, undecoded⟩

omit [Fingerprints] [Pydantic] in
theorem getBytes_stored {store : ArtifactStore} {artifact : ArtifactRef} {raw : StoredBytes}
    (captured : externalReturn.rawPayload.artifact = some artifact) (read : store.getBytes artifact = .ok raw) :
    externalReturn.IsStoredAs raw := by
  simp only [ArtifactStore.getBytes, found_bind_eq_ok, require_bind_eq_ok] at read
  obtain ⟨data, -, size, digest, same⟩ := read
  obtain rfl : data = raw := Except.ok.inj same
  exact ⟨artifact, captured, digest, size⟩

/-- The rest of a call whose attempt has an outcome. -/
theorem finish_traces (fold : ShowsFold world.ledger call.inquiryId events state)
    (located : state.toEffectRecords.Locates call.requestId call.attemptId request attempt) :
    Program.Traces call.Step (call.finish result request attempt) world (fun _ _ => True) := by
  unfold ExecuteCall.finish
  split
  next externalReturn returned =>
    apply Program.traces_lift_bind
    intro artifact captured
    apply Program.traces_bind getBytes_traces
    intro raw reached _ ⟨unmoved, read⟩
    subst unmoved
    split
    next existing hit => exact acceptDecode_traces fold
    next missing =>
      have undecoded : ∀ decode, ¬ state.toEffectRecords.FirstDecode call.requestId externalReturn.id decode := by
        intro decode first
        obtain ⟨owner, hit, decoded⟩ := first
        obtain rfl : request = owner := Option.some.inj (located.1.symm.trans hit)
        rw [missing] at decoded
        cases decoded
      have stored := getBytes_stored (found_eq_ok.mp captured) read
      apply Program.traces_bind (recordDecode_traces fold ⟨request, attempt, located, returned⟩ stored undecoded)
      intro result next _ ⟨shown, after, folded, same⟩
      apply Program.traces_lift_bind
      intro found relocated
      apply Program.traces_lift_bind
      intro decode listed
      exact acceptDecode_traces folded
  next => exact Program.traces_pure trivial

/-- An outcome without a return is recorded with its diagnostics. -/
theorem recordOutcome_traces {phase label text name : String} {outcome : ArtifactRef → AttemptOutcome}
    (fold : ShowsFold world.ledger call.inquiryId events state) :
    Program.Traces call.Step (do
      let diagnostics ← call.putDiagnostics phase label text
      call.recordOutcome name (outcome diagnostics)) world (fun _ _ => True) := by
  apply Program.traces_bind putBytes_traces
  intro diagnostics reached _ unmoved
  apply (timed_record_traces (by rw [unmoved]; exact fold) ?_).weaken (fun _ _ _ _ => trivial)
  intro event commanded
  cases event <;> simp_all [EffectEvent.command, EffectRecords.MayCommit]

theorem recordReturn_traces {raw : StoredBytes} (fold : ShowsFold world.ledger call.inquiryId events state) :
    Program.Traces call.Step (call.recordReturn attempt raw) world (fun result next =>
      ∃ shown after, ShowsFold next.ledger call.inquiryId shown after ∧
        result.toEffectRecords = after.toEffectRecords) := by
  apply Program.traces_bind putBytes_traces
  intro artifact reached _ unmoved
  apply Program.traces_bind now_traces
  intro capturedAt later _ stillUnmoved
  subst stillUnmoved
  apply (record_traces (by rw [unmoved]; exact fold) ?_).weaken
  · intro result next _ recorded
    obtain ⟨shown, after, folded, same, -⟩ := recorded
    exact ⟨shown, after, folded, same⟩
  · intro event commanded
    cases event <;> simp_all [EffectEvent.command, EffectRecords.MayCommit]

/-- The presentation of an attempt that is ready. -/
theorem present_traces {input : StoredBytes} (fold : ShowsFold world.ledger call.inquiryId events state)
    (ready : state.toEffectRecords.ReadyToPerform call.requestId call.attemptId) :
    Program.Traces call.Step (call.present request attempt input) world (fun _ _ => True) := by
  have performs : Program.Traces call.Step (call.performExact input request.request.timeoutSeconds) world
      (fun _ next => next.ledger = world.ledger) := by
    apply Program.traces_operate
    · intro moment
      exact .inr (.performed events state fold ready)
    · intro moment answer _
      rfl
  apply Program.traces_bind performs
  intro answer reached _ unmoved
  have reachedFold : ShowsFold reached.ledger call.inquiryId events state := by
    rw [unmoved]
    exact fold
  split
  next failure =>
    unfold ExecuteCall.recordFailure
    split
    next => exact recordOutcome_traces reachedFold
    next => exact recordOutcome_traces reachedFold
  next => exact recordOutcome_traces reachedFold
  next raw =>
    apply Program.traces_bind (recordReturn_traces reachedFold)
    intro result next _ ⟨shown, after, folded, same⟩
    apply Program.traces_lift_bind
    intro located relocated
    obtain ⟨laterRequest, laterAttempt⟩ := located
    apply finish_traces folded
    rw [← same]
    exact locateAttempt_eq_ok.mp relocated

/-- A call whose attempt is located and whose request has no accepted result. -/
theorem resume_traces {input : StoredBytes} (fold : ShowsFold world.ledger call.inquiryId events state)
    (located : state.toEffectRecords.Locates call.requestId call.attemptId request attempt)
    (unaccepted : request.acceptedDecodedOutcomeId = none) :
    Program.Traces call.Step (call.resume result request attempt input) world (fun _ _ => True) := by
  apply Program.traces_lift_bind
  intro _ started
  split
  next unended =>
    exact present_traces fold ⟨request, attempt, located, require_eq_ok.mp started, unended, unaccepted⟩
  next => exact finish_traces fold located

omit [ByteFacts] [Pydantic] in
/-- The start of an attempt accepts nothing. -/
theorem CommandRecorded.start_keeps {after : InquiryState} {attemptId requestId : String} {later : EffectRequestState}
    (replayed : Replayable state) (recorded : CommandRecorded state (.startEffectAttempt attemptId) after)
    (before : state.requestById requestId = some request) (hit : after.requestById requestId = some later) :
    later.acceptedDecodedOutcomeId = request.acceptedDecodedOutcomeId := by
  cases recorded with
  | repeated _ _ unchanged _ =>
    rw [unchanged, before] at hit
    rw [Option.some.inj hit]
  | added head event commanded evolved =>
    cases event <;> simp only [EffectEvent.command, reduceCtorEq] at commanded
    rw [evolve_request replayed rfl evolved, before, Option.map_some] at hit
    rw [← Option.some.inj hit]
    rfl

theorem startAndResume_traces {input : StoredBytes} (fold : ShowsFold world.ledger call.inquiryId events state)
    (located : state.toEffectRecords.Locates call.requestId call.attemptId request attempt)
    (unaccepted : request.acceptedDecodedOutcomeId = none) :
    Program.Traces call.Step (call.startAndResume request input) world (fun _ _ => True) := by
  have asks : Program.Traces call.Step call.preflight world (fun _ next => next = world) :=
    Program.traces_operate (fun _ => .inl rfl) (fun _ _ _ => rfl)
  apply Program.traces_bind asks
  intro answer reached _ unmoved
  subst unmoved
  split
  next failure =>
    split
    next =>
      apply Program.traces_bind putBytes_traces
      intro diagnostics later _ unmoved
      apply (timed_record_traces (by rw [unmoved]; exact fold) ?_).weaken (fun _ _ _ _ => trivial)
      intro event commanded
      cases event <;> simp_all [EffectEvent.command, EffectRecords.MayCommit]
    next => exact Program.traces_raise
  next =>
    refine Program.traces_bind (timed_record_traces fold ?_) ?_
    · intro event commanded
      cases event <;> simp_all [EffectEvent.command, EffectRecords.MayCommit]
    · intro result next _ recorded
      obtain ⟨shown, after, folded, same, started⟩ := recorded
      apply Program.traces_lift_bind
      intro relocated located'
      obtain ⟨laterRequest, laterAttempt⟩ := relocated
      have locatedLater := locateAttempt_eq_ok.mp located'
      rw [same] at locatedLater
      apply resume_traces folded locatedLater
      rw [started.start_keeps fold.replayable located.1 locatedLater.1]
      exact unaccepted

theorem checkedInput_traces : Program.Traces call.Step (call.checkedInput request attempt) world
    (fun _ next => next = world) := by
  apply Program.traces_lift_bind
  intro _ _
  apply Program.traces_lift_bind
  intro _ _
  apply Program.traces_lift_bind
  intro _ _
  apply Program.traces_bind validateRoute_traces
  intro definition reached _ unmoved
  subst unmoved
  apply Program.traces_lift_bind
  intro _ _
  apply Program.traces_bind getBytes_traces
  intro input reached _ ⟨unmoved, _⟩
  subst unmoved
  have validates : Program.Traces call.Step (call.validateInput input) reached (fun _ next => next = reached) :=
    Program.traces_operate (fun _ => .inl rfl) (fun _ _ _ => rfl)
  apply Program.traces_bind validates
  intro _ later _ unmoved
  exact Program.traces_pure unmoved

/-- Whatever a call does and wherever it stops, it only makes operations that its attempt allows. -/
theorem execute_traces (fold : ShowsFold world.ledger call.inquiryId events state) :
    Program.Traces call.Step call.execute world (fun _ _ => True) := by
  apply Program.traces_bind (rebuildState_traces fold)
  intro rebuilt reached _ ⟨unmoved, same⟩
  subst unmoved
  apply Program.traces_lift_bind
  intro located locates
  obtain ⟨request, attempt⟩ := located
  have shownLocated := locateAttempt_eq_ok.mp locates
  rw [same] at shownLocated
  apply Program.traces_bind checkedInput_traces
  intro input later _ unmoved
  subst unmoved
  split
  next => exact Program.traces_pure trivial
  next unaccepted =>
    have none : request.acceptedDecodedOutcomeId = none := by simpa using unaccepted
    split
    next => exact Program.traces_pure trivial
    next =>
      split
      next => exact resume_traces fold shownLocated none
      next => exact startAndResume_traces fold shownLocated none

omit [ByteFacts] [Pydantic] in
/-- A result is accepted once its acceptance is recorded, or it was accepted before. -/
theorem CommandRecorded.accepts {after : InquiryState} {requestId decodeId : String} (replayed : Replayable state)
    (recorded : CommandRecorded state (.acceptEffectResult requestId decodeId) after)
    (owned : state.requestById requestId = some request) : after.toEffectRecords.Accepted requestId := by
  cases recorded with
  | repeated rebuilt same unchanged decided =>
    have repeats : decideAcceptEffectResult state.toEffectRecords requestId decodeId = .ok none := by
      rw [← same]
      exact decided
    simp only [decideAcceptEffectResult, requireRequest, found_bind_eq_ok] at repeats
    obtain ⟨found, hit, rest⟩ := repeats
    obtain rfl : found = request := Option.some.inj (hit.symm.trans owned)
    refine ⟨found, by rw [unchanged]; exact owned, ?_⟩
    intro unaccepted
    rw [unaccepted] at rest
    simp [require_bind_eq_ok, pure, Except.pure] at rest
  | added head event commanded evolved =>
    cases event <;> simp only [EffectEvent.command, reduceCtorEq] at commanded
    obtain ⟨rfl, rfl⟩ := EffectCommand.acceptEffectResult.inj commanded
    refine ⟨_, by rw [evolve_request replayed rfl evolved, owned, Option.map_some], ?_⟩
    simp [EffectEvent.leaves, (requestById_some owned).2]

/-- The call ends with an accepted result, in the ledger and in the state that it returns. -/
def ExecuteCall.EndsAccepted (call : ExecuteCall) (result : InquiryState) (next : ExecutorWorld) : Prop :=
  ∃ shown after, ShowsFold next.ledger call.inquiryId shown after ∧ result.toEffectRecords = after.toEffectRecords ∧
    after.toEffectRecords.Accepted call.requestId

theorem acceptDecode_accepts (fold : ShowsFold world.ledger call.inquiryId events state)
    (owned : state.requestById call.requestId = some request) (accepting : call.acceptDecoded = true)
    (succeeded : decode.result?.isSome = true) :
    Program.Traces call.Step (call.acceptDecode result decode) world call.EndsAccepted := by
  unfold ExecuteCall.acceptDecode
  rw [if_pos (by simp [accepting, succeeded])]
  apply (timed_record_traces fold ?_).weaken
  · intro result next _ recorded
    obtain ⟨shown, after, folded, same, accepted⟩ := recorded
    exact ⟨shown, after, folded, same, accepted.accepts fold.replayable owned⟩
  · intro event commanded
    cases event <;> simp_all [EffectEvent.command, EffectRecords.MayCommit]

theorem finish_accepts (fold : ShowsFold world.ledger call.inquiryId events state)
    (owned : state.requestById call.requestId = some request) (returned : attempt.outcome = some (.returned externalReturn))
    (first : request.decodeOutcomes.find? (fun item => item.externalReturnId = externalReturn.id) = some decode)
    (accepting : call.acceptDecoded = true) (succeeded : decode.result?.isSome = true) :
    Program.Traces call.Step (call.finish result request attempt) world call.EndsAccepted := by
  unfold ExecuteCall.finish
  rw [returned]
  apply Program.traces_lift_bind
  intro artifact captured
  apply Program.traces_bind getBytes_traces
  intro raw reached _ ⟨unmoved, _⟩
  subst unmoved
  rw [first]
  exact acceptDecode_accepts fold owned accepting succeeded

/-- A call that accepts ends with an accepted result once the return of its attempt was decoded successfully. -/
theorem execute_accepts (fold : ShowsFold world.ledger call.inquiryId events state)
    (returned : state.toEffectRecords.HasReturn call.requestId call.attemptId externalReturn)
    (first : state.toEffectRecords.FirstDecode call.requestId externalReturn.id decode)
    (accepting : call.acceptDecoded = true) (succeeded : decode.result?.isSome = true) :
    Program.Traces call.Step call.execute world call.EndsAccepted := by
  obtain ⟨request, attempt, located, recorded⟩ := returned
  obtain ⟨owner, hit, firstDecode⟩ := first
  obtain rfl : request = owner := Option.some.inj (located.1.symm.trans hit)
  have started : attempt.started = true := by
    have sound := fold.replayable.effectsSound.requests request (requestById_some located.1).1
    exact (sound.outcomes attempt (attemptById_some located.2).1 _ recorded).1
  apply Program.traces_bind (rebuildState_traces fold)
  intro rebuilt reached _ ⟨unmoved, same⟩
  subst unmoved
  apply Program.traces_lift_bind
  intro found locates
  obtain ⟨foundRequest, foundAttempt⟩ := found
  have shownLocated := locateAttempt_eq_ok.mp locates
  rw [same] at shownLocated
  obtain rfl : request = foundRequest := Option.some.inj (located.1.symm.trans shownLocated.1)
  obtain rfl : attempt = foundAttempt := Option.some.inj (located.2.symm.trans shownLocated.2)
  apply Program.traces_bind checkedInput_traces
  intro input later _ unmoved
  subst unmoved
  split
  next already =>
    apply Program.traces_pure
    refine ⟨events, state, fold, same, request, located.1, ?_⟩
    intro unaccepted
    simp [unaccepted] at already
  next =>
    rw [if_neg (by simp [recorded, AttemptOutcome.externalReturn?])]
    apply Program.traces_lift_bind
    intro _ _
    rw [if_neg (by simp [recorded])]
    exact finish_accepts fold located.1 recorded firstDecode accepting succeeded

end

end

end RatchetingInquiry
