import RatchetingInquiry.Invariants.LedgerSafety

/-! What a ledger shows of one inquiry: the events that its stream is read back to and the state that they fold to.
A rebuild agrees with that state on every effect record, from whatever snapshot it starts. -/

namespace RatchetingInquiry

/-- The effect records after an event are determined by those before it. -/
theorem EffectsAppended.unique {effects added first second : EffectRecords}
    {leaves : EffectRequestState → EffectRequestState} (left : EffectsAppended effects added leaves first)
    (right : EffectsAppended effects added leaves second) : first = second := by
  have backlog := left.backlog.trans right.backlog.symm
  have plans := left.plans.trans right.plans.symm
  have requests := left.requests.trans right.requests.symm
  cases first
  cases second
  simp_all

section
variable [Fingerprints] {left right leftNext rightNext state next : InquiryState} {events : List DomainEvent}

omit [Fingerprints] in
theorem EventBody.introduces_effects (body : EventBody) (left right : InquiryState) :
    (body.introduces left).toEffectRecords = (body.introduces right).toEffectRecords := by
  cases body with
  | learning event => cases event <;> rfl
  | _ => rfl

theorem Transition.next_started {head : EventMetadata} {body : EventBody} (transition : Transition state head body next) :
    next.status ≠ .notStarted := by
  rcases transition.headerView with ⟨-, manifest, policy, context, rfl⟩ | ⟨active, header⟩
  · simp [startedState]
  · rw [show next.status = next.toInquiryHeader.status from rfl, header]
    simp [active.1]

/-- States with the same effect records go on with the same effect records, under the same events. -/
theorem replay_effects_agree (same : left.toEffectRecords = right.toEffectRecords) (started : left.status ≠ .notStarted)
    (replayed : Replayable right) (fromLeft : replay left events = .ok leftNext)
    (fromRight : replay right events = .ok rightNext) : leftNext.toEffectRecords = rightNext.toEffectRecords := by
  induction events generalizing left right with
  | nil =>
    obtain rfl : left = leftNext := by simpa [replay, pure, Except.pure] using fromLeft
    obtain rfl : right = rightNext := by simpa [replay, pure, Except.pure] using fromRight
    exact same
  | cons event rest ih =>
    simp only [replay, List.foldlM_cons, bind_eq_ok] at fromLeft fromRight
    obtain ⟨leftMiddle, leftEvolved, leftLater⟩ := fromLeft
    obtain ⟨rightMiddle, rightEvolved, rightLater⟩ := fromRight
    obtain ⟨leftStep, -⟩ := evolve_eq_ok.mp leftEvolved
    obtain ⟨rightStep, -⟩ := evolve_eq_ok.mp rightEvolved
    have sound := replayed.effectsSound
    have leftAppended := leftStep.effectsAppended (same ▸ sound) (fun unstarted => absurd unstarted started)
    have rightAppended := rightStep.effectsAppended sound replayed.unstarted_eq_initial
    rw [same, event.body.introduces_effects left right] at leftAppended
    exact ih (leftAppended.unique rightAppended) leftStep.next_started (replayed.tail ⟨event, rightEvolved⟩) leftLater rightLater

end

section
variable [Fingerprints] [ByteFacts] [Pydantic] {ledger next : Ledger} {inquiryId : String}
  {events others : List DomainEvent} {state other rebuilt : InquiryState} {store atCommit : Option ArtifactStore}

/-- The stream of the inquiry holds the events, as they are read back, and they fold to the state. -/
def ShowsFold (ledger : Ledger) (inquiryId : String) (events : List DomainEvent) (state : InquiryState) : Prop :=
  ∃ history, Represents ledger history ∧ (streamOf history inquiryId).map DomainEvent.readBack = events ∧
    replay initialState events = .ok state

theorem ShowsFold.replayable (fold : ShowsFold ledger inquiryId events state) : Replayable state := by
  obtain ⟨history, -, -, replayed⟩ := fold
  exact replay_run replayed

theorem ShowsFold.version (fold : ShowsFold ledger inquiryId events state) :
    ledger.streamVersion inquiryId = events.length ∧ state.sequence = events.length := by
  obtain ⟨history, represents, rfl, replayed⟩ := fold
  rw [represents.versions, replay_sequence .refl replayed, List.length_map]
  exact ⟨rfl, Nat.zero_add _⟩

/-- The rows of the stream are read back to the events. -/
theorem ShowsFold.decoded (fold : ShowsFold ledger inquiryId events state) : ∃ items,
    List.Forall₂ (fun row item => decodeRow row = .ok item) (ledger.rowsOf inquiryId) items ∧
      items.map StoredEvent.event = events ∧ items.map StoredEvent.sequence = List.range' 1 events.length := by
  obtain ⟨history, represents, rfl, -⟩ := fold
  have decoded := decoded_eventRows 0 (streamOf_named history inquiryId)
  refine ⟨storedEvents inquiryId 0 (streamOf history inquiryId), ?_, storedEvents_events _ _ _, ?_⟩
  · rw [represents.rowsOf_eq]
    exact decoded
  · rw [← decodedRows_sequences decoded, eventRows_sequences, List.length_map]

/-- The rows behind a place are those whose numbers are beyond it. -/
theorem ShowsFold.rows_behind (fold : ShowsFold ledger inquiryId events state) (place : Nat) :
    (ledger.rowsOf inquiryId).filter (fun row => place < row.sequence) = (ledger.rowsOf inquiryId).drop place := by
  obtain ⟨items, decoded, -, numbered⟩ := fold.decoded
  rw [← decodedRows_sequences decoded] at numbered
  have fromStart : (ledger.rowsOf inquiryId).map EventRow.sequence = List.range' (0 + 1) events.length := numbered
  simpa using filter_numbered place fromStart

theorem ShowsFold.loaded (fold : ShowsFold ledger inquiryId events state) {place : Nat} {slice : StreamSlice}
    (loads : loadStream store ledger inquiryId place = .ok slice) :
    slice.events.map StoredEvent.event = events.drop place ∧ slice.version = events.length ∧
      place ≤ events.length := by
  obtain ⟨items, decoded, shown, -⟩ := fold.decoded
  obtain ⟨within, sliceDecoded, -, -, -, versioned⟩ := loadStream_eq_ok.mp loads
  rw [fold.rows_behind] at sliceDecoded
  rw [decodedRows_unique sliceDecoded (List.forall₂_drop place decoded), versioned, List.map_drop, shown]
  rw [fold.version.1] at within
  exact ⟨rfl, fold.version.1, within⟩

/-- The stream loads from any place within it, without a check of artifacts. -/
theorem ShowsFold.loads (fold : ShowsFold ledger inquiryId events state) {place : Nat} (within : place ≤ events.length) :
    ∃ slice, loadStream none ledger inquiryId place = .ok slice := by
  obtain ⟨items, decoded, -, numbered⟩ := fold.decoded
  have whole : loadStream none ledger inquiryId 0 = .ok ⟨inquiryId, ledger.streamVersion inquiryId, items⟩ := by
    refine loadStream_eq_ok.mpr ⟨Nat.zero_le _, ?_, rfl, ?_, rfl, rfl⟩
    · rw [fold.rows_behind]
      exact decoded
    · rw [numbered, fold.version.1, Nat.zero_add, Nat.sub_zero]
  exact ⟨_, loadStream_after whole (by rw [fold.version.1]; exact within)⟩

/-- A ledger that holds a history shows what it is rebuilt to. -/
theorem Represents.showsFold {history : List DomainEvent} (represents : Represents ledger history)
    (rebuilds : rebuildState none ledger inquiryId false = .ok state) :
    ∃ events, ShowsFold ledger inquiryId events state := by
  refine ⟨_, history, represents, rfl, ?_⟩
  have plain : rebuildFrom none ledger inquiryId initialState = .ok state := rebuilds
  obtain ⟨slice, loads, replayed, -⟩ := rebuildFrom_eq_ok.mp plain
  obtain ⟨-, decoded, -, -, -, -⟩ := loadStream_eq_ok.mp loads
  have all : (ledger.rowsOf inquiryId).filter (fun row => initialState.sequence < row.sequence) =
      ledger.rowsOf inquiryId := by
    have numbered : (ledger.rowsOf inquiryId).map EventRow.sequence =
        List.range' (0 + 1) (ledger.streamVersion inquiryId) := represents.sequences inquiryId
    exact filter_numbered 0 numbered
  rw [all, represents.rowsOf_eq] at decoded
  rw [decodedRows_unique decoded (decoded_eventRows 0 (streamOf_named history inquiryId)), storedEvents_events] at replayed
  exact replayed

/-- What a ledger shows is what it is rebuilt to from all its events. -/
theorem ShowsFold.rebuilds (fold : ShowsFold ledger inquiryId events state) :
    rebuildState none ledger inquiryId false = .ok state := by
  obtain ⟨slice, loads⟩ := fold.loads (Nat.zero_le _)
  obtain ⟨shown, versioned, -⟩ := fold.loaded loads
  have sequence := fold.version.2
  obtain ⟨history, -, -, replayed⟩ := fold
  refine rebuildFrom_eq_ok.mpr ⟨slice, loads, ?_, by rw [versioned, sequence]⟩
  rw [shown]
  exact replayed

theorem ShowsFold.unique (fold : ShowsFold ledger inquiryId events state)
    (again : ShowsFold ledger inquiryId others other) : events = others ∧ state = other := by
  obtain ⟨slice, loads⟩ := fold.loads (Nat.zero_le _)
  refine ⟨?_, Except.ok.inj (fold.rebuilds.symm.trans again.rebuilds)⟩
  have first := (fold.loaded loads).1
  have second := (again.loaded loads).1
  exact first.symm.trans second

/-- A snapshot that a rebuild starts from was read from a row. -/
theorem usableSnapshot_read {useSnapshot : Bool} {snapshot : SnapshotRecord}
    (usable : usableSnapshot store ledger inquiryId useSnapshot = .ok (some snapshot)) :
    ∃ row, readSnapshot store ledger inquiryId row = .ok snapshot := by
  unfold usableSnapshot at usable
  split at usable
  next =>
    split at usable
    next found loads =>
      obtain rfl := Except.ok.inj usable
      unfold loadLatestSnapshot at loads
      split at loads
      next => cases loads
      next row latest =>
        split at loads
        next =>
          cases read : readSnapshot store ledger inquiryId row with
          | ok value =>
            obtain rfl : value = snapshot := by simpa [read, Except.map] using loads
            exact ⟨row, read⟩
          | error failure => simp [read, Except.map] at loads
        next =>
          split at loads
          next => cases loads
          next => cases loads
    next =>
      split at usable
      next => cases usable
      next => cases usable
  next => cases usable

/-- A snapshot that is read looks like the fold of a prefix of the stream. -/
theorem ShowsFold.snapshot_alike (fold : ShowsFold ledger inquiryId events state) {row : SnapshotRow}
    {snapshot : SnapshotRecord} (read : readSnapshot store ledger inquiryId row = .ok snapshot) :
    ∃ expected, replay initialState (events.take snapshot.state.sequence) = .ok expected ∧
      RecordEq.same expected snapshot.state = true ∧ snapshot.state.inquiryId = some inquiryId := by
  unfold readSnapshot at read
  rw [require_bind_eq_ok] at read
  obtain ⟨-, read⟩ := read
  obtain ⟨decoded, -, read⟩ := bind_eq_ok.mp read
  rw [require_bind_eq_ok] at read
  obtain ⟨own, read⟩ := read
  obtain ⟨digest, -, read⟩ := bind_eq_ok.mp read
  rw [require_bind_eq_ok] at read
  obtain ⟨-, read⟩ := read
  obtain ⟨slice, loads, read⟩ := bind_eq_ok.mp read
  simp only [fromCore_bind_eq_ok, require_bind_eq_ok] at read
  obtain ⟨expected, folded, same, read⟩ := read
  rw [verifyArtifacts_bind_eq_ok] at read
  obtain ⟨-, read⟩ := read
  obtain rfl := Except.ok.inj read
  rw [List.map_take, (fold.loaded loads).1] at folded
  exact ⟨expected, folded, same, own.1⟩

/-- A rebuild has the effect records that the ledger shows, whether or not it starts from a snapshot. -/
theorem ShowsFold.rebuilt_effects (fold : ShowsFold ledger inquiryId events state) {useSnapshot : Bool}
    (rebuilds : rebuildState store ledger inquiryId useSnapshot = .ok rebuilt) :
    rebuilt.toEffectRecords = state.toEffectRecords := by
  obtain ⟨snapshot, usable, later⟩ := bind_eq_ok.mp rebuilds
  obtain ⟨slice, loads, rerun, -⟩ := rebuildFrom_eq_ok.mp later
  rw [(fold.loaded loads).1] at rerun
  obtain ⟨history, -, -, replayed⟩ := id fold
  cases snapshot with
  | none =>
    have same : replay initialState events = .ok rebuilt := rerun
    rw [Except.ok.inj (same.symm.trans replayed)]
  | some snapshot =>
    obtain ⟨row, read⟩ := usableSnapshot_read usable
    obtain ⟨expected, folded, same, own⟩ := fold.snapshot_alike read
    have alike := InquiryState.sameAs_alike same
    have effects : snapshot.state.toEffectRecords = expected.toEffectRecords := by
      rw [← alike.others]
      rfl
    have started : snapshot.state.status ≠ .notStarted := by
      have status : snapshot.state.status = expected.status := congrArg (·.status) alike.others
      rw [status]
      exact started_of_alike folded same own
    rw [← List.take_append_drop snapshot.state.sequence events, replay_append] at replayed
    obtain ⟨middle, first, rest⟩ := replayed
    obtain rfl : expected = middle := Except.ok.inj (folded.symm.trans first)
    exact replay_effects_agree effects started (replay_run folded) rerun rest

/-- An append of one effect event behind what the ledger shows. -/
theorem ShowsFold.appended (fold : ShowsFold ledger inquiryId events state) {expected : Int} {sequence : Nat}
    {head : EventMetadata} {event : EffectEvent}
    (appended : append store atCommit ledger inquiryId expected [⟨head, .effect event⟩] = (next, .ok sequence)) :
    ∃ after, evolve state ⟨head, .effect event⟩ = .ok after ∧
      ShowsFold next inquiryId (events ++ [⟨head, .effect event⟩]) after := by
  obtain ⟨history, represents, rfl, replayed⟩ := fold
  obtain ⟨committed, proposed, passed⟩ := append_passed appended
  have folded := foldCommittedStream_replays represents passed.folded
  obtain rfl : state = committed := Except.ok.inj (replayed.symm.trans folded)
  have proposes := proposes_replays passed.proposes
  refine ⟨proposed, ?_, history ++ [⟨head, .effect event⟩], represents.continued passed.own passed.wrote, ?_, ?_⟩
  · simpa [replay] using proposes
  · rw [streamOf_append, streamOf_own passed.own, List.map_append]
    rfl
  · exact replay_append.mpr ⟨state, replayed, proposes⟩

end

end RatchetingInquiry
