import RatchetingInquiry.Invariants.Origins
import RatchetingInquiry.Invariants.SnapshotTransparency
import RatchetingInquiry.Persistence.Append

/-! The ledger under appends of any clients. What it holds is one history of events, of which every stream is the
part with its own inquiry: an append either adds its batch behind that history or changes nothing. -/

namespace RatchetingInquiry

/-- The events of a history that belong to one stream. -/
def streamOf (history : List DomainEvent) (streamId : String) : List DomainEvent :=
  history.filter (fun event => event.head.inquiryId = streamId)

theorem streamOf_append (earlier added : List DomainEvent) (streamId : String) :
    streamOf (earlier ++ added) streamId = streamOf earlier streamId ++ streamOf added streamId :=
  List.filter_append _ _

theorem streamOf_named (history : List DomainEvent) (streamId : String) :
    ∀ event ∈ streamOf history streamId, event.head.inquiryId = streamId := by
  intro event member
  simpa using (List.mem_filter.mp member).2

theorem streamOf_own {events : List DomainEvent} {streamId : String}
    (own : ∀ event ∈ events, event.head.inquiryId = streamId) : streamOf events streamId = events := by
  rw [streamOf, List.filter_eq_self]
  intro event member
  simpa using own event member

theorem streamOf_other {events : List DomainEvent} {streamId other : String}
    (own : ∀ event ∈ events, event.head.inquiryId = streamId) (different : other ≠ streamId) :
    streamOf events other = [] := by
  rw [streamOf, List.filter_eq_nil_iff]
  intro event member
  simpa [own event member] using different.symm

section
variable [ByteFacts] [Pydantic]

/-- The rows of the events of a stream that follow a sequence. -/
def eventRows (streamId : String) : Nat → List DomainEvent → List EventRow
  | _, [] => []
  | sequence, event :: rest => eventRow streamId (sequence + 1) event :: eventRows streamId (sequence + 1) rest

section
variable {streamId : String} {sequence : Nat} {events : List DomainEvent}

theorem eventRows_append (streamId : String) (sequence : Nat) (first second : List DomainEvent) :
    eventRows streamId sequence (first ++ second) =
      eventRows streamId sequence first ++ eventRows streamId (sequence + first.length) second := by
  induction first generalizing sequence with
  | nil => rfl
  | cons event rest ih =>
    simp only [List.cons_append, eventRows, ih, List.length_cons]
    rw [show sequence + 1 + rest.length = sequence + (rest.length + 1) by omega]

theorem eventRows_sequences (streamId : String) (sequence : Nat) (events : List DomainEvent) :
    (eventRows streamId sequence events).map EventRow.sequence = List.range' (sequence + 1) events.length := by
  induction events generalizing sequence with
  | nil => rfl
  | cons event rest ih =>
    simp only [eventRows, List.map_cons, ih, List.length_cons, List.range'_succ]
    rfl

theorem eventRows_stream {row : EventRow} (member : row ∈ eventRows streamId sequence events) :
    row.streamId = streamId := by
  induction events generalizing sequence with
  | nil => cases member
  | cons event rest ih =>
    rcases List.mem_cons.mp member with rfl | later
    · rfl
    · exact ih later

theorem mem_eventRows (streamId : String) (sequence : Nat) {event : DomainEvent} (member : event ∈ events) :
    ∃ number, eventRow streamId number event ∈ eventRows streamId sequence events := by
  induction events generalizing sequence with
  | nil => cases member
  | cons first rest ih =>
    rcases List.mem_cons.mp member with rfl | later
    · exact ⟨sequence + 1, List.mem_cons_self⟩
    · obtain ⟨number, listed⟩ := ih (sequence + 1) later
      exact ⟨number, List.mem_cons_of_mem _ listed⟩

/-- Rows with ascending numbers are in the order in which they are read. -/
theorem insertionSort_eventRows (streamId : String) (sequence : Nat) (events : List DomainEvent) :
    (eventRows streamId sequence events).insertionSort (fun left right => left.sequence ≤ right.sequence) =
      eventRows streamId sequence events := by
  apply List.Pairwise.insertionSort_eq
  have ascending : ((eventRows streamId sequence events).map EventRow.sequence).Pairwise (· ≤ ·) := by
    rw [eventRows_sequences]
    exact List.pairwise_le_range'
  exact List.pairwise_map.mp ascending

end

/-- The tables hold the history: the rows of every stream are its events, numbered from one. -/
structure Represents (ledger : Ledger) (history : List DomainEvent) : Prop where
  rows : ∀ streamId, ledger.events.filter (fun row => row.streamId = streamId) =
    eventRows streamId 0 (streamOf history streamId)
  versions : ∀ streamId, ledger.streamVersion streamId = (streamOf history streamId).length
  event_ids : (ledger.events.map EventRow.eventId).Nodup

theorem represents_empty : Represents {} [] := ⟨fun _ => rfl, fun _ => rfl, List.nodup_nil⟩

section
variable {ledger written next later : Ledger} {history : List DomainEvent} {streamId : String}
  {events : List DomainEvent}

/-- What a stream reads is its part of the history. -/
theorem Represents.rowsOf_eq (represents : Represents ledger history) (streamId : String) :
    ledger.rowsOf streamId = eventRows streamId 0 (streamOf history streamId) := by
  rw [Ledger.rowsOf, represents.rows, insertionSort_eventRows]

theorem Represents.sequences (represents : Represents ledger history) (streamId : String) :
    (ledger.rowsOf streamId).map EventRow.sequence = List.range' 1 (ledger.streamVersion streamId) := by
  rw [represents.rowsOf_eq, eventRows_sequences, represents.versions]

theorem insertEvents_eq_ok {sequence : Nat} (inserted : ledger.insertEvents streamId sequence events = .ok written) :
    written = { ledger with events := ledger.events ++ eventRows streamId sequence events } ∧
      ((ledger.events.map EventRow.eventId).Nodup → (written.events.map EventRow.eventId).Nodup) := by
  induction events generalizing ledger sequence with
  | nil =>
    obtain rfl := Except.ok.inj inserted
    simp [eventRows]
  | cons event rest ih =>
    obtain ⟨first, added, later⟩ := bind_eq_ok.mp inserted
    simp only [Ledger.insertEvent, require_bind_eq_ok] at added
    obtain ⟨fresh, same⟩ := added
    obtain rfl := Except.ok.inj same
    obtain ⟨rfl, unique⟩ := ih later
    refine ⟨by simp [eventRows], ?_⟩
    intro distinct
    apply unique
    rw [List.map_append, List.nodup_append]
    refine ⟨distinct, List.nodup_singleton _, ?_⟩
    intro earlier owned added member
    obtain ⟨row, listed, rfl⟩ := List.mem_map.mp owned
    obtain rfl : added = (eventRow streamId (sequence + 1) event).eventId := by simpa using member
    exact (fresh row listed).1

omit [ByteFacts] [Pydantic] in
/-- An update renumbers the row of the stream at the version that was read. -/
theorem streamRow_updated (ledger : Ledger) (streamId : String) (current target : Nat) (other : String) :
    Ledger.streamRow { ledger with streams := ledger.streams.map (fun row =>
        if row.streamId = streamId ∧ row.version = current then { row with version := target } else row) } other =
      (ledger.streamRow other).map (fun row =>
        if row.streamId = streamId ∧ row.version = current then { row with version := target } else row) := by
  unfold Ledger.streamRow
  rw [List.find?_map]
  congr 2
  funext row
  simp only [Function.comp]
  split <;> rfl

omit [ByteFacts] [Pydantic] in
/-- The versions after an update of a stream that has a row. -/
theorem updateVersion_versions {current target : Nat} (read : ledger.streamRow streamId = some ⟨streamId, current⟩)
    (updated : ledger.updateVersion streamId current target = .ok written) :
    written.events = ledger.events ∧ written.snapshots = ledger.snapshots ∧
      written.streamVersion streamId = target ∧
      ∀ other, other ≠ streamId → written.streamVersion other = ledger.streamVersion other := by
  simp only [Ledger.updateVersion, require_bind_eq_ok] at updated
  obtain ⟨-, same⟩ := updated
  obtain rfl := Except.ok.inj same
  refine ⟨rfl, rfl, ?_, ?_⟩
  · simp [Ledger.streamVersion, streamRow_updated, read]
  · intro other different
    rw [Ledger.streamVersion, Ledger.streamVersion, streamRow_updated]
    cases hit : ledger.streamRow other with
    | none => rfl
    | some row =>
      have named : row.streamId = other := by simpa using List.find?_some hit
      simp [named, different]

omit [ByteFacts] [Pydantic] in
/-- The row of the stream that a batch is written to, once the stream is opened. -/
theorem opened_streamRow {opened : Ledger} {current : Nat} (read : ledger.streamVersion streamId = current)
    (opens : (if ledger.streamRow streamId = none then ledger.insertStream streamId else .ok ledger) = .ok opened) :
    opened.events = ledger.events ∧ opened.snapshots = ledger.snapshots ∧
      opened.streamRow streamId = some ⟨streamId, current⟩ ∧
      ∀ other, other ≠ streamId → opened.streamVersion other = ledger.streamVersion other := by
  split at opens
  next absent =>
    simp only [Ledger.insertStream, require_bind_eq_ok] at opens
    obtain ⟨-, same⟩ := opens
    obtain rfl := Except.ok.inj same
    have unopened : current = 0 := by simpa [Ledger.streamVersion, absent] using read.symm
    refine ⟨rfl, rfl, ?_, ?_⟩
    · have missing : ledger.streams.find? (fun row => row.streamId = streamId) = none := absent
      simp [Ledger.streamRow, List.find?_append, missing, unopened]
    · intro other different
      simp [Ledger.streamVersion, Ledger.streamRow, List.find?_append, different.symm]
  next present =>
    obtain rfl := Except.ok.inj opens
    obtain ⟨row, hit⟩ := Option.ne_none_iff_exists'.mp present
    have named : row.streamId = streamId := by simpa using List.find?_some hit
    have version : row.version = current := by simpa [Ledger.streamVersion, hit] using read
    refine ⟨rfl, rfl, ?_, fun _ _ => rfl⟩
    rw [hit, ← named, ← version]

/-- The steps of a batch with events: its stream is opened, its rows are inserted and its version is moved. -/
theorem writeBatch_steps {current : Nat} (some : events ≠ [])
    (wrote : ledger.writeBatch streamId current events = .ok written) :
    ∃ opened inserted,
      (if ledger.streamRow streamId = none then ledger.insertStream streamId else .ok ledger) = .ok opened ∧
      opened.insertEvents streamId current events = .ok inserted ∧
      inserted.updateVersion streamId current (current + events.length) = .ok written := by
  simp only [Ledger.writeBatch, if_neg some] at wrote
  split at wrote
  next absent =>
    simp only [bind_eq_ok] at wrote
    obtain ⟨opened, opens, inserted, rest⟩ := wrote
    exact ⟨opened, inserted, by rw [if_pos absent, opens], rest⟩
  next present =>
    simp only [bind_eq_ok] at wrote
    obtain ⟨opened, opens, inserted, rest⟩ := wrote
    exact ⟨opened, inserted, by rw [if_neg present, opens], rest⟩

/-- A written batch stands behind the rows that were there, and only the version of its stream moves. -/
theorem writeBatch_eq_ok {current : Nat} (read : ledger.streamVersion streamId = current)
    (wrote : ledger.writeBatch streamId current events = .ok written) :
    written.events = ledger.events ++ eventRows streamId current events ∧ written.snapshots = ledger.snapshots ∧
      written.streamVersion streamId = current + events.length ∧
      (∀ other, other ≠ streamId → written.streamVersion other = ledger.streamVersion other) ∧
      ((ledger.events.map EventRow.eventId).Nodup → (written.events.map EventRow.eventId).Nodup) := by
  by_cases nothing : events = []
  · subst nothing
    obtain rfl : ledger = written := by simpa [Ledger.writeBatch] using wrote
    simp [eventRows, read]
  · obtain ⟨opened, inserted, opens, inserts, updates⟩ := writeBatch_steps nothing wrote
    obtain ⟨openedEvents, openedSnapshots, row, openedVersions⟩ := opened_streamRow read opens
    obtain ⟨rfl, unique⟩ := insertEvents_eq_ok inserts
    obtain ⟨sameEvents, sameSnapshots, moved, others⟩ := updateVersion_versions (by exact row) updates
    rw [openedEvents] at unique
    refine ⟨by rw [sameEvents, openedEvents], by rw [sameSnapshots, openedSnapshots], moved, ?_, ?_⟩
    · intro other different
      rw [others other different]
      exact openedVersions other different
    · rw [sameEvents, openedEvents]
      exact unique

/-- A batch written at the version of its stream continues the history. -/
theorem Represents.continued (represents : Represents ledger history)
    (own : ∀ event ∈ events, event.head.inquiryId = streamId)
    (wrote : ledger.writeBatch streamId (ledger.streamVersion streamId) events = .ok written) :
    Represents written (history ++ events) := by
  obtain ⟨rows, -, moved, others, unique⟩ := writeBatch_eq_ok rfl wrote
  constructor
  · intro stream
    rw [rows, List.filter_append, represents.rows, streamOf_append]
    by_cases same : stream = streamId
    · subst same
      rw [streamOf_own own, eventRows_append, represents.versions, Nat.zero_add]
      congr 1
      rw [List.filter_eq_self]
      intro row member
      simpa using eventRows_stream member
    · rw [streamOf_other own same, List.append_nil]
      convert List.append_nil _
      rw [List.filter_eq_nil_iff]
      intro row member
      simpa [eventRows_stream member] using Ne.symm same
  · intro stream
    rw [streamOf_append, List.length_append]
    by_cases same : stream = streamId
    · subst same
      rw [moved, streamOf_own own, represents.versions]
    · rw [others stream same, streamOf_other own same, represents.versions]
      rfl
  · exact unique represents.event_ids

end

/-! What the rows of a stream are read back to. -/

/-- The event is what its own bytes are decoded to. -/
def DomainEvent.DecodesToItself (event : DomainEvent) : Prop :=
  decodeEventBytes (canonicalBytes (encodeEvent event)) = .ok event

/-- The events of a stream that follow a sequence, as they are read back. -/
def storedEvents (streamId : String) : Nat → List DomainEvent → List StoredEvent
  | _, [] => []
  | sequence, event :: rest =>
    ⟨streamId, sequence + 1, ByteFacts.sha256 (canonicalBytes (encodeEvent event)), event.readBack⟩ ::
      storedEvents streamId (sequence + 1) rest

section
variable {streamId : String} {events : List DomainEvent}

omit [ByteFacts] in
theorem decodeEventBytes_encodeEvent (event : DomainEvent) :
    decodeEventBytes (canonicalBytes (encodeEvent event)) = .ok event.readBack := decodeEvent_encodeEvent event

omit [ByteFacts] in
theorem EventBody.readBack_kind (body : EventBody) : body.readBack.kind = body.kind := by
  cases body with
  | claim event => cases event <;> rfl
  | learning event => cases event <;> rfl
  | _ => rfl

theorem storedEvents_events (streamId : String) (sequence : Nat) (events : List DomainEvent) :
    (storedEvents streamId sequence events).map StoredEvent.event = events.map DomainEvent.readBack := by
  induction events generalizing sequence with
  | nil => rfl
  | cons event rest ih => simp [storedEvents, ih]

theorem decodeRow_eventRow {event : DomainEvent} {sequence : Nat} (own : event.head.inquiryId = streamId) :
    decodeRow (eventRow streamId sequence event) =
      .ok ⟨streamId, sequence, ByteFacts.sha256 (canonicalBytes (encodeEvent event)), event.readBack⟩ := by
  unfold decodeRow
  simp only [require_bind_eq_ok, fromCore_bind_eq_ok]
  exact ⟨rfl, event.readBack, decodeEventBytes_encodeEvent event, ⟨rfl, event.body.readBack_kind⟩, rfl, own, rfl⟩

/-- The rows of a stream are read back, up to what the serializer does to inert payloads. -/
theorem decoded_eventRows (sequence : Nat) (own : ∀ event ∈ events, event.head.inquiryId = streamId) :
    List.Forall₂ (fun row item => decodeRow row = .ok item) (eventRows streamId sequence events)
      (storedEvents streamId sequence events) := by
  induction events generalizing sequence with
  | nil => exact .nil
  | cons event rest ih =>
    refine .cons (decodeRow_eventRow (own event (by simp))) ?_
    exact ih (sequence + 1) (fun other member => own other (List.mem_cons_of_mem _ member))

omit [ByteFacts] in
/-- Streams of events that decode to themselves are read back as they were. -/
theorem streamOf_readBack {history : List DomainEvent} (faithful : ∀ event ∈ history, event.DecodesToItself)
    (streamId : String) : (streamOf history streamId).map DomainEvent.readBack = streamOf history streamId := by
  conv_rhs => rw [← List.map_id (streamOf history streamId)]
  apply List.map_congr_left
  intro event member
  have decoded := faithful event (List.mem_filter.mp member).1
  rw [DomainEvent.DecodesToItself, decodeEventBytes_encodeEvent] at decoded
  exact Except.ok.inj decoded

/-- Rows are read back in one way. -/
theorem decodedRows_unique {rows : List EventRow} {first second : List StoredEvent}
    (left : List.Forall₂ (fun row item => decodeRow row = .ok item) rows first)
    (right : List.Forall₂ (fun row item => decodeRow row = .ok item) rows second) : first = second := by
  induction left generalizing second with
  | nil =>
    cases right
    rfl
  | cons decoded _ ih =>
    cases right with
    | cons decodedAgain rest =>
      rw [Except.ok.inj (decoded.symm.trans decodedAgain), ih rest]

end

end

section
variable [Fingerprints] {state next : InquiryState} {events : List DomainEvent} {streamId : String}

/-- An event leaves the inquiry with the identity that it names. -/
theorem evolve_inquiryId {event : DomainEvent} (evolved : evolve state event = .ok next) :
    next.inquiryId = some event.head.inquiryId := by
  obtain ⟨transition, -⟩ := evolve_eq_ok.mp evolved
  rcases transition.headerView with ⟨-, manifest, policy, context, rfl⟩ | ⟨active, header⟩
  · rfl
  · rw [show next.inquiryId = next.toInquiryHeader.inquiryId from rfl, header]
    exact active.2

theorem replay_inquiryId (own : ∀ event ∈ events, event.head.inquiryId = streamId)
    (named : state.inquiryId = some streamId ∨ events ≠ []) (replayed : replay state events = .ok next) :
    next.inquiryId = some streamId := by
  induction events generalizing state with
  | nil =>
    obtain rfl : state = next := by simpa [replay, pure, Except.pure] using replayed
    simpa using named
  | cons event rest ih =>
    simp only [replay, List.foldlM_cons, bind_eq_ok] at replayed
    obtain ⟨middle, evolved, later⟩ := replayed
    refine ih (fun other member => own other (List.mem_cons_of_mem _ member)) (.inl ?_) later
    rw [evolve_inquiryId evolved, own event (by simp)]

theorem replay_sequence (replayable : Replayable state) (replayed : replay state events = .ok next) :
    next.sequence = state.sequence + events.length := by
  induction events generalizing state with
  | nil =>
    obtain rfl : state = next := by simpa [replay, pure, Except.pure] using replayed
    rfl
  | cons event rest ih =>
    simp only [replay, List.foldlM_cons, bind_eq_ok] at replayed
    obtain ⟨middle, evolved, later⟩ := replayed
    have step := ih (replayable.tail ⟨event, evolved⟩) later
    obtain ⟨transition, -⟩ := evolve_eq_ok.mp evolved
    rw [step, transition.sequence_succ replayable.unstarted_eq_initial, List.length_cons]
    omega

end

section
variable [Fingerprints] [ByteFacts] [Pydantic]

/-- What an append that succeeds has passed. -/
structure AppendPassed (store : Option ArtifactStore) (ledger : Ledger) (streamId : String) (expected : Int)
    (events : List DomainEvent) (committed proposed : InquiryState) (written : Ledger) (sequence : Nat) : Prop where
  current : expected = ledger.streamVersion streamId
  own : ∀ event ∈ events, event.head.inquiryId = streamId
  folded : foldCommittedStream store ledger streamId (ledger.streamVersion streamId) = .ok committed
  proposes : events.foldlM (proposeEvent store ledger streamId committed) committed = .ok proposed
  wrote : ledger.writeBatch streamId (ledger.streamVersion streamId) events = .ok written
  ends : sequence = ledger.streamVersion streamId + events.length

/-- A ledger that clients have appended to, with the events of the appends that succeeded. -/
inductive Committed : Ledger → List DomainEvent → Prop
  | empty : Committed {} []
  | accepted {ledger next : Ledger} {history events : List DomainEvent} {store atCommit : Option ArtifactStore}
      {streamId : String} {expected : Int} {sequence : Nat} (earlier : Committed ledger history)
      (appended : append store atCommit ledger streamId expected events = (next, .ok sequence)) :
      Committed next (history ++ events)
  | rejected {ledger next : Ledger} {history events : List DomainEvent} {store atCommit : Option ArtifactStore}
      {streamId : String} {expected : Int} {failure : StoreFailure} (earlier : Committed ledger history)
      (refused : append store atCommit ledger streamId expected events = (next, .error failure)) :
      Committed next history

/-- One append of some client leads from one ledger to the next. -/
def AppendStep (ledger next : Ledger) : Prop :=
  ∃ store atCommit streamId expected events, (append store atCommit ledger streamId expected events).1 = next

/-- The appends of any clients lead from one ledger to the other. -/
abbrev AppendsTo : Ledger → Ledger → Prop := Relation.ReflTransGen AppendStep

section
variable {store atCommit : Option ArtifactStore} {ledger next later : Ledger} {history : List DomainEvent}
  {streamId : String} {expected : Int} {events : List DomainEvent} {sequence : Nat} {failure : StoreFailure}

theorem append_passed (appended : append store atCommit ledger streamId expected events = (next, .ok sequence)) :
    ∃ committed proposed, AppendPassed store ledger streamId expected events committed proposed next sequence := by
  unfold append at appended
  split at appended
  next written ends body =>
    simp only [Prod.mk.injEq, Except.ok.injEq] at appended
    obtain ⟨rfl, rfl⟩ := appended
    simp only [appendBatch, require_bind_eq_ok, verifyArtifacts_bind_eq_ok] at body
    obtain ⟨-, own, -, -, current, rest⟩ := body
    obtain ⟨committed, folded, rest⟩ := bind_eq_ok.mp rest
    obtain ⟨proposed, proposes, rest⟩ := bind_eq_ok.mp rest
    obtain ⟨tables, wrote, rest⟩ := bind_eq_ok.mp rest
    simp only [verifyArtifacts_bind_eq_ok, pure, Except.pure, Except.ok.injEq, Prod.mk.injEq] at rest
    obtain ⟨-, rfl, rfl⟩ := rest
    exact ⟨committed, proposed, current.symm, own, folded, proposes, wrote, rfl⟩
  next => simp at appended

theorem append_rejected (rejected : append store atCommit ledger streamId expected events = (next, .error failure)) :
    next = ledger := by
  unfold append at rejected
  split at rejected
  next => simp at rejected
  next => exact (Prod.mk.inj rejected).1.symm

theorem Committed.represents (committed : Committed ledger history) : Represents ledger history := by
  induction committed with
  | empty => exact represents_empty
  | accepted _ appended ih =>
    obtain ⟨_, _, passed⟩ := append_passed appended
    exact ih.continued passed.own passed.wrote
  | rejected _ refused ih =>
    rw [append_rejected refused]
    exact ih

/-- Further appends continue the history. -/
theorem Committed.run (committed : Committed ledger history) (run : AppendsTo ledger later) :
    ∃ added, Committed later (history ++ added) := by
  induction run with
  | refl => exact ⟨[], by simpa using committed⟩
  | tail _ step ih =>
    obtain ⟨added, reached⟩ := ih
    obtain ⟨store, atCommit, streamId, expected, events, same⟩ := step
    rcases result : append store atCommit _ streamId expected events with ⟨next, failure | sequence⟩
    · rw [result] at same
      exact ⟨added, same ▸ reached.rejected result⟩
    · rw [result] at same
      exact ⟨added ++ events, by rw [← List.append_assoc]; exact same ▸ reached.accepted result⟩

/-- An append keeps the rows that are there, in their order. -/
theorem AppendStep.keeps (step : AppendStep ledger next) :
    ledger.events <+: next.events ∧ next.snapshots = ledger.snapshots := by
  obtain ⟨store, atCommit, streamId, expected, events, rfl⟩ := step
  rcases result : append store atCommit ledger streamId expected events with ⟨next, failure | sequence⟩
  · rw [append_rejected result]
    exact ⟨List.prefix_rfl, rfl⟩
  · obtain ⟨_, _, passed⟩ := append_passed result
    obtain ⟨rows, snapshots, -⟩ := writeBatch_eq_ok rfl passed.wrote
    exact ⟨⟨_, rows.symm⟩, snapshots⟩

theorem AppendsTo.keeps (run : AppendsTo ledger later) :
    ledger.events <+: later.events ∧ later.snapshots = ledger.snapshots := by
  induction run with
  | refl => exact ⟨List.prefix_rfl, rfl⟩
  | tail _ step ih => exact ⟨ih.1.trans step.keeps.1, step.keeps.2.trans ih.2⟩

/-- What a stream reads stays the beginning of what it reads later. -/
theorem Committed.rows_kept (committed : Committed ledger history) (run : AppendsTo ledger later) (streamId : String) :
    ledger.rowsOf streamId <+: later.rowsOf streamId ∧ ledger.streamVersion streamId ≤ later.streamVersion streamId := by
  obtain ⟨added, reached⟩ := committed.run run
  have before := committed.represents
  have after := reached.represents
  rw [before.rowsOf_eq, after.rowsOf_eq, before.versions, after.versions, streamOf_append, eventRows_append,
    List.length_append]
  exact ⟨List.prefix_append _ _, by omega⟩

/-- The committed fold is the replay of the committed events as they are read back. -/
theorem foldCommittedStream_replays {committed : InquiryState} (represents : Represents ledger history)
    (folded : foldCommittedStream store ledger streamId (ledger.streamVersion streamId) = .ok committed) :
    replay initialState ((streamOf history streamId).map DomainEvent.readBack) = .ok committed := by
  simp only [foldCommittedStream, mapM_bind_eq_ok, require_bind_eq_ok, verifyArtifacts_bind_eq_ok] at folded
  obtain ⟨items, decoded, -, -, rest⟩ := folded
  obtain ⟨state, replayed, rest⟩ := bind_eq_ok.mp rest
  simp only [require_bind_eq_ok, pure, Except.pure, Except.ok.injEq] at rest
  obtain ⟨-, -, rfl⟩ := rest
  rw [represents.rowsOf_eq] at decoded
  have expected := decoded_eventRows 0 (streamOf_named history streamId)
  rw [decodedRows_unique decoded expected, replayCommitted, storedEvents_events] at replayed
  split at replayed <;> simp_all

/-- A batch that is proposed after the committed fold replays behind it. -/
theorem proposes_replays {committed candidate proposed : InquiryState}
    (proposes : events.foldlM (proposeEvent store ledger streamId committed) candidate = .ok proposed) :
    replay candidate events = .ok proposed := by
  induction events generalizing candidate with
  | nil => simpa [replay, pure, Except.pure] using proposes
  | cons event rest ih =>
    simp only [List.foldlM_cons, bind_eq_ok] at proposes
    obtain ⟨middle, proposed, later⟩ := proposes
    simp only [proposeEvent, unit_bind_eq_ok, fromCore_eq_ok] at proposed
    simp only [replay, List.foldlM_cons, bind_eq_ok]
    exact ⟨middle, proposed.2, ih later⟩

/-- Every committed stream replays, when the committed events decode to themselves. -/
theorem Committed.replays (committed : Committed ledger history) (faithful : ∀ event ∈ history, event.DecodesToItself)
    (streamId : String) : ∃ state, replay initialState (streamOf history streamId) = .ok state := by
  induction committed with
  | empty => exact ⟨initialState, rfl⟩
  | accepted earlier appended ih =>
    obtain ⟨folded, proposed, passed⟩ := append_passed appended
    rename_i middle last earlierHistory batch first second target _ _
    have before : ∀ event ∈ earlierHistory, event.DecodesToItself :=
      fun event member => faithful event (List.mem_append_left _ member)
    rw [streamOf_append]
    by_cases same : streamId = target
    · subst same
      have replayed := foldCommittedStream_replays earlier.represents passed.folded
      rw [streamOf_readBack before] at replayed
      rw [streamOf_own passed.own]
      exact ⟨proposed, replay_append.mpr ⟨folded, replayed, proposes_replays passed.proposes⟩⟩
    · rw [streamOf_other passed.own same, List.append_nil]
      exact ih before
  | rejected _ _ ih => exact ih faithful

/-- What an append that succeeds adds: its batch, in order, behind the expected version of its stream. -/
structure AddsBatch (ledger : Ledger) (streamId : String) (expected : Int) (events : List DomainEvent) (next : Ledger)
    (sequence : Nat) : Prop where
  expected_current : expected = ledger.streamVersion streamId
  sequence_reached : sequence = ledger.streamVersion streamId + events.length
  rows_added : next.events = ledger.events ++ eventRows streamId (ledger.streamVersion streamId) events
  stream_extended : next.rowsOf streamId =
    ledger.rowsOf streamId ++ eventRows streamId (ledger.streamVersion streamId) events
  version_moved : next.streamVersion streamId = sequence
  others_kept : ∀ other, other ≠ streamId →
    next.rowsOf other = ledger.rowsOf other ∧ next.streamVersion other = ledger.streamVersion other
  snapshots_kept : next.snapshots = ledger.snapshots

theorem Committed.adds_batch (committed : Committed ledger history)
    (appended : append store atCommit ledger streamId expected events = (next, .ok sequence)) :
    AddsBatch ledger streamId expected events next sequence := by
  obtain ⟨_, _, passed⟩ := append_passed appended
  obtain ⟨rows, snapshots, moved, others, -⟩ := writeBatch_eq_ok rfl passed.wrote
  have before := committed.represents
  have after := (committed.accepted appended).represents
  refine ⟨passed.current, passed.ends, rows, ?_, moved.trans passed.ends.symm, ?_, snapshots⟩
  · rw [after.rowsOf_eq, before.rowsOf_eq, streamOf_append, streamOf_own passed.own, eventRows_append, before.versions,
      Nat.zero_add]
  · intro other different
    refine ⟨?_, others other different⟩
    rw [after.rowsOf_eq, before.rowsOf_eq, streamOf_append, streamOf_other passed.own different, List.append_nil]

/-- Two appends behind the same version of a stream do not both succeed, whatever is appended between them. -/
theorem Committed.append_once (committed : Committed ledger history)
    (appended : append store atCommit ledger streamId expected events = (next, .ok sequence)) (nonempty : events ≠ [])
    (run : AppendsTo next later) {otherStore otherCommit : Option ArtifactStore} {others : List DomainEvent}
    {reached : Nat} : (append otherStore otherCommit later streamId expected others).2 ≠ .ok reached := by
  intro succeeded
  have batch := committed.adds_batch appended
  have grown := ((committed.accepted appended).rows_kept run streamId).2
  have again : append otherStore otherCommit later streamId expected others =
      ((append otherStore otherCommit later streamId expected others).1, .ok reached) := Prod.ext rfl succeeded
  obtain ⟨_, _, passed⟩ := append_passed again
  have current := passed.current
  have moved := batch.version_moved
  have reaches := batch.sequence_reached
  have was := batch.expected_current
  have positive := List.length_pos_of_ne_nil nonempty
  omega

/-- A committed stream, read back and folded from the empty aggregate. -/
structure FoldsTo (ledger : Ledger) (streamId : String) (items : List StoredEvent) (state : InquiryState) : Prop where
  decoded : List.Forall₂ (fun row item => decodeRow row = .ok item) (ledger.rowsOf streamId) items
  replayed : replay initialState (items.map StoredEvent.event) = .ok state
  sequence : state.sequence = ledger.streamVersion streamId
  inquiry : 0 < ledger.streamVersion streamId → state.inquiryId = some streamId

theorem Committed.folds (committed : Committed ledger history) (faithful : ∀ event ∈ history, event.DecodesToItself)
    (streamId : String) : ∃ items state, FoldsTo ledger streamId items state := by
  obtain ⟨state, replayed⟩ := committed.replays faithful streamId
  have represents := committed.represents
  have own := streamOf_named history streamId
  refine ⟨storedEvents streamId 0 (streamOf history streamId), state, ?_, ?_, ?_, ?_⟩
  · rw [represents.rowsOf_eq]
    exact decoded_eventRows 0 own
  · rw [storedEvents_events, streamOf_readBack faithful, replayed]
  · rw [represents.versions, replay_sequence .refl replayed]
    exact Nat.zero_add _
  · intro positive
    rw [represents.versions] at positive
    exact replay_inquiryId own (.inr (List.ne_nil_of_length_pos positive)) replayed

/-- The ledger after any appends of any clients: streams are numbered without gaps, event ids are unique, an append
adds exactly its batch or nothing, what is committed stays where it is, no version is appended to twice, and every
stream folds when the committed events decode to themselves. -/
theorem ledger_safe (committed : Committed ledger history) :
    (∀ streamId, (ledger.rowsOf streamId).map EventRow.sequence = List.range' 1 (ledger.streamVersion streamId)) ∧
    (ledger.events.map EventRow.eventId).Nodup ∧
    (∀ store atCommit streamId expected events next,
      (∀ failure, append store atCommit ledger streamId expected events = (next, .error failure) → next = ledger) ∧
      ∀ sequence, append store atCommit ledger streamId expected events = (next, .ok sequence) →
        AddsBatch ledger streamId expected events next sequence ∧ (events ≠ [] → ∀ later, AppendsTo next later →
          ∀ otherStore otherCommit others reached,
            (append otherStore otherCommit later streamId expected others).2 ≠ .ok reached)) ∧
    (∀ later, AppendsTo ledger later → ledger.events <+: later.events ∧ later.snapshots = ledger.snapshots ∧
      ∀ streamId, ledger.rowsOf streamId <+: later.rowsOf streamId) ∧
    ((∀ event ∈ history, event.DecodesToItself) → ∀ streamId, ∃ items state, FoldsTo ledger streamId items state) := by
  refine ⟨committed.represents.sequences, committed.represents.event_ids, ?_, ?_, committed.folds⟩
  · intro store atCommit streamId expected events next
    refine ⟨fun failure rejected => append_rejected rejected, ?_⟩
    intro sequence appended
    refine ⟨committed.adds_batch appended, ?_⟩
    intro nonempty later run otherStore otherCommit others reached
    exact committed.append_once appended nonempty run
  · intro later run
    exact ⟨run.keeps.1, run.keeps.2, fun streamId => (committed.rows_kept run streamId).1⟩

end

end

namespace Worked

/-- The opening of an inquiry by a client of its own. -/
def openingBy (client streamId : String) : DomainEvent := { opening with head := ⟨client, streamId, 0⟩ }

def questionAsked : DomainEvent where
  head := ⟨"event-4", "inquiry", 0⟩
  body := .claim (.obligationOpened openQuestion)

/-- The ledger after one client opened the inquiry. -/
def openingLedger : Ledger where
  streams := [⟨"inquiry", 1⟩]
  events := [eventRow "inquiry" 1 opening]

/-- The ledger after another one opened an inquiry of its own. -/
def secondLedger : Ledger where
  streams := [⟨"inquiry", 1⟩, ⟨"other", 1⟩]
  events := [eventRow "inquiry" 1 opening, eventRow "other" 1 (openingBy "event-3" "other")]

/-- The ledger after the first client went on. -/
def askedLedger : Ledger where
  streams := [⟨"inquiry", 2⟩, ⟨"other", 1⟩]
  events := [eventRow "inquiry" 1 opening, eventRow "other" 1 (openingBy "event-3" "other"),
    eventRow "inquiry" 2 questionAsked]

/-- Between the two appends to the inquiry a rival comes too late, and an inquiry is opened beside it. -/
theorem clients_appended :
    append none none {} "inquiry" 0 [opening] = (openingLedger, .ok 1) ∧
    append none none openingLedger "inquiry" 0 [openingBy "event-2" "inquiry"] =
      (openingLedger, .error (.optimisticConcurrency "stream is not at the expected sequence")) ∧
    append none none openingLedger "other" 0 [openingBy "event-3" "other"] = (secondLedger, .ok 1) ∧
    append none none secondLedger "inquiry" 1 [questionAsked] = (askedLedger, .ok 2) ∧
    ∀ event ∈ [opening, openingBy "event-3" "other", questionAsked],
      decodeEventBytes (canonicalBytes (encodeEvent event)) = .ok event := by
  decide +kernel

theorem committed_asked : Committed askedLedger [opening, openingBy "event-3" "other", questionAsked] := by
  obtain ⟨opens, late, beside, asks, -⟩ := clients_appended
  have opened : Committed openingLedger [opening] := Committed.empty.accepted opens
  have refused : Committed openingLedger [opening] := opened.rejected late
  exact (refused.accepted beside).accepted asks

theorem askedLedger_safe :
    ((askedLedger.rowsOf "inquiry").map EventRow.sequence = [1, 2] ∧
      (askedLedger.rowsOf "other").map EventRow.sequence = [1]) ∧
    (askedLedger.events.map EventRow.eventId).Nodup ∧
    (∀ later, AppendsTo askedLedger later → ∀ otherStore otherCommit others reached,
      (append otherStore otherCommit later "inquiry" 1 others).2 ≠ .ok reached) ∧
    ∀ streamId, ∃ items state, FoldsTo askedLedger streamId items state := by
  have safe := ledger_safe committed_asked
  have before := ledger_safe ((Committed.empty.accepted clients_appended.1).accepted clients_appended.2.2.1)
  have once := ((before.2.2.1 none none "inquiry" 1 [questionAsked] askedLedger).2 2 clients_appended.2.2.2.1).2
  exact ⟨⟨safe.1 "inquiry", safe.1 "other"⟩, safe.2.1, once (List.cons_ne_nil _ _),
    safe.2.2.2.2 clients_appended.2.2.2.2⟩

end Worked

end RatchetingInquiry
