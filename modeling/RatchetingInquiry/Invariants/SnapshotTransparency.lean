import RatchetingInquiry.Invariants.AppendOnly
import RatchetingInquiry.Invariants.EventCodec
import RatchetingInquiry.Persistence.Snapshots

/-! A rebuild that starts from a snapshot against the rebuild from the whole ledger. -/

namespace RatchetingInquiry

section
variable [Fingerprints]

/-- Along a run from a started inquiry, records stay where they are: what shows a collection shows it as the
beginning of what it shows later. -/
theorem shown_prefix {α : Type} {view : InquiryState → List α}
    (appended : ∀ before added after, RecordsAppended before added after → view before <+: view after)
    {state next : InquiryState} (started : state.status ≠ .notStarted)
    (run : Relation.ReflTransGen EventStep state next) : view state <+: view next := by
  have kept : next.status ≠ .notStarted ∧ view state <+: view next := by
    refine eventRun_induction (P := fun later => later.status ≠ .notStarted ∧ view state <+: view later) run ?_
      ⟨started, List.prefix_rfl⟩
    intro before head body after earlier transition _
    have records := transition.recordsAppended (fun unstarted => absurd unstarted earlier.1)
    refine ⟨?_, earlier.2.trans (appended _ _ _ records)⟩
    rcases transition.headerView with ⟨unstarted, -⟩ | ⟨-, header⟩
    · exact absurd unstarted earlier.1
    · have status : after.status = before.status := by
        rw [show after.status = after.toInquiryHeader.status from rfl, header]
      rw [status]
      exact earlier.1
  exact kept.2

omit [Fingerprints] in
/-- Collections of one length that begin the same collection are the same. -/
theorem eq_of_same_prefixes {α : Type} [RecordEq α] {left right whole : List α}
    (same : RecordEq.same left right = true) (first : left <+: whole) (second : right <+: whole) : left = right := by
  have lengths : left.length = right.length := by
    simp only [RecordEq.same, Bool.and_eq_true, decide_eq_true_eq] at same
    exact same.1
  exact (List.prefix_of_prefix_length_le first second lengths.le).eq_of_length lengths

/-- Two states that the source takes for equal and that go on to the same state are the same. -/
theorem eq_of_same_future {left right final : InquiryState} (same : RecordEq.same left right = true)
    (started : left.status ≠ .notStarted) (fromLeft : Relation.ReflTransGen EventStep left final)
    (fromRight : Relation.ReflTransGen EventStep right final) : left = right := by
  have alike := InquiryState.sameAs_alike same
  have status : right.status = left.status := congrArg (·.status) alike.others
  -- A record with JSON stays where it is, so the final state tells which of the two had it.
  have agree : ∀ {α : Type} [RecordEq α] (view : InquiryState → List α),
      (∀ before added after, RecordsAppended before added after → view before <+: view after) →
      RecordEq.same (view left) (view right) = true → view left = view right := by
    intro α _ view appended sameView
    have first := shown_prefix appended started fromLeft
    have second := shown_prefix appended (by rwa [status]) fromRight
    exact eq_of_same_prefixes sameView first second
  have claims := agree (·.claims)
    (fun _ _ _ records => ⟨_, (congrArg ClaimRecords.claims records.claims).symm⟩) alike.claims
  have obligations := agree (·.obligations)
    (fun _ _ _ records => ⟨_, (congrArg ClaimRecords.obligations records.claims).symm⟩) alike.obligations
  have candidates := agree (·.candidates)
    (fun _ _ _ records => ⟨_, (congrArg ClaimRecords.candidates records.claims).symm⟩) alike.candidates
  have residuals := agree (·.residuals)
    (fun _ _ _ records => ⟨_, (congrArg ClaimRecords.residuals records.claims).symm⟩) alike.residuals
  have predictions := agree (·.predictions)
    (fun _ _ _ records => ⟨_, (congrArg ProbeRecords.predictions records.probes).symm⟩) alike.predictions
  have observations := agree (·.probeObservations)
    (fun _ _ _ records => ⟨_, (congrArg ProbeRecords.probeObservations records.probes).symm⟩) alike.probe_observations
  have learned := agree (·.learnedProbeCandidates)
    (fun _ _ _ records => ⟨_, (congrArg LearningRecords.learnedProbeCandidates records.learning).symm⟩)
    alike.learned_probes
  rw [← alike.others]
  unfold InquiryState.withJsonOf
  rw [claims, obligations, candidates, residuals, predictions, observations, learned]

end

section
variable [Fingerprints] [ByteFacts] [Pydantic]

/-- The state of a row passes every check against the ledger and is yet another than the fold of its prefix:
`==` does not tell them apart. -/
def looksLikePrefix (store : Option ArtifactStore) (ledger : Ledger) (streamId : String) (row : SnapshotRow)
    (state : InquiryState) : Bool :=
  match loadStream store ledger streamId 0 with
  | .error _ => false
  | .ok slice =>
    Decidable.decide (prefixDigest streamId slice.events state.sequence = row.sourceEventDigest) &&
    match replay initialState ((slice.events.take state.sequence).map StoredEvent.event) with
    | .error _ => false
    | .ok expected =>
      RecordEq.same expected state && Decidable.decide (expected ≠ state) &&
        Decidable.decide (verifyArtifacts store state.artifactRefs = .ok ())

/-- The latest snapshot of the stream is one that a rebuild is not safe from: it is of the current fold schema and
its bytes match their digest, and reading them raises no value error, or they hold a state of this stream that is
ahead of the ledger or only looks like its prefix. -/
def snapshotMisleads (store : Option ArtifactStore) (ledger : Ledger) (streamId : String) : Bool :=
  match ledger.latestSnapshot streamId with
  | none => false
  | some row =>
    Decidable.decide (row.foldSchemaVersion = foldedStateSchemaVersion) &&
    Decidable.decide (ByteFacts.sha256 row.stateBytes = row.stateDigest) &&
    match decodeStateBytes row.stateBytes with
    | .error failure => !failure.isValueError
    | .ok state =>
      Decidable.decide (state.inquiryId = some streamId ∧ state.sequence = row.sequence) &&
        (Decidable.decide (ledger.streamVersion streamId < state.sequence) ||
          looksLikePrefix store ledger streamId row state)

variable {store : Option ArtifactStore} {ledger : Ledger} {streamId : String} {row : SnapshotRow}
  {slice : StreamSlice} {final state : InquiryState}

theorem rebuildFrom_eq_ok : rebuildFrom store ledger streamId state = .ok final ↔
    ∃ slice, loadStream store ledger streamId state.sequence = .ok slice ∧
      replay state (slice.events.map StoredEvent.event) = .ok final ∧ final.sequence = slice.version := by
  unfold rebuildFrom
  rw [bind_eq_ok]
  simp only [fromCore_bind_eq_ok, require_bind_eq_ok, pure, Except.pure, Except.ok.injEq]
  constructor
  · intro rebuilt
    obtain ⟨slice, loaded, result, replayed, versioned, rfl⟩ := rebuilt
    exact ⟨slice, loaded, replayed, versioned⟩
  · intro rebuilt
    obtain ⟨slice, loaded, replayed, versioned⟩ := rebuilt
    exact ⟨slice, loaded, final, replayed, versioned, rfl⟩

/-- A rebuild starts from a row that is read. -/
theorem rebuildState_of_read {snapshot : SnapshotRecord} (latest : ledger.latestSnapshot streamId = some row)
    (current : row.foldSchemaVersion = foldedStateSchemaVersion)
    (read : readSnapshot store ledger streamId row = .ok snapshot) :
    rebuildState store ledger streamId true = rebuildFrom store ledger streamId snapshot.state := by
  simp only [rebuildState, usableSnapshot, loadLatestSnapshot, latest, current, read, Except.map, if_true, bind,
    Except.bind, Option.map_some, Option.getD_some]

/-- A row that is not read is ignored, or fails the rebuild. -/
theorem rebuildState_of_failure {failure : StoreFailure} (latest : ledger.latestSnapshot streamId = some row)
    (current : row.foldSchemaVersion = foldedStateSchemaVersion)
    (failed : readSnapshot store ledger streamId row = .error failure) :
    rebuildState store ledger streamId true =
      if failure.isDisposable then rebuildFrom store ledger streamId initialState else .error failure := by
  simp only [rebuildState, usableSnapshot, loadLatestSnapshot, latest, current, failed, Except.map, if_true]
  split <;> rfl

/-- A row whose failure is disposable leaves the rebuild as it is without snapshots. -/
theorem rebuildState_of_disposable {failure : StoreFailure} (latest : ledger.latestSnapshot streamId = some row)
    (current : row.foldSchemaVersion = foldedStateSchemaVersion)
    (failed : readSnapshot store ledger streamId row = .error failure) (disposable : failure.isDisposable = true) :
    rebuildState store ledger streamId true = rebuildFrom store ledger streamId initialState := by
  rw [rebuildState_of_failure latest current failed, if_pos disposable]

/-- What is left to check of a row that holds a state of the stream within the ledger. -/
theorem readSnapshot_within (intact : ByteFacts.sha256 row.stateBytes = row.stateDigest)
    (decoded : decodeStateBytes row.stateBytes = .ok state)
    (own : state.inquiryId = some streamId ∧ state.sequence = row.sequence)
    (loaded : loadStream store ledger streamId 0 = .ok slice) (within : state.sequence ≤ slice.version) :
    readSnapshot store ledger streamId row = (do
      require (prefixDigest streamId slice.events state.sequence = row.sourceEventDigest)
        (.integrity "snapshot source prefix does not match the event ledger")
      let expected ← fromCore (replay initialState ((slice.events.take state.sequence).map StoredEvent.event))
      require (RecordEq.same expected state = true) (.integrity "snapshot state does not equal its event prefix")
      verifyArtifacts store state.artifactRefs
      return ⟨streamId, row.sequence, row.foldSchemaVersion, prefixDigest streamId slice.events state.sequence,
        row.stateDigest, state⟩) := by
  simp only [readSnapshot, decodeSnapshot, streamPrefixDigest, decoded, loaded, require, if_pos intact, if_pos own,
    if_pos within, bind, Except.bind, pure, Except.pure]

/-- A rebuild from the state of a prefix is the rebuild from the whole stream. -/
theorem rebuildFrom_within {expected : InquiryState} (loaded : loadStream store ledger streamId 0 = .ok slice)
    (replayed : replay initialState (slice.events.map StoredEvent.event) = .ok final)
    (versioned : final.sequence = slice.version) (within : expected.sequence ≤ slice.version)
    (folded : replay initialState ((slice.events.take expected.sequence).map StoredEvent.event) = .ok expected) :
    rebuildFrom store ledger streamId expected = .ok final := by
  have behind := loadStream_after loaded within
  refine rebuildFrom_eq_ok.mpr ⟨_, behind, ?_, versioned⟩
  rw [← List.take_append_drop expected.sequence slice.events, List.map_append, replay_append, folded] at replayed
  obtain ⟨middle, same, later⟩ := replayed
  rw [← Except.ok.inj same] at later
  exact later

omit [ByteFacts] [Pydantic] in
/-- A fold that a started state looks like is started. -/
theorem started_of_alike {events : List DomainEvent} {expected : InquiryState}
    (folded : replay initialState events = .ok expected) (same : RecordEq.same expected state = true)
    (own : state.inquiryId = some streamId) : expected.status ≠ .notStarted := by
  intro unstarted
  have alike := InquiryState.sameAs_alike same
  have identity : state.inquiryId = expected.inquiryId := congrArg (·.inquiryId) alike.others
  have initial := Replayable.unstarted_eq_initial (replay_run folded) unstarted
  rw [own, initial] at identity
  cases identity

/-- A row that holds a state of the stream within the ledger misleads only when it looks like the prefix. -/
theorem withinRow_transparent_iff (plain : rebuildFrom store ledger streamId initialState = .ok final)
    (latest : ledger.latestSnapshot streamId = some row)
    (current : row.foldSchemaVersion = foldedStateSchemaVersion)
    (intact : ByteFacts.sha256 row.stateBytes = row.stateDigest)
    (decoded : decodeStateBytes row.stateBytes = .ok state)
    (own : state.inquiryId = some streamId ∧ state.sequence = row.sequence)
    (within : state.sequence ≤ ledger.streamVersion streamId) :
    rebuildState store ledger streamId true = .ok final ↔
      looksLikePrefix store ledger streamId row state = false := by
  obtain ⟨slice, loaded, replayed, versioned⟩ := rebuildFrom_eq_ok.mp plain
  change loadStream store ledger streamId 0 = .ok slice at loaded
  have sliceVersion := (loadStream_eq_ok.mp loaded).2.2.2.2.2
  rw [← sliceVersion] at within
  have reads := readSnapshot_within intact decoded own loaded within
  have split := replayed
  rw [← List.take_append_drop state.sequence slice.events, List.map_append, replay_append] at split
  obtain ⟨expected, folded, later⟩ := split
  simp only [looksLikePrefix, loaded, folded]
  simp only [folded, fromCore, bind, Except.bind] at reads
  by_cases pinned : prefixDigest streamId slice.events state.sequence = row.sourceEventDigest
  · by_cases same : RecordEq.same expected state = true
    · cases verified : verifyArtifacts store state.artifactRefs with
      | error failure =>
        have failed : readSnapshot store ledger streamId row = .error failure := by
          simp only [reads, require, if_pos pinned, if_pos same, verified]
        have disposable := StoreFailure.isDisposable_of_isIntegrity (verifyArtifacts_error verified)
        rw [rebuildState_of_disposable latest current failed disposable]
        simp [plain]
      | ok _ =>
        have read : readSnapshot store ledger streamId row = .ok ⟨streamId, row.sequence, row.foldSchemaVersion,
            prefixDigest streamId slice.events state.sequence, row.stateDigest, state⟩ := by
          simp only [reads, require, if_pos pinned, if_pos same, verified, pure, Except.pure]
        rw [rebuildState_of_read latest current read]
        by_cases exact : expected = state
        · subst exact
          simp [rebuildFrom_within loaded replayed versioned within folded]
        · have different : rebuildFrom store ledger streamId state ≠ .ok final := by
            intro rebuilt
            obtain ⟨rest, behind, rerun, -⟩ := rebuildFrom_eq_ok.mp rebuilt
            rw [loadStream_after loaded within, Except.ok.injEq] at behind
            rw [← behind] at rerun
            exact exact (eq_of_same_future same (started_of_alike folded same own.1) (replay_run later)
              (replay_run rerun))
          simp [different, pinned, same, exact]
    · have failed : readSnapshot store ledger streamId row =
          .error (.integrity "snapshot state does not equal its event prefix") := by
        simp only [reads, require, if_pos pinned, if_neg same]
      rw [rebuildState_of_disposable latest current failed rfl]
      simp [plain, same]
  · have failed : readSnapshot store ledger streamId row =
        .error (.integrity "snapshot source prefix does not match the event ledger") := by
      simp only [reads, require, if_neg pinned]
    rw [rebuildState_of_disposable latest current failed rfl]
    simp [plain, pinned]

/-- A row of the current fold schema. -/
theorem currentRow_transparent_iff (plain : rebuildFrom store ledger streamId initialState = .ok final)
    (latest : ledger.latestSnapshot streamId = some row)
    (current : row.foldSchemaVersion = foldedStateSchemaVersion) :
    rebuildState store ledger streamId true = .ok final ↔ snapshotMisleads store ledger streamId = false := by
  obtain ⟨slice, loaded, -, -⟩ := rebuildFrom_eq_ok.mp plain
  change loadStream store ledger streamId 0 = .ok slice at loaded
  simp only [snapshotMisleads, latest, current, decide_true, Bool.true_and]
  by_cases intact : ByteFacts.sha256 row.stateBytes = row.stateDigest
  · cases decoded : decodeStateBytes row.stateBytes with
    | error failure =>
      by_cases caught : failure.isValueError = true
      · have failed : readSnapshot store ledger streamId row =
            .error (.integrity "snapshot state bytes are not a supported folded state") := by
          simp only [readSnapshot, decodeSnapshot, decoded, require, if_pos intact, if_pos caught, bind, Except.bind]
        rw [rebuildState_of_disposable latest current failed rfl]
        simp [plain, caught]
      · have failed : readSnapshot store ledger streamId row = .error (.domain failure) := by
          simp only [readSnapshot, decodeSnapshot, decoded, require, if_pos intact, if_neg caught, bind, Except.bind]
        rw [rebuildState_of_failure latest current failed]
        simp [intact, caught, StoreFailure.isDisposable, StoreFailure.isIntegrity]
    | ok state =>
      by_cases own : state.inquiryId = some streamId ∧ state.sequence = row.sequence
      · by_cases within : state.sequence ≤ ledger.streamVersion streamId
        · rw [withinRow_transparent_iff plain latest current intact decoded own within]
          have behind : ¬ ledger.streamVersion streamId < row.sequence := by omega
          simp only [intact, own, behind, and_self, decide_true, decide_false, Bool.true_and, Bool.false_or]
        · have sliceVersion := (loadStream_eq_ok.mp loaded).2.2.2.2.2
          have failed : readSnapshot store ledger streamId row =
              .error (.valueError "stream prefix sequence is outside the event stream") := by
            simp only [readSnapshot, decodeSnapshot, streamPrefixDigest, decoded, loaded, sliceVersion, require,
              if_pos intact, if_pos own, if_neg within, bind, Except.bind]
          rw [rebuildState_of_failure latest current failed]
          have beyond : ledger.streamVersion streamId < row.sequence := by omega
          simp only [intact, own, beyond, and_self, decide_true, Bool.true_and, Bool.true_or]
          simp [StoreFailure.isDisposable, StoreFailure.isIntegrity]
      · have failed : readSnapshot store ledger streamId row =
            .error (.integrity "snapshot metadata does not match its state bytes") := by
          simp only [readSnapshot, decodeSnapshot, decoded, require, if_pos intact, if_neg own, bind, Except.bind]
        rw [rebuildState_of_disposable latest current failed rfl]
        simp [plain, own]
  · have failed : readSnapshot store ledger streamId row =
        .error (.integrity "snapshot bytes do not match their digest") := by
      simp only [readSnapshot, require, if_neg intact, bind, Except.bind]
    rw [rebuildState_of_disposable latest current failed rfl]
    simp [plain, intact]

/-- Whatever the snapshots table holds, a rebuild that may use a snapshot returns the state of the rebuild that
may not, unless the latest snapshot misleads it. -/
theorem snapshot_transparent_iff (rebuilt : rebuildState store ledger streamId false = .ok final) :
    rebuildState store ledger streamId true = .ok final ↔ snapshotMisleads store ledger streamId = false := by
  have plain : rebuildFrom store ledger streamId initialState = .ok final := rebuilt
  cases latest : ledger.latestSnapshot streamId with
  | none =>
    have ignored : rebuildState store ledger streamId true = rebuildFrom store ledger streamId initialState := by
      simp only [rebuildState, usableSnapshot, loadLatestSnapshot, latest, if_true]
      rfl
    simp [ignored, plain, snapshotMisleads, latest]
  | some row =>
    by_cases current : row.foldSchemaVersion = foldedStateSchemaVersion
    · exact currentRow_transparent_iff plain latest current
    · have ignored : rebuildState store ledger streamId true = rebuildFrom store ledger streamId initialState := by
        simp only [rebuildState, usableSnapshot, loadLatestSnapshot, latest, if_neg current, if_true]
        by_cases older : row.foldSchemaVersion ∈ rebuildableFoldedStateSchemas
        · rw [if_pos older]
          rfl
        · rw [if_neg older]
          rfl
      simp [ignored, plain, snapshotMisleads, latest, current]

end

namespace Worked

/-- A readable stand-in for the hash of stored bytes: a mark for each name that an object carries. -/
def readableHash : StoredBytes → String
  | .text _ (.object entries) => String.ofList (entries.map (fun _ => '+'))
  | .text _ _ => "value"
  | .other content => content

/-- Bytes are as long as their readable hash. -/
scoped instance readableBytes : ByteFacts where
  length data := (readableHash data).utf8ByteSize
  sha256 := readableHash

def opening : DomainEvent where
  head := ⟨"event-1", "inquiry", 0⟩
  body := .inquiryStarted (artifact "manifest") "policy" context

def openedState : InquiryState := (replay initialState [opening]).toOption.getD initialState

/-- A snapshot that keeps the opened inquiry, said to be the fold of so many events. Records that a state does not
name are read as none. -/
def snapshotAt (sequence : Nat) (positive : 1 ≤ sequence) : SnapshotRow where
  streamId := "inquiry"
  sequence := sequence
  foldSchemaVersion := foldedStateSchemaVersion
  sourceEventDigest := "++++"
  stateBytes := canonicalBytes (headerFields.write { openedState.toInquiryHeader with sequence := sequence })
  stateDigest := ByteFacts.sha256 (canonicalBytes
    (headerFields.write { openedState.toInquiryHeader with sequence := sequence }))
  sequence_positive := positive

/-- A ledger of the opening alone, with a snapshot of it. -/
def openedLedger : Ledger where
  streams := [⟨"inquiry", 1⟩]
  events := [eventRow "inquiry" 1 opening]
  snapshots := [snapshotAt 1 Nat.one_pos]

/-- The same ledger with a snapshot from behind its end. -/
def outrunLedger : Ledger :=
  { openedLedger with snapshots := [snapshotAt 2 (by decide)] }

theorem opened_transparent :
    rebuildState none openedLedger "inquiry" false = .ok openedState ∧
      snapshotMisleads none openedLedger "inquiry" = false ∧
      rebuildState none openedLedger "inquiry" true = .ok openedState := by
  have plain : rebuildState none openedLedger "inquiry" false = .ok openedState := by decide +kernel
  have harmless : snapshotMisleads none openedLedger "inquiry" = false := by decide +kernel
  exact ⟨plain, harmless, (snapshot_transparent_iff plain).mpr harmless⟩

/-- A snapshot ahead of the ledger is not ignored: it fails the rebuild. -/
theorem outrun_not_transparent :
    rebuildState none outrunLedger "inquiry" false = .ok openedState ∧
      rebuildState none outrunLedger "inquiry" true =
        .error (.valueError "stream prefix sequence is outside the event stream") := by
  decide +kernel

end Worked

end RatchetingInquiry
