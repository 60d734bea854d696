import RatchetingInquiry.Invariants.Compression
import RatchetingInquiry.Invariants.LedgerSafety

/-! The reacquisition saga over a parent stream and its child streams. What a parent commits about a child is a
fact about a prefix of the child stream, and a prefix never changes, whatever is appended to either stream. -/

namespace RatchetingInquiry

def EventBody.reacquisitionRequest? : EventBody → Option ReacquisitionRequest
  | .memory (.reacquisitionRequested request) => some request
  | _ => none

def EventBody.reacquisitionLink? : EventBody → Option ReacquisitionInquiryLink
  | .memory (.reacquisitionInquiryLinked link) => some link
  | _ => none

/-- The requests that the events of a stream record. -/
def requestsOf (events : List DomainEvent) : List ReacquisitionRequest :=
  events.filterMap (fun event => event.body.reacquisitionRequest?)

/-- The links that the events of a stream record. -/
def linksOf (events : List DomainEvent) : List ReacquisitionInquiryLink :=
  events.filterMap (fun event => event.body.reacquisitionLink?)

/-- The request of that name which the parent stream owns. -/
def OwnsRequest (history : List DomainEvent) (parentId requestId : String) (request : ReacquisitionRequest) : Prop :=
  (requestsOf (streamOf history parentId)).find? (fun item => item.id = requestId) = some request

/-- The link for that request which the parent stream owns. -/
def OwnsLink (history : List DomainEvent) (parentId requestId : String) (link : ReacquisitionInquiryLink) : Prop :=
  (linksOf (streamOf history parentId)).find? (fun item => item.requestId = requestId) = some link

section
variable {history : List DomainEvent} {parentId requestId : String}

theorem OwnsRequest.later {request : ReacquisitionRequest} (owns : OwnsRequest history parentId requestId request)
    (added : List DomainEvent) : OwnsRequest (history ++ added) parentId requestId request := by
  rw [OwnsRequest, streamOf_append, requestsOf, List.filterMap_append]
  exact (List.prefix_append _ _).find?_eq_some owns

theorem OwnsLink.later {link : ReacquisitionInquiryLink} (owns : OwnsLink history parentId requestId link)
    (added : List DomainEvent) : OwnsLink (history ++ added) parentId requestId link := by
  rw [OwnsLink, streamOf_append, linksOf, List.filterMap_append]
  exact (List.prefix_append _ _).find?_eq_some owns

end

theorem requestsOf_readBack [Pydantic] (events : List DomainEvent) :
    requestsOf (events.map DomainEvent.readBack) = requestsOf events := by
  rw [requestsOf, requestsOf, List.filterMap_map]
  congr 1
  funext event
  obtain ⟨head, body⟩ := event
  cases body <;> rfl

theorem linksOf_readBack [Pydantic] (events : List DomainEvent) : linksOf (events.map DomainEvent.readBack) = linksOf events := by
  rw [linksOf, linksOf, List.filterMap_map]
  congr 1
  funext event
  obtain ⟨head, body⟩ := event
  cases body <;> rfl

section
variable [Fingerprints] {state next : InquiryState} {events : List DomainEvent}

/-- A collection of the aggregate is what the events of a replay show of it. -/
theorem replay_collects {α : Type} {records : InquiryState → List α} (collects : Collects records)
    {shown : EventBody → Option α} (shows : ∀ state body, records (body.introduces state) = (shown body).toList)
    (replayable : Replayable state) (replayed : replay state events = .ok next) :
    records next = records state ++ events.filterMap (fun event => shown event.body) := by
  induction events generalizing state with
  | nil =>
    obtain rfl : state = next := by simpa [replay, pure, Except.pure] using replayed
    simp
  | cons event rest ih =>
    simp only [replay, List.foldlM_cons, bind_eq_ok] at replayed
    obtain ⟨middle, evolved, later⟩ := replayed
    obtain ⟨transition, -⟩ := evolve_eq_ok.mp evolved
    have appended := transition.recordsAppended replayable.unstarted_eq_initial
    rw [ih (replayable.tail ⟨event, evolved⟩) later, collects.grows _ _ _ appended, shows, List.append_assoc]
    congr 1
    cases seen : shown event.body <;> simp [seen]

omit [Fingerprints] in
theorem collects_recovery {α : Type} {records : RecoveryRecords → List α} (empty : records {} = [])
    (joins : ∀ earlier added, records (earlier.join added) = records earlier ++ records added) :
    Collects (fun state => records state.toRecoveryRecords) := by
  refine ⟨empty, ?_⟩
  intro state added next appended
  rw [appended.recovery]
  exact joins _ _

theorem replay_requests (replayable : Replayable state) (replayed : replay state events = .ok next) :
    next.reacquisitionRequests = state.reacquisitionRequests ++ requestsOf events := by
  have collects : Collects (fun state => state.reacquisitionRequests) := collects_recovery rfl (fun _ _ => rfl)
  refine replay_collects collects ?_ replayable replayed
  intro state body
  cases body with
  | memory event => cases event <;> rfl
  | learning event => cases event <;> rfl
  | _ => rfl

theorem replay_links (replayable : Replayable state) (replayed : replay state events = .ok next) :
    next.reacquisitionInquiryLinks = state.reacquisitionInquiryLinks ++ linksOf events := by
  have collects : Collects (fun state => state.reacquisitionInquiryLinks) := collects_recovery rfl (fun _ _ => rfl)
  refine replay_collects collects ?_ replayable replayed
  intro state body
  cases body with
  | memory event => cases event <;> rfl
  | learning event => cases event <;> rfl
  | _ => rfl

end

/-! A prefix of a stream, as the ledger reads it. -/

section
variable [ByteFacts] [Pydantic] {ledger : Ledger} {history : List DomainEvent} {streamId : String} {sequence : Nat}
  {store : Option ArtifactStore}

/-- The first events of a stream, as they are read back. -/
def storedPrefix (history : List DomainEvent) (streamId : String) (sequence : Nat) : List StoredEvent :=
  storedEvents streamId 0 ((streamOf history streamId).take sequence)

theorem eventRows_within (streamId : String) (start count : Nat) (events : List DomainEvent) :
    (eventRows streamId start events).filter (fun row => row.sequence ≤ start + count) =
      eventRows streamId start (events.take count) := by
  induction events generalizing start count with
  | nil => simp [eventRows]
  | cons event rest ih =>
    cases count with
    | zero =>
      rw [List.take_zero, show eventRows streamId start [] = [] from rfl, List.filter_eq_nil_iff]
      intro row member
      have listed := List.mem_map_of_mem (f := EventRow.sequence) member
      rw [eventRows_sequences, List.mem_range'_1] at listed
      simp
      omega
    | succ count =>
      rw [List.take_succ_cons, eventRows, eventRows, List.filter_cons_of_pos (by simp [eventRow]), ← ih]
      congr 2
      funext row
      congr 2
      omega

theorem storedEvents_take (streamId : String) (start count : Nat) (events : List DomainEvent) :
    (storedEvents streamId start events).take count = storedEvents streamId start (events.take count) := by
  induction events generalizing start count with
  | nil => simp [storedEvents]
  | cons event rest ih =>
    cases count with
    | zero => rfl
    | succ count => simp [storedEvents, ih]

theorem storedEvents_sequences (streamId : String) (start : Nat) (events : List DomainEvent) :
    (storedEvents streamId start events).map StoredEvent.sequence = List.range' (start + 1) events.length := by
  induction events generalizing start with
  | nil => rfl
  | cons event rest ih => simp [storedEvents, ih, List.range'_succ]

/-- A prefix grows with no append: it is the same part of every later history. -/
theorem storedPrefix_later (within : sequence ≤ (streamOf history streamId).length) (added : List DomainEvent) :
    storedPrefix (history ++ added) streamId sequence = storedPrefix history streamId sequence := by
  rw [storedPrefix, storedPrefix, streamOf_append, List.take_append_of_le_length within]

/-- What is loaded of a prefix is that part of the history. -/
theorem loadPrefix_eq {stored : List StoredEvent} (represents : Represents ledger history)
    (loaded : loadPrefix store ledger streamId sequence = .ok stored) :
    sequence ≤ (streamOf history streamId).length ∧ stored = storedPrefix history streamId sequence := by
  simp only [loadPrefix, require_bind_eq_ok, mapM_bind_eq_ok, verifyArtifacts_bind_eq_ok, pure, Except.pure,
    Except.ok.injEq] at loaded
  obtain ⟨versioned, items, decoded, -, -, rfl⟩ := loaded
  have within : sequence ≤ (streamOf history streamId).length := by
    rw [← represents.versions, Ledger.streamVersion]
    cases hit : ledger.streamRow streamId with
    | none => simp [hit] at versioned
    | some row => simpa [hit] using versioned
  refine ⟨within, ?_⟩
  have rows := eventRows_within streamId 0 sequence (streamOf history streamId)
  rw [Nat.zero_add] at rows
  rw [represents.rowsOf_eq, rows] at decoded
  refine decodedRows_unique decoded (decoded_eventRows 0 ?_)
  intro event member
  exact streamOf_named history streamId event (List.mem_of_mem_take member)

/-- The artifacts of a stream are intact in the store. -/
def IntactFor (store : Option ArtifactStore) (ledger : Ledger) (streamId : String) : Prop :=
  ∀ items, List.Forall₂ (fun row item => decodeRow row = .ok item) (ledger.rowsOf streamId) items →
    verifyArtifacts store (storedArtifacts items) = .ok ()

/-- The ledger reads the prefix of a stream as the given events, and it has the given digest. -/
structure PinsPrefix (ledger : Ledger) (streamId : String) (sequence : Nat) (digest : String)
    (stored : List StoredEvent) : Prop where
  loaded : ∀ store, IntactFor store ledger streamId → loadPrefix store ledger streamId sequence = .ok stored
  digested : ∀ store, IntactFor store ledger streamId →
    streamPrefixDigest store ledger streamId sequence = .ok digest

theorem Represents.loadStream_eq (represents : Represents ledger history) (intact : IntactFor store ledger streamId) :
    loadStream store ledger streamId 0 = .ok ⟨streamId, (streamOf history streamId).length,
      storedEvents streamId 0 (streamOf history streamId)⟩ := by
  have decoded := decoded_eventRows 0 (streamOf_named history streamId)
  rw [← represents.rowsOf_eq] at decoded
  refine loadStream_eq_ok.mpr ⟨Nat.zero_le _, ?_, intact _ decoded, ?_, rfl, (represents.versions streamId).symm⟩
  · rw [List.filter_eq_self.mpr]
    · exact decoded
    · intro row member
      have listed := List.mem_map_of_mem (f := EventRow.sequence) member
      rw [represents.sequences, List.mem_range'_1] at listed
      exact decide_eq_true (Nat.lt_of_succ_le listed.1)
  · rw [storedEvents_sequences, represents.versions]
    rfl

/-- What was pinned of a prefix is what the ledger reads. -/
theorem Represents.pins (represents : Represents ledger history) (positive : 0 < sequence)
    (within : sequence ≤ (streamOf history streamId).length) {digest : String}
    (pinned : prefixDigest streamId (storedPrefix history streamId sequence) sequence = digest) :
    PinsPrefix ledger streamId sequence digest (storedPrefix history streamId sequence) := by
  constructor
  · intro store intact
    have own : ∀ event ∈ (streamOf history streamId).take sequence, event.head.inquiryId = streamId :=
      fun event member => streamOf_named history streamId event (List.mem_of_mem_take member)
    have rows := eventRows_within streamId 0 sequence (streamOf history streamId)
    rw [Nat.zero_add] at rows
    have whole := decoded_eventRows 0 (streamOf_named history streamId)
    rw [← represents.rowsOf_eq] at whole
    simp only [loadPrefix, require_bind_eq_ok, mapM_bind_eq_ok, verifyArtifacts_bind_eq_ok, pure, Except.pure,
      Except.ok.injEq]
    refine ⟨?_, storedPrefix history streamId sequence, ?_, ?_, ?_, rfl⟩
    · rw [← represents.versions, Ledger.streamVersion] at within
      cases hit : ledger.streamRow streamId with
      | none =>
        simp only [hit, Option.map_none, Option.getD_none] at within
        omega
      | some row => simpa [hit] using within
    · rw [represents.rowsOf_eq, rows]
      exact decoded_eventRows 0 own
    · rw [storedPrefix, storedEvents_sequences, List.length_take, Nat.min_eq_left within]
    · refine verifyArtifacts_subset ?_ (intact _ whole)
      intro artifact member
      simp only [storedArtifacts, eventArtifacts, List.mem_flatMap, List.mem_map, storedPrefix,
        ← storedEvents_take] at member ⊢
      obtain ⟨event, ⟨item, listed, rfl⟩, refers⟩ := member
      exact ⟨item.event, ⟨item, List.mem_of_mem_take listed, rfl⟩, refers⟩
  · intro store intact
    simp only [streamPrefixDigest, represents.loadStream_eq intact]
    rw [bind_eq_ok]
    refine ⟨_, rfl, ?_⟩
    simp only [require_bind_eq_ok, pure, Except.pure, Except.ok.injEq]
    refine ⟨within, ?_⟩
    rw [← pinned, prefixDigest, prefixDigest, storedPrefix, ← storedEvents_take, List.take_take, Nat.min_self]

end

/-! What the parent commits about a child. -/

section
variable [Fingerprints] [ByteFacts] [Pydantic]

omit [Fingerprints] [Pydantic] in
/-- The events begin with the start of the inquiry that the request asks for. -/
def StartsChild (request : ReacquisitionRequest) (stored : List StoredEvent) : Prop :=
  ∃ start context, stored.head? = some start ∧
    start.event.body = .inquiryStarted request.childManifestArtifact request.childPolicyVersion context ∧
    contextDigest context = request.childContextDigest

omit [ByteFacts] [Pydantic] in
/-- The events replay to a finished inquiry that owns what the observation cites. -/
structure FinishesChild (observation : RecoveryObservation) (stored : List StoredEvent) (child : InquiryState) :
    Prop where
  replayed : replay initialState (stored.map StoredEvent.event) = .ok child
  obliged : child.obligations ≠ []
  satisfied : ∀ obligation ∈ child.obligations, child.currentObligationStatus obligation.id = some .satisfied
  probes : ∀ probeId ∈ observation.logicalProbeIds, probeId ∈ child.probeObservations.map ProbeEvent.id
  effects : ∀ requestId ∈ observation.effectRequestIds, ∃ item ∈ child.effectRequests,
    item.acceptedResult.isSome ∧ item.request.id = requestId

/-- What a committed link proves about the child stream in a history. -/
structure LinkProved (history : List DomainEvent) (parentId : String) (link : ReacquisitionInquiryLink)
    (request : ReacquisitionRequest) : Prop where
  owned : OwnsRequest history parentId link.requestId request
  about : link.childInquiryId = request.childInquiryId
  within : link.childPrefixSequence ≤ (streamOf history link.childInquiryId).length
  digest : prefixDigest link.childInquiryId (storedPrefix history link.childInquiryId link.childPrefixSequence)
    link.childPrefixSequence = link.childPrefixDigest
  starts : StartsChild request (storedPrefix history link.childInquiryId link.childPrefixSequence)

/-- What a committed observation proves about the child stream in a history. -/
structure ObservationProved (history : List DomainEvent) (parentId : String) (observation : RecoveryObservation)
    (request : ReacquisitionRequest) (link : ReacquisitionInquiryLink) (child : InquiryState) : Prop where
  owned : OwnsRequest history parentId observation.reacquisitionRequestId request
  linked : OwnsLink history parentId observation.reacquisitionRequestId link
  about : observation.childInquiryId = request.childInquiryId
  follows : link.childPrefixSequence ≤ observation.childPrefixSequence
  within : observation.childPrefixSequence ≤ (streamOf history observation.childInquiryId).length
  digest : prefixDigest observation.childInquiryId
    (storedPrefix history observation.childInquiryId observation.childPrefixSequence)
    observation.childPrefixSequence = observation.childPrefixDigest
  finishes : FinishesChild observation
    (storedPrefix history observation.childInquiryId observation.childPrefixSequence) child

section
variable {store : Option ArtifactStore} {ledger next : Ledger} {history events : List DomainEvent} {streamId : String}
  {expected : Int} {sequence : Nat} {committed proposed : InquiryState} {event : DomainEvent}
  {request : ReacquisitionRequest} {link : ReacquisitionInquiryLink} {observation : RecoveryObservation}
  {parentId : String} {child : InquiryState}

omit [Fingerprints] in
theorem LinkProved.later (proved : LinkProved history parentId link request) (added : List DomainEvent) :
    LinkProved (history ++ added) parentId link request := by
  have kept := storedPrefix_later proved.within added
  refine ⟨proved.owned.later added, proved.about, ?_, ?_, ?_⟩
  · rw [streamOf_append, List.length_append]
    exact Nat.le_add_right_of_le proved.within
  · rw [kept]
    exact proved.digest
  · rw [kept]
    exact proved.starts

theorem ObservationProved.later (proved : ObservationProved history parentId observation request link child)
    (added : List DomainEvent) : ObservationProved (history ++ added) parentId observation request link child := by
  have kept := storedPrefix_later proved.within added
  refine ⟨proved.owned.later added, proved.linked.later added, proved.about, proved.follows, ?_, ?_, ?_⟩
  · rw [streamOf_append, List.length_append]
    exact Nat.le_add_right_of_le proved.within
  · rw [kept]
    exact proved.digest
  · rw [kept]
    exact proved.finishes

/-- Every event of an accepted batch passed its saga checks against the committed state and evolved behind the
events before it. -/
theorem proposed_event {candidate : InquiryState}
    (proposes : events.foldlM (proposeEvent store ledger streamId committed) candidate = .ok proposed)
    (member : event ∈ events) : ∃ earlier middle after, replay candidate earlier = .ok middle ∧
      validateSagaFact store ledger streamId committed event.body = .ok () ∧ evolve middle event = .ok after := by
  obtain ⟨earlier, rest, rfl⟩ := List.append_of_mem member
  rw [List.foldlM_append, bind_eq_ok] at proposes
  obtain ⟨middle, before, after⟩ := proposes
  rw [List.foldlM_cons, bind_eq_ok] at after
  obtain ⟨last, proposed, -⟩ := after
  simp only [proposeEvent, unit_bind_eq_ok, fromCore_eq_ok] at proposed
  exact ⟨earlier, middle, last, proposes_replays before, proposed.1, proposed.2⟩

/-- The state that a batch is judged against owns the requests and links of its stream. -/
theorem AppendPassed.owns (represents : Represents ledger history)
    (passed : AppendPassed store ledger streamId expected events committed proposed next sequence) :
    Replayable committed ∧ committed.reacquisitionRequests = requestsOf (streamOf history streamId) ∧
      committed.reacquisitionInquiryLinks = linksOf (streamOf history streamId) := by
  have replayed := foldCommittedStream_replays represents passed.folded
  refine ⟨replay_run replayed, ?_, ?_⟩
  · rw [replay_requests .refl replayed, requestsOf_readBack]
    rfl
  · rw [replay_links .refl replayed, linksOf_readBack]
    rfl

/-- A link in an accepted batch is proved by the history before the batch. -/
theorem AppendPassed.link_proved (represents : Represents ledger history)
    (passed : AppendPassed store ledger streamId expected events committed proposed next sequence)
    {head : EventMetadata} (member : ⟨head, .memory (.reacquisitionInquiryLinked link)⟩ ∈ events) :
    ∃ request, LinkProved history head.inquiryId link request := by
  obtain ⟨replayable, requests, -⟩ := passed.owns represents
  obtain ⟨earlier, middle, after, replayed, checked, evolved⟩ := proposed_event passed.proposes member
  have parent : head.inquiryId = streamId := passed.own _ member
  simp only [validateSagaFact, Ledger.validateReacquisitionLink, found_bind_eq_ok] at checked
  obtain ⟨request, owned, checked⟩ := checked
  obtain ⟨stored, loaded, checked⟩ := bind_eq_ok.mp checked
  obtain ⟨start, first, checked⟩ := found_bind_eq_ok.mp checked
  obtain ⟨within, rfl⟩ := loadPrefix_eq represents loaded
  -- the proposed event is judged once more by the reducer, after the events before it
  obtain ⟨transition, -⟩ := evolve_eq_ok.mp evolved
  cases transition with
  | memory _ _ lawful =>
    have judged := (recordOnce_eq_some.mp lawful).2
    simp only [freshReacquisitionLink, found_bind_eq_ok, require_bind_eq_ok] at judged
    obtain ⟨again, hit, -, agrees, -⟩ := judged
    rw [replay_requests replayable replayed, (List.prefix_append _ _).find?_eq_some owned] at hit
    obtain rfl := Option.some.inj hit
    simp only [ReacquisitionInquiryLink.agreesWith, Bool.and_eq_true, decide_eq_true_eq] at agrees
    split at checked
    next manifest policy context started =>
      simp only [require_bind_eq_ok] at checked
      obtain ⟨⟨-, -, -, -, manifestSame, policySame, -, contextSame, digest⟩, -⟩ := checked
      refine ⟨request, ?_, agrees.1.1.2, within, digest, start, context, first, ?_, contextSame⟩
      · rw [OwnsRequest, parent, ← requests]
        exact owned
      · rw [started, manifestSame, policySame]
    next => cases checked

/-- An observation in an accepted batch is proved by the history before the batch. -/
theorem AppendPassed.observation_proved (represents : Represents ledger history)
    (passed : AppendPassed store ledger streamId expected events committed proposed next sequence)
    {head : EventMetadata} (member : ⟨head, .memory (.recoveryObservationRecorded observation)⟩ ∈ events) :
    ∃ request link child, ObservationProved history head.inquiryId observation request link child := by
  obtain ⟨replayable, requests, links⟩ := passed.owns represents
  obtain ⟨earlier, middle, after, replayed, checked, evolved⟩ := proposed_event passed.proposes member
  have parent : head.inquiryId = streamId := passed.own _ member
  simp only [validateSagaFact, Ledger.validateRecoveryObservation, require_bind_eq_ok] at checked
  obtain ⟨⟨requested, linked⟩, checked⟩ := checked
  obtain ⟨stored, loaded, checked⟩ := bind_eq_ok.mp checked
  simp only [require_bind_eq_ok] at checked
  obtain ⟨digest, checked⟩ := checked
  obtain ⟨child, folded, checked⟩ := bind_eq_ok.mp checked
  simp only [require_bind_eq_ok, require_eq_ok] at checked
  obtain ⟨effects, probes, obliged, satisfied⟩ := checked
  obtain ⟨within, rfl⟩ := loadPrefix_eq represents loaded
  obtain ⟨request, owned⟩ := Option.isSome_iff_exists.mp requested
  obtain ⟨link, linkOwned⟩ := Option.isSome_iff_exists.mp linked
  obtain ⟨transition, -⟩ := evolve_eq_ok.mp evolved
  cases transition with
  | memory _ _ lawful =>
    have judged := (recordOnce_eq_some.mp lawful).2
    simp only [freshRecoveryObservation, found_bind_eq_ok, require_bind_eq_ok] at judged
    obtain ⟨again, hit, linkAgain, linkHit, -, agrees, follows, -⟩ := judged
    rw [replay_requests replayable replayed, (List.prefix_append _ _).find?_eq_some owned] at hit
    obtain rfl := Option.some.inj hit
    rw [replay_links replayable replayed, (List.prefix_append _ _).find?_eq_some linkOwned] at linkHit
    obtain rfl := Option.some.inj linkHit
    simp only [RecoveryObservation.agreesWith, Bool.and_eq_true, decide_eq_true_eq] at agrees
    have replays : replay initialState
        ((storedPrefix history observation.childInquiryId observation.childPrefixSequence).map StoredEvent.event) =
          .ok child := by
      unfold replayCommitted at folded
      split at folded <;> simp_all
    refine ⟨request, link, child, ?_, ?_, agrees.1.1.2, follows, within, digest,
      ⟨replays, obliged, satisfied, probes, effects⟩⟩
    · rw [OwnsRequest, parent, ← requests]
      exact owned
    · rw [OwnsLink, parent, ← links]
      exact linkOwned

/-- Whatever a committed history says about a child, the history proves. -/
theorem Committed.saga_proved (committed : Committed ledger history) :
    (∀ head link, ⟨head, .memory (.reacquisitionInquiryLinked link)⟩ ∈ history →
      ∃ request, LinkProved history head.inquiryId link request) ∧
    ∀ head observation, ⟨head, .memory (.recoveryObservationRecorded observation)⟩ ∈ history →
      ∃ request link child, ObservationProved history head.inquiryId observation request link child := by
  induction committed with
  | empty => simp
  | accepted earlier appended ih =>
    obtain ⟨_, _, passed⟩ := append_passed appended
    have represents := earlier.represents
    constructor
    · intro head link member
      rcases List.mem_append.mp member with before | added
      · obtain ⟨request, proved⟩ := ih.1 head link before
        exact ⟨request, proved.later _⟩
      · obtain ⟨request, proved⟩ := passed.link_proved represents added
        exact ⟨request, proved.later _⟩
    · intro head observation member
      rcases List.mem_append.mp member with before | added
      · obtain ⟨request, link, child, proved⟩ := ih.2 head observation before
        exact ⟨request, link, child, proved.later _⟩
      · obtain ⟨request, link, child, proved⟩ := passed.observation_proved represents added
        exact ⟨request, link, child, proved.later _⟩
  | rejected _ _ ih => exact ih

/-- Whatever is appended to a parent and to its children, every committed link starts the child that its request
asks for and pins a prefix of it that never changes, and every committed observation pins a later such prefix of
a finished child. -/
theorem saga_safe (committed : Committed ledger history) :
    (∀ head link, ⟨head, .memory (.reacquisitionInquiryLinked link)⟩ ∈ history → ∃ request stored,
      OwnsRequest history head.inquiryId link.requestId request ∧ link.childInquiryId = request.childInquiryId ∧
      StartsChild request stored ∧ ∀ later, AppendsTo ledger later →
        PinsPrefix later request.childInquiryId link.childPrefixSequence link.childPrefixDigest stored) ∧
    ∀ head observation, ⟨head, .memory (.recoveryObservationRecorded observation)⟩ ∈ history →
      ∃ request link stored child, OwnsRequest history head.inquiryId observation.reacquisitionRequestId request ∧
        OwnsLink history head.inquiryId observation.reacquisitionRequestId link ∧
        observation.childInquiryId = request.childInquiryId ∧
        link.childPrefixSequence ≤ observation.childPrefixSequence ∧ FinishesChild observation stored child ∧
        ∀ later, AppendsTo ledger later → PinsPrefix later request.childInquiryId observation.childPrefixSequence
          observation.childPrefixDigest stored := by
  obtain ⟨links, observations⟩ := committed.saga_proved
  constructor
  · intro head link member
    obtain ⟨request, proved⟩ := links head link member
    refine ⟨request, storedPrefix history link.childInquiryId link.childPrefixSequence, proved.owned, proved.about,
      proved.starts, ?_⟩
    intro later run
    obtain ⟨added, reached⟩ := committed.run run
    have still := proved.later added
    rw [← proved.about, ← storedPrefix_later proved.within added]
    exact reached.represents.pins link.prefix_positive still.within still.digest
  · intro head observation member
    obtain ⟨request, link, child, proved⟩ := observations head observation member
    refine ⟨request, link, storedPrefix history observation.childInquiryId observation.childPrefixSequence, child,
      proved.owned, proved.linked, proved.about, proved.follows, proved.finishes, ?_⟩
    intro later run
    obtain ⟨added, reached⟩ := committed.run run
    have still := proved.later added
    rw [← proved.about, ← storedPrefix_later proved.within added]
    exact reached.represents.pins observation.prefix_positive still.within still.digest

end

end

/-! A recovery: the parent asks for a child inquiry, links its start and observes its end. -/

namespace Worked

/-- The context of a recovery, whose finite universe is pinned. -/
def recoveryContext : InquiryContext := { context with finiteUniverseHash := some "universe", closed_world_hashed := by simp }

def recoveryQuestion : Obligation :=
  { openQuestion with scope := { scope with finiteUniverseHash := some "universe", closed_world_hashed := by simp } }

def budget : CostVector where
  coordinates := [⟨⟨"probes", "count"⟩, 1, 1, Nat.one_pos, by decide⟩]

def recoveryProtocol : RecoveryProtocol where
  id := "protocol"
  version := "1"
  scopeFingerprint := scope.fingerprint
  targetCompetenceId := "competence"
  finiteUniverseHash := "universe"
  bindingRevision := "binding"
  protectedHorizonId := "horizon"
  evaluatorId := "evaluator"
  evaluatorVersion := "1"
  evidenceAccessId := "access"
  evidenceAccessVersion := "1"
  budgetId := "budget"
  budgetVersion := "1"
  budget := budget
  comparisonPolicyId := "comparison"
  comparisonPolicyVersion := "1"
  costAxes := [⟨"probes", "count"⟩]

def protocolRegistration : RetentionRegistration where
  package := {
    id := "package"
    scopeFingerprint := scope.fingerprint
    bindingRevision := "binding"
    protectedHorizonId := "horizon"
    ownedRefs := [makeOwnedMemoryRef .evidence "evidence-measurement" 1
      (.evidence (relationEvidence "evidence-measurement" "other"))]
    recoveryProtocolIds := ["protocol"]
    provenanceRefs := ["provenance"] }
  recoveryProtocols := [recoveryProtocol]

def childManifest : ReacquisitionChildManifest where
  parentInquiryId := "parent"
  requestId := "request"
  childInquiryId := "child"
  pins := recoveryProtocol.pins
  contextDigest := contextDigest recoveryContext
  policyVersion := "policy"
  inquiryManifestArtifact := artifact "manifest"

def childManifestBytes : StoredBytes := canonicalBytes (childManifestFields.write childManifest)

def childManifestArtifact : ArtifactRef := artifact (ByteFacts.sha256 childManifestBytes)

/-- A store that holds the child manifest, and for every other artifact the bytes that its digest names. -/
def recoveryStore : ArtifactStore where
  files digest := if digest = childManifestArtifact.digest then some childManifestBytes else some (.other digest)

def reacquisition : ReacquisitionRequest where
  id := "request"
  parentInquiryId := "parent"
  childInquiryId := "child"
  branch := .baseline
  pins := recoveryProtocol.pins
  childManifestArtifact := childManifestArtifact
  childInquiryManifestArtifact := artifact "manifest"
  childContextDigest := contextDigest recoveryContext
  childPolicyVersion := "policy"

def reacquisitionLink : ReacquisitionInquiryLink where
  id := "link"
  requestId := "request"
  parentInquiryId := "parent"
  childInquiryId := "child"
  childStartEventId := "child"
  childStartEventDigest := "++++++++"
  childPrefixSequence := 1
  childPrefixDigest := "++++"
  childManifestArtifact := childManifestArtifact
  childContextDigest := contextDigest recoveryContext
  prefix_positive := Nat.one_pos

def recoveryObservation : RecoveryObservation where
  id := "observation"
  branch := .baseline
  reacquisitionRequestId := "request"
  childInquiryId := "child"
  childPrefixSequence := 10
  childPrefixDigest := "++++"
  retentionPackageId := none
  pins := recoveryProtocol.pins
  costs := budget
  effectRequestIds := ["request-a"]
  measurementCheck := checkOf "measurement"
  competenceEstablished := false

/-- The events of commands to one inquiry, named by their places. -/
def eventsOf (streamId : String) (bodies : List CommandBody) : List DomainEvent :=
  (bodies.foldl (fun (progress : InquiryState × List DomainEvent) body =>
    let head : EventMetadata := ⟨streamId ++ String.ofList (List.replicate progress.2.length '+'), streamId, 0⟩
    match decide progress.1 ⟨head, body⟩ with
    | .ok events => ((events.foldlM evolve progress.1).toOption.getD progress.1, progress.2 ++ events)
    | .error _ => progress) (initialState, [])).2

def parentEvents : List DomainEvent :=
  eventsOf "parent" (.startInquiry (artifact "manifest") "policy" recoveryContext ::
    relationCheck "measurement" "other" ++ [.memory (.registerRetentionPackage protocolRegistration),
      .memory (.requestReacquisition reacquisition), .memory (.linkReacquisitionInquiry reacquisitionLink),
      .memory (.recordRecoveryObservation recoveryObservation)])

def childEvents : List DomainEvent :=
  eventsOf "child" (.startInquiry childManifestArtifact "policy" recoveryContext ::
    .claim (.openObligation recoveryQuestion) :: .effect (.recordStepPlan readyPlan) :: acceptance "a" "result-a" ++
    [.claim (.recordObligationDisposition ⟨"disposition", "obligation", .satisfied, "answered", ["decode-a"], none⟩)])

/-- The appends of the batches, each at its place, with the events of those that succeeded. -/
def appendAll (batches : List (String × Nat × List DomainEvent)) : Ledger × List DomainEvent :=
  batches.foldl (fun progress batch =>
    match append (some recoveryStore) (some recoveryStore) progress.1 batch.1 batch.2.1 batch.2.2 with
    | (next, .ok _) => (next, progress.2 ++ batch.2.2)
    | (next, .error _) => (next, progress.2)) ({}, [])

theorem committed_appendAll (batches : List (String × Nat × List DomainEvent)) :
    Committed (appendAll batches).1 (appendAll batches).2 := by
  unfold appendAll
  generalize start : (({}, []) : Ledger × List DomainEvent) = progress
  have committed : Committed progress.1 progress.2 := by
    rw [← start]
    exact .empty
  clear start
  induction batches generalizing progress with
  | nil => exact committed
  | cons batch rest ih =>
    rw [List.foldl_cons]
    apply ih
    split
    next next sequence appended => exact committed.accepted appended
    next next failure refused => exact committed.rejected refused

/-- The child starts after its request and goes on after its link. -/
def recovery : List (String × Nat × List DomainEvent) :=
  [("parent", 0, parentEvents.take 5), ("child", 0, childEvents.take 1), ("parent", 5, (parentEvents.drop 5).take 1),
    ("child", 1, childEvents.drop 1), ("parent", 6, parentEvents.drop 6)]

def linkHead : EventMetadata := ⟨"parent+++++", "parent", 0⟩

def observationHead : EventMetadata := ⟨"parent++++++", "parent", 0⟩

theorem recovery_safe :
    (∃ request stored, OwnsRequest (appendAll recovery).2 linkHead.inquiryId reacquisitionLink.requestId request ∧
      reacquisitionLink.childInquiryId = request.childInquiryId ∧ StartsChild request stored ∧
      ∀ later, AppendsTo (appendAll recovery).1 later → PinsPrefix later request.childInquiryId
        reacquisitionLink.childPrefixSequence reacquisitionLink.childPrefixDigest stored) ∧
    ∃ request link stored child,
      OwnsRequest (appendAll recovery).2 observationHead.inquiryId recoveryObservation.reacquisitionRequestId request ∧
      OwnsLink (appendAll recovery).2 observationHead.inquiryId recoveryObservation.reacquisitionRequestId link ∧
      recoveryObservation.childInquiryId = request.childInquiryId ∧
      link.childPrefixSequence ≤ recoveryObservation.childPrefixSequence ∧
      FinishesChild recoveryObservation stored child ∧ ∀ later, AppendsTo (appendAll recovery).1 later →
        PinsPrefix later request.childInquiryId recoveryObservation.childPrefixSequence
          recoveryObservation.childPrefixDigest stored := by
  have facts : ⟨linkHead, .memory (.reacquisitionInquiryLinked reacquisitionLink)⟩ ∈ (appendAll recovery).2 ∧
      ⟨observationHead, .memory (.recoveryObservationRecorded recoveryObservation)⟩ ∈ (appendAll recovery).2 := by
    decide +kernel
  have safe := saga_safe (committed_appendAll recovery)
  exact ⟨safe.1 linkHead reacquisitionLink facts.1, safe.2 observationHead recoveryObservation facts.2⟩

end Worked

end RatchetingInquiry
