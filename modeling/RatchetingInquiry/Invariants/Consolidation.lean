import RatchetingInquiry.Invariants.Probes

/-! The selection of a consolidation checkpoint: recent episodes, older exceptions and accepted counterexamples.
Episodes are selected as the policy says. A counterexample among the first requests raises, and one behind them is
passed over, so no checkpoint has a counterexample. -/

namespace RatchetingInquiry

/-- The requests whose accepted result is a counterexample. -/
def EffectRequestState.acceptsCounterexample (request : EffectRequestState) : Bool :=
  match request.acceptedResult with
  | some { role := .counterexample .., .. } => true
  | _ => false

/-- The observations under the pins of a checkpoint, in their order. -/
def pinnedObservations (state : InquiryState) (checkpoint : ConsolidationCheckpoint) : List ProbeEvent :=
  sortedObservations (state.probeObservations.filter (fun item =>
    item.probeIdentity.scopeFingerprint = checkpoint.scopeFingerprint &&
      item.bindingRevision = checkpoint.bindingRevision &&
      item.probeIdentity.protectedHorizonId = checkpoint.protectedHorizonId))

def recentEpisodes (state : InquiryState) (checkpoint : ConsolidationCheckpoint) : List ProbeEvent :=
  lastItems 4 (pinnedObservations state checkpoint)

/-- The last exceptional observations before the recent ones. -/
def olderExceptions (state : InquiryState) (checkpoint : ConsolidationCheckpoint) : List ProbeEvent :=
  lastItems 4 (((pinnedObservations state checkpoint).take ((pinnedObservations state checkpoint).length - 4)).filter
    (isExceptional state.claims state.conflicts state.mismatches))

/-- The first requests, by identity, of those that accepted a counterexample. -/
def firstCounterexamples (state : InquiryState) : List EffectRequestState :=
  ((state.effectRequests.filter EffectRequestState.acceptsCounterexample).insertionSort
    (fun left right => left.request.id ≤ right.request.id)).take 4

/-- What a checkpoint is to select, by role and record. -/
def interleavedRecords (state : InquiryState) (checkpoint : ConsolidationCheckpoint) :
    List (ConsolidationSourceRole × OwnedRecordType × String) :=
  (recentEpisodes state checkpoint).map (fun item => (.recentEpisode, .probeEvent, item.id)) ++
    (olderExceptions state checkpoint).map (fun item => (.olderException, .probeEvent, item.id)) ++
    (firstCounterexamples state).map (fun item => (.counterexample, .effectRequest, item.request.id))

section
variable [Fingerprints]

/-- The selection that a recorded checkpoint is compared with. -/
def expectedCheckpoint (state : InquiryState) (checkpoint : ConsolidationCheckpoint) :
    Except Failure ConsolidationCheckpoint :=
  selectConsolidationCheckpoint checkpoint.id checkpoint.policy state.sequence checkpoint.scopeFingerprint
    checkpoint.bindingRevision checkpoint.protectedHorizonId state.probeObservations state.claims state.conflicts
    state.mismatches state.effectRequests

/-- The selection succeeds, with exactly the records that are to be interleaved and none twice. -/
def SelectsInterleaved (state : InquiryState) (checkpoint : ConsolidationCheckpoint) : Prop :=
  ∃ selected, expectedCheckpoint state checkpoint = .ok selected ∧
    (selected.sources.map (fun source => (source.role, source.reference.recordType, source.reference.recordId))).Perm
      (interleavedRecords state checkpoint) ∧
    (selected.sources.map (·.reference.key)).Nodup

/-- The source of an observation whose identity is an identifier. -/
def episode (role : ConsolidationSourceRole) (observation : ProbeEvent) : ConsolidationSource where
  role := role
  reference := makeOwnedMemoryRef .probeEvent observation.id ownedSchemaVersion (.probeEvent observation)
  semanticSequence := observation.sequenceIndex

theorem mapM_episodeSource {role : ConsolidationSourceRole} {observations : List ProbeEvent}
    {sources : List ConsolidationSource} : observations.mapM (episodeSource role) = .ok sources ↔
      (∀ observation ∈ observations, isIdentifier observation.id) ∧ sources = observations.map (episode role) := by
  induction observations generalizing sources with
  | nil =>
    simp only [List.mapM_nil, pure, Except.pure, Except.ok.injEq, List.map_nil, List.not_mem_nil, false_implies,
      implies_true, true_and]
    exact eq_comm
  | cons first rest ih =>
    have one (source : ConsolidationSource) : episodeSource role first = .ok source ↔
        isIdentifier first.id ∧ source = episode role first := by
      unfold episodeSource
      rw [require_bind_eq_ok]
      simp only [pure, Except.pure, Except.ok.injEq]
      exact and_congr_right fun _ => eq_comm
    rw [List.mapM_cons, bind_eq_ok, List.forall_mem_cons, List.map_cons]
    constructor
    · intro ⟨source, here, later⟩
      obtain ⟨others, done, same⟩ := bind_eq_ok.mp later
      obtain ⟨known, rfl⟩ := (one source).mp here
      obtain ⟨knownToo, rfl⟩ := ih.mp done
      exact ⟨⟨known, knownToo⟩, (Except.ok.inj same).symm⟩
    · intro ⟨⟨known, knownToo⟩, same⟩
      refine ⟨_, (one _).mpr ⟨known, rfl⟩, ?_⟩
      rw [ih.mpr ⟨knownToo, rfl⟩, same]
      rfl

omit [Fingerprints] in
theorem counterexampleSources_eq_ok {requests : List EffectRequestState} {sources : List ConsolidationSource} :
    counterexampleSources requests = .ok sources ↔
      (∀ request ∈ requests, request.acceptsCounterexample = false) ∧ sources = [] := by
  unfold counterexampleSources
  rw [forM_bind_eq_ok]
  have one (request : EffectRequestState) : (match request.acceptedResult with
      | some { role := .counterexample .., .. } =>
        throw (.attributeError "'EffectRequest' object has no attribute 'schema_version'")
      | _ => pure () : Except Failure Unit) = .ok () ↔ request.acceptsCounterexample = false := by
    unfold EffectRequestState.acceptsCounterexample
    split <;> simp [throw, throwThe, MonadExceptOf.throw, pure, Except.pure]
  refine and_congr ⟨fun done request listed => (one request).mp (done request listed),
    fun none request listed => (one request).mpr (none request listed)⟩ ?_
  simp only [pure, Except.pure, Except.ok.injEq]
  exact eq_comm

omit [Fingerprints] in
/-- Sources under different keys are all kept. -/
theorem deduplicateSources_of_nodup {sources : List ConsolidationSource}
    (distinct : (sources.map (·.reference.key)).Nodup) : deduplicateSources sources = sources := by
  have kept (seen rest : List ConsolidationSource) (apart : ((seen ++ rest).map (·.reference.key)).Nodup) :
      rest.foldl (fun unique source =>
        if source.reference.key ∈ unique.map (·.reference.key) then unique else unique ++ [source]) seen =
          seen ++ rest := by
    induction rest generalizing seen with
    | nil => simp
    | cons first rest ih =>
      have unseen : first.reference.key ∉ seen.map (·.reference.key) := by
        rw [List.map_append, List.map_cons] at apart
        exact fun again => List.disjoint_of_nodup_append apart again List.mem_cons_self
      rw [List.foldl_cons, if_neg unseen, ih (seen ++ [first]) (by simpa using apart)]
      simp
  exact kept [] sources distinct

section
variable {state : InquiryState} {checkpoint : ConsolidationCheckpoint}

theorem pinned_nodup (valid : AggregateValid state) :
    ((pinnedObservations state checkpoint).map ProbeEvent.id).Nodup := by
  have distinct : (state.probeObservations.map ProbeEvent.id).Nodup :=
    valid.identities_unique _ (by simp [identifiedCollections])
  unfold pinnedObservations sortedObservations
  rw [(List.perm_insertionSort _ _).map ProbeEvent.id |>.nodup_iff]
  exact distinct.sublist ((List.filter_sublist).map ProbeEvent.id)

omit [Fingerprints] in
theorem recent_split (state : InquiryState) (checkpoint : ConsolidationCheckpoint) :
    pinnedObservations state checkpoint =
      (pinnedObservations state checkpoint).take ((pinnedObservations state checkpoint).length - 4) ++
        recentEpisodes state checkpoint := (List.take_append_drop _ _).symm

/-- The observations that are not recent are those before the recent ones. -/
theorem older_eq (valid : AggregateValid state) :
    (pinnedObservations state checkpoint).filter (fun item =>
      item.id ∉ (recentEpisodes state checkpoint).map ProbeEvent.id &&
        isExceptional state.claims state.conflicts state.mismatches item) =
    ((pinnedObservations state checkpoint).take ((pinnedObservations state checkpoint).length - 4)).filter
      (isExceptional state.claims state.conflicts state.mismatches) := by
  have distinct : ((pinnedObservations state checkpoint).map ProbeEvent.id).Nodup := pinned_nodup valid
  rw [recent_split, List.map_append] at distinct
  conv_lhs => rw [recent_split state checkpoint]
  rw [List.filter_append]
  have none : (recentEpisodes state checkpoint).filter (fun item =>
      item.id ∉ (recentEpisodes state checkpoint).map ProbeEvent.id &&
        isExceptional state.claims state.conflicts state.mismatches item) = [] := by
    rw [List.filter_eq_nil_iff]
    intro item recent
    simp [List.mem_map_of_mem recent]
  rw [none, List.append_nil]
  apply List.filter_congr
  intro item older
  have outside : item.id ∉ (recentEpisodes state checkpoint).map ProbeEvent.id :=
    fun again => List.disjoint_of_nodup_append distinct (List.mem_map_of_mem older) again
  rw [decide_eq_true outside, Bool.true_and]

theorem episodes_nodup (valid : AggregateValid state) :
    ((recentEpisodes state checkpoint ++ olderExceptions state checkpoint).map ProbeEvent.id).Nodup := by
  have distinct : ((pinnedObservations state checkpoint).map ProbeEvent.id).Nodup := pinned_nodup valid
  rw [recent_split] at distinct
  have swapped := (List.perm_append_comm.map ProbeEvent.id).nodup_iff.mp distinct
  have inside : (olderExceptions state checkpoint).Sublist
      ((pinnedObservations state checkpoint).take ((pinnedObservations state checkpoint).length - 4)) :=
    (List.drop_sublist _ _).trans List.filter_sublist
  exact List.Nodup.sublist ((inside.append_left _).map ProbeEvent.id) swapped

/-- The sources of the selected observations. -/
def episodeSources (state : InquiryState) (checkpoint : ConsolidationCheckpoint) : List ConsolidationSource :=
  (recentEpisodes state checkpoint).reverse.map (episode .recentEpisode) ++
    (olderExceptions state checkpoint).reverse.map (episode .olderException)

theorem episodeSources_nodup (valid : AggregateValid state) :
    ((episodeSources state checkpoint).map (·.reference.key)).Nodup := by
  have keys : (episodeSources state checkpoint).map (·.reference.key) =
      (((recentEpisodes state checkpoint).reverse ++ (olderExceptions state checkpoint).reverse).map
        ProbeEvent.id).map (fun id =>
          (recordOwner .probeEvent, OwnedRecordType.probeEvent, id, ownedSchemaVersion)) := by
    simp only [episodeSources, List.map_append, List.map_map]
    rfl
  rw [keys]
  apply List.Nodup.map
  · intro first second same
    exact (Prod.mk.inj (Prod.mk.inj (Prod.mk.inj same).2).2).1
  · have reversed : ((recentEpisodes state checkpoint).reverse ++ (olderExceptions state checkpoint).reverse).Perm
        (recentEpisodes state checkpoint ++ olderExceptions state checkpoint) :=
      (List.reverse_perm _).append (List.reverse_perm _)
    exact (reversed.map ProbeEvent.id).nodup_iff.mpr (episodes_nodup valid)

/-- The requests that the selection looks at. -/
def consideredRequests (state : InquiryState) : List EffectRequestState :=
  (state.effectRequests.insertionSort (fun left right => left.request.id ≤ right.request.id)).take 4

/-- The checkpoint over the given sources. -/
def checkpointOver (state : InquiryState) (checkpoint : ConsolidationCheckpoint) (sources : List ConsolidationSource) :
    ConsolidationCheckpoint where
  id := checkpoint.id
  policy := checkpoint.policy
  sourceSequence := state.sequence
  sourceIndexFingerprint := sourceIndexFingerprint (sources.map (·.reference)) state.sequence
  scopeFingerprint := checkpoint.scopeFingerprint
  bindingRevision := checkpoint.bindingRevision
  protectedHorizonId := checkpoint.protectedHorizonId
  sources := sources
  status := consolidationStatus checkpoint.policy sources

theorem expectedCheckpoint_eq (valid : AggregateValid state) : expectedCheckpoint state checkpoint = (do
    let recentSources ← (recentEpisodes state checkpoint).reverse.mapM (episodeSource .recentEpisode)
    let exceptionSources ← (olderExceptions state checkpoint).reverse.mapM (episodeSource .olderException)
    let counterexamples ← counterexampleSources (consideredRequests state)
    (checkpointOver state checkpoint
      (deduplicateSources (recentSources ++ exceptionSources ++ counterexamples))).validateCheckpoint) := by
  have older : lastItems 4 ((pinnedObservations state checkpoint).filter (fun item =>
      item.id ∉ (recentEpisodes state checkpoint).map ProbeEvent.id &&
        isExceptional state.claims state.conflicts state.mismatches item)) = olderExceptions state checkpoint := by
    rw [older_eq valid]
    rfl
  rw [← older]
  unfold expectedCheckpoint selectConsolidationCheckpoint checkpointOver
  cases policy : checkpoint.policy
  rfl

/-- The selection succeeds without a counterexample among the requests it looks at, and with episodes only. -/
theorem expectedCheckpoint_eq_ok (valid : AggregateValid state) {selected : ConsolidationCheckpoint} :
    expectedCheckpoint state checkpoint = .ok selected ↔
      (∀ observation ∈ recentEpisodes state checkpoint ++ olderExceptions state checkpoint,
        isIdentifier observation.id) ∧
      (∀ request ∈ consideredRequests state, request.acceptsCounterexample = false) ∧
      selected = checkpointOver state checkpoint (episodeSources state checkpoint) := by
  have distinct : ((episodeSources state checkpoint).map (·.reference.key)).Nodup := episodeSources_nodup valid
  have validated : (checkpointOver state checkpoint (deduplicateSources
      ((recentEpisodes state checkpoint).reverse.map (episode .recentEpisode) ++
        (olderExceptions state checkpoint).reverse.map (episode .olderException) ++ []))).validateCheckpoint =
        .ok (checkpointOver state checkpoint (episodeSources state checkpoint)) := by
    rw [List.append_nil, show (recentEpisodes state checkpoint).reverse.map (episode .recentEpisode) ++
        (olderExceptions state checkpoint).reverse.map (episode .olderException) =
          episodeSources state checkpoint from rfl, deduplicateSources_of_nodup distinct]
    unfold ConsolidationCheckpoint.validateCheckpoint
    exact require_bind_eq_ok.mpr ⟨distinct, require_bind_eq_ok.mpr ⟨rfl, rfl⟩⟩
  rw [expectedCheckpoint_eq valid]
  constructor
  · intro done
    obtain ⟨recentSources, recent, rest⟩ := bind_eq_ok.mp done
    obtain ⟨exceptionSources, exceptions, rest⟩ := bind_eq_ok.mp rest
    obtain ⟨counterexamples, looked, built⟩ := bind_eq_ok.mp rest
    obtain ⟨recentNamed, rfl⟩ := mapM_episodeSource.mp recent
    obtain ⟨exceptionsNamed, rfl⟩ := mapM_episodeSource.mp exceptions
    obtain ⟨others, rfl⟩ := counterexampleSources_eq_ok.mp looked
    rw [validated] at built
    refine ⟨?_, others, (Except.ok.inj built).symm⟩
    intro observation listed
    rcases List.mem_append.mp listed with inRecent | inOlder
    · exact recentNamed observation (List.mem_reverse.mpr inRecent)
    · exact exceptionsNamed observation (List.mem_reverse.mpr inOlder)
  · intro ⟨named, others, same⟩
    rw [same]
    apply bind_eq_ok.mpr
    refine ⟨_, mapM_episodeSource.mpr ⟨?_, rfl⟩, bind_eq_ok.mpr ⟨_, mapM_episodeSource.mpr ⟨?_, rfl⟩,
      bind_eq_ok.mpr ⟨[], counterexampleSources_eq_ok.mpr ⟨others, rfl⟩, validated⟩⟩⟩
    · exact fun observation listed => named observation (List.mem_append_left _ (List.mem_reverse.mp listed))
    · exact fun observation listed => named observation (List.mem_append_right _ (List.mem_reverse.mp listed))

/-- The selection is the one of the policy just when the selected observations have identifiers and no request has
accepted a counterexample. -/
theorem consolidation_selection_iff (reached : Reachable state) :
    SelectsInterleaved state checkpoint ↔
      (∀ observation ∈ recentEpisodes state checkpoint ++ olderExceptions state checkpoint,
        isIdentifier observation.id) ∧
      ∀ request ∈ state.effectRequests, request.acceptsCounterexample = false := by
  have valid := reached.replayable.aggregateValid
  have records : ((episodeSources state checkpoint).map (fun source =>
      (source.role, source.reference.recordType, source.reference.recordId))).Perm
      ((recentEpisodes state checkpoint).map (fun item => (.recentEpisode, .probeEvent, item.id)) ++
        (olderExceptions state checkpoint).map (fun item => (.olderException, .probeEvent, item.id))) := by
    unfold episodeSources
    rw [List.map_append, List.map_map, List.map_map]
    exact ((List.reverse_perm _).map _).append ((List.reverse_perm _).map _)
  constructor
  · intro ⟨selected, done, exactly, _⟩
    obtain ⟨named, _, rfl⟩ := (expectedCheckpoint_eq_ok valid).mp done
    refine ⟨named, ?_⟩
    intro request owned
    by_contra accepted
    have accepts : request.acceptsCounterexample = true := by simpa using accepted
    -- a first counterexample is to be selected, and every selected source is an episode
    have some : firstCounterexamples state ≠ [] := by
      intro none
      have listed : request ∈ (state.effectRequests.filter EffectRequestState.acceptsCounterexample).insertionSort
          (fun left right => left.request.id ≤ right.request.id) := by
        rw [List.mem_insertionSort]
        exact List.mem_filter.mpr ⟨owned, accepts⟩
      rcases List.take_eq_nil_iff.mp none with zero | empty
      · exact absurd zero (by decide)
      · rw [empty] at listed
        exact List.not_mem_nil listed
    have sizes := exactly.length_eq
    rw [show (checkpointOver state checkpoint (episodeSources state checkpoint)).sources =
      episodeSources state checkpoint from rfl, records.length_eq] at sizes
    unfold interleavedRecords at sizes
    simp only [List.length_append, List.length_map] at sizes
    have positive := List.length_pos_iff.mpr some
    omega
  · intro ⟨named, others⟩
    have considered : ∀ request ∈ consideredRequests state, request.acceptsCounterexample = false := by
      intro request listed
      exact others request (List.mem_insertionSort _ |>.mp (List.mem_of_mem_take listed))
    refine ⟨_, (expectedCheckpoint_eq_ok valid).mpr ⟨named, considered, rfl⟩, ?_, episodeSources_nodup valid⟩
    have empty : firstCounterexamples state = [] := by
      unfold firstCounterexamples
      rw [List.filter_eq_nil_iff.mpr (fun request owned => by simp [others request owned])]
      rfl
    unfold interleavedRecords
    rw [empty, List.map_nil, List.append_nil]
    exact records

end

end

namespace Worked

/-- A checkpoint under the pins of the inquiry. -/
def consolidation : ConsolidationCheckpoint where
  id := "checkpoint"
  policy := .interleaveV1
  sourceSequence := 0
  sourceIndexFingerprint := "other"
  scopeFingerprint := scope.fingerprint
  bindingRevision := "binding"
  protectedHorizonId := "horizon"
  sources := []
  status := .insufficientDiversity

/-- Four observations and an accepted success: the observations are selected. -/
theorem learnedRun_selected : SelectsInterleaved (reached learnedRun) consolidation :=
  (consolidation_selection_iff (reachable_reached learnedRun)).mpr (by decide +kernel)

def counterexampleDecode : DecodeOutcome :=
  { decoding "decode-a" "a" "result-a" with
    body := .decoded ⟨"result-a", artifact "semantic", .counterexample "proposition" (artifact "counterexample")⟩ }

/-- A request accepts a counterexample. -/
def counterexampleAccepted : InquiryState :=
  reached (planned ++ (acceptance "a" "result-a").take 4 ++
    [.effect (.recordDecodeOutcome "request-a" counterexampleDecode),
      .effect (.acceptEffectResult "request-a" "decode-a")])

/-- One accepted counterexample makes the selection raise. -/
theorem counterexample_raises : ¬ ∀ state, Reachable state → ∀ checkpoint,
    state.context.any (fun context => (checkpoint.scopeFingerprint, checkpoint.bindingRevision,
      checkpoint.protectedHorizonId) = context.retentionPins) → SelectsInterleaved state checkpoint := by
  intro claimed
  obtain ⟨selected, done, -, -⟩ := claimed counterexampleAccepted (reachable_reached _) consolidation
    (by decide +kernel)
  have raised : expectedCheckpoint counterexampleAccepted consolidation =
      .error (.attributeError "'EffectRequest' object has no attribute 'schema_version'") := by decide +kernel
  rw [raised] at done
  cases done

end Worked

end RatchetingInquiry
