import RatchetingInquiry.Invariants.Retention

/-! Repeated retrieval. Every completed retrieval stores a snapshot of its policy, while the aggregate wants the stored
snapshots to be different. The one policy of the release can therefore be used once in an inquiry. -/

namespace RatchetingInquiry

section
variable [Fingerprints] {state next : InquiryState} {resultId : String} {query : RetrievalQuery}
  {policy : StructuralRetrievalPolicy} {result : RetrievalResult} {head : EventMetadata}

/-- The retrieval has fresh identities, names a registered policy, pins the present sequence and index, and selects
only current references. -/
structure LawfulRetrieval (state : InquiryState) (head : EventMetadata) (resultId : String) (query : RetrievalQuery)
    (policy : StructuralRetrievalPolicy) : Prop where
  active : state.isActive head.inquiryId
  freshResult : resultId ∉ state.retrievalResults.map RetrievalResult.id
  freshQuery : query.id ∉ state.retrievalQueries.map RetrievalQuery.id
  registered : resolveStructuralRetrievalPolicy query.policyId query.policyVersion = .ok policy
  sequence : query.sourceSequence = state.sequence
  index : structuralIndexFingerprint state.retentionPackages state.ownedMemoryFingerprints =
    .ok query.sourceIndexFingerprint
  selectors : ∀ selector ∈ query.referenceSelectors,
    (indexBy Prod.fst state.ownedMemoryFingerprints selector.key).map Prod.snd = some selector.contentFingerprint

/-- Each query has exactly one result, and the stored policies are those that the queries used. -/
structure RetrievalRecords.OneToOne (retrieval : RetrievalRecords) : Prop where
  answered : ∀ query ∈ retrieval.retrievalQueries, ∃! result,
    result ∈ retrieval.retrievalResults ∧ result.queryId = query.id
  asked : ∀ result ∈ retrieval.retrievalResults, ∃ query ∈ retrieval.retrievalQueries, query.id = result.queryId
  policies : ∀ key, key ∈ retrieval.storedPolicyKeys ↔ key ∈ retrieval.usedPolicyKeys

theorem AggregateValid.retrieval_oneToOne (valid : AggregateValid state) : state.toRetrievalRecords.OneToOne := by
  have checked := valid.retrieval
  simp only [validateRetrieval, require_bind_eq_ok, forM_bind_eq_ok, require_eq_ok] at checked
  obtain ⟨same, lengths, -, used, stored⟩ := checked
  have queries : (state.retrievalQueries.map RetrievalQuery.id).Nodup :=
    valid.identities_unique _ (by simp [identifiedCollections])
  have covered : (state.retrievalQueries.map RetrievalQuery.id).Perm
      (state.retrievalResults.map RetrievalResult.queryId) :=
    (List.subperm_of_subset queries same.2).perm_of_length_le (by simp [lengths])
  have answers : (state.retrievalResults.map RetrievalResult.queryId).Nodup := covered.nodup_iff.mp queries
  constructor
  · intro query asked
    obtain ⟨result, answered, names⟩ := List.mem_map.mp (covered.subset (List.mem_map_of_mem asked))
    refine ⟨result, ⟨answered, names⟩, ?_⟩
    intro other otherAnswers
    obtain ⟨otherAnswered, otherNames⟩ := otherAnswers
    exact List.inj_on_of_nodup_map answers otherAnswered answered (otherNames.trans names.symm)
  · intro result answered
    obtain ⟨query, asked, names⟩ := List.mem_map.mp (covered.symm.subset (List.mem_map_of_mem answered))
    exact ⟨query, asked, names⟩
  · intro key
    exact ⟨fun stores => stored stores, fun uses => used uses⟩

/-- Without queries there are neither results nor policies. -/
theorem AggregateValid.retrieval_empty (valid : AggregateValid state) (unasked : state.retrievalQueries = []) :
    state.retrievalResults = [] ∧ state.retrievalPolicies = [] := by
  have checked := valid.retrieval
  simp only [validateRetrieval, require_bind_eq_ok, forM_bind_eq_ok, require_eq_ok] at checked
  obtain ⟨-, lengths, -, -, stored⟩ := checked
  have answers : state.retrievalResults = [] := by
    rw [unasked] at lengths
    exact List.length_eq_zero_iff.mp lengths
  simp only [RetrievalRecords.storedPolicyKeys, RetrievalRecords.usedPolicyKeys, unasked, List.map_nil,
    List.subset_nil, List.map_eq_nil_iff] at stored
  exact ⟨answers, stored⟩

omit [Fingerprints] in
/-- Only one policy is registered. -/
theorem registered_policy (resolved : resolveStructuralRetrievalPolicy query.policyId query.policyVersion = .ok policy) :
    policy = structuralExactV1 ∧ query.policyId = policy.id ∧ query.policyVersion = policy.version := by
  simp only [resolveStructuralRetrievalPolicy, found_eq_ok] at resolved
  have member := List.mem_of_find?_eq_some resolved
  have named := List.find?_some resolved
  simp only [structuralRetrievalPolicies, List.mem_singleton] at member
  simp only [decide_eq_true_eq] at named
  exact ⟨member, named.1.symm, named.2.symm⟩

omit [Fingerprints] in
theorem structuralExactV1_accepts (recordTypes : List OwnedRecordType) :
    recordTypes ⊆ structuralExactV1.acceptedRecordTypes := by
  intro recordType _
  cases recordType <;> decide

/-! A lawful retrieval is completed when its limit is within the bound of the policy. -/

omit [Fingerprints] in
theorem sortedPackages_sorted (packages : List RetentionPackage) :
    sortedPackages (sortedPackages packages) = sortedPackages packages := by
  have total : Std.Total (fun left right : RetentionPackage => left.id ≤ right.id) :=
    ⟨fun left right => le_total left.id right.id⟩
  have trans : IsTrans RetentionPackage (fun left right => left.id ≤ right.id) :=
    ⟨fun _ _ _ => le_trans⟩
  exact List.Pairwise.insertionSort_eq (List.pairwise_insertionSort _ packages)

theorem structuralIndexFingerprint_sorted {packages : List RetentionPackage}
    (distinct : (packages.map RetentionPackage.id).Nodup) (owned : List (OwnedRecordKey × String)) :
    structuralIndexFingerprint (sortedPackages packages) owned = structuralIndexFingerprint packages owned := by
  have sorted : ((sortedPackages packages).map RetentionPackage.id).Nodup :=
    ((List.perm_insertionSort _ packages).map RetentionPackage.id).nodup_iff.mpr distinct
  simp only [structuralIndexFingerprint, deduplicatePackages_of_nodup distinct, deduplicatePackages_of_nodup sorted,
    sortedPackages_sorted]

theorem retrieve_completes {packages : List RetentionPackage} {owned : List (OwnedRecordKey × String)}
    (distinct : (packages.map RetentionPackage.id).Nodup)
    (resolved : resolveStructuralRetrievalPolicy query.policyId query.policyVersion = .ok policy)
    (selectors : ∀ selector ∈ query.referenceSelectors,
      (indexBy Prod.fst owned selector.key).map Prod.snd = some selector.contentFingerprint)
    (index : structuralIndexFingerprint packages owned = .ok query.sourceIndexFingerprint) :
    (∃ result, retrieve resultId query policy packages owned = .ok result) ↔ query.limit ≤ policy.maxResults := by
  obtain ⟨rfl, named, versioned⟩ := registered_policy resolved
  simp only [retrieve, bind_eq_ok, require_eq_ok, deduplicatePackages_of_nodup distinct, Except.ok.injEq,
    structuralIndexFingerprint_sorted distinct, index, exists_eq_left', pure, Except.pure]
  constructor
  · intro completed
    obtain ⟨result, _, _, _, bounded, _⟩ := completed
    exact bounded
  · intro bounded
    exact ⟨_, (), ⟨named, versioned⟩, (), bounded, (), fun _ => structuralExactV1_accepts _, (), selectors, (), trivial, rfl⟩

/-- A result repeats the pins of its query and hits packages that it was made over. -/
theorem retrieve_pins {packages : List RetentionPackage} {owned : List (OwnedRecordKey × String)}
    (distinct : (packages.map RetentionPackage.id).Nodup)
    (retrieved : retrieve resultId query policy packages owned = .ok result) :
    result.id = resultId ∧ result.queryId = query.id ∧ result.policyId = policy.id ∧
      result.policyVersion = policy.version ∧ result.sourceSequence = query.sourceSequence ∧
      result.sourceIndexFingerprint = query.sourceIndexFingerprint ∧
      ∀ hit ∈ result.hits, ∃ package ∈ packages, hit.packageId = package.id ∧
        hit.packageContentFingerprint = package.fingerprint := by
  simp only [retrieve, bind_eq_ok, deduplicatePackages_of_nodup distinct, Except.ok.injEq, exists_eq_left', pure,
    Except.pure] at retrieved
  obtain ⟨-, -, -, -, -, -, -, -, -, -, -, -, rfl⟩ := retrieved
  refine ⟨rfl, rfl, rfl, rfl, rfl, rfl, ?_⟩
  intro hit listed
  have ranked := (List.perm_insertionSort _ _).subset (List.mem_of_mem_take listed)
  obtain ⟨package, kept, hits⟩ := List.mem_filterMap.mp ranked
  have member := (List.perm_insertionSort _ packages).subset (List.mem_of_mem_filter (List.mem_of_mem_filter kept))
  refine ⟨package, member, ?_⟩
  unfold packageHit at hits
  split at hits
  next =>
    obtain ⟨rank, -, rfl⟩ := Option.map_eq_some_iff.mp hits
    exact ⟨rfl, rfl⟩
  next => simp at hits

/-- The state after a completed retrieval. -/
def InquiryState.withRetrieval (state : InquiryState) (policy : StructuralRetrievalPolicy) (query : RetrievalQuery)
    (result : RetrievalResult) : InquiryState :=
  { state.applyMemory (.retrievalCompleted policy query result) with sequence := state.sequence + 1 }

omit [Fingerprints] in
/-- The identities after a retrieval: only those of the retrieval records are new. -/
theorem withRetrieval_identities (state : InquiryState) :
    identifiedCollections (state.withRetrieval policy query result) = (identifiedCollections state).take 29 ++
      [(state.retrievalPolicies ++ [policy]).map (fun policy => policy.id ++ ":" ++ policy.version),
        (state.retrievalQueries ++ [query]).map (·.id), (state.retrievalResults ++ [result]).map (·.id)] ++
      (identifiedCollections state).drop 32 := rfl

/-- One query, its result and its policy pass the check of the retrieval records. -/
theorem validateRetrieval_single {sequence : Nat} {retention : RetentionRecords}
    (pins : result.policyId = query.policyId ∧ result.policyVersion = query.policyVersion ∧
      result.sourceSequence = query.sourceSequence ∧ result.sourceIndexFingerprint = query.sourceIndexFingerprint)
    (asks : result.queryId = query.id) (policyNamed : query.policyId = policy.id ∧ query.policyVersion = policy.version)
    (precedes : query.sourceSequence < sequence)
    (hits : ∀ hit ∈ result.hits, ∃ package, indexBy RetentionPackage.id retention.retentionPackages hit.packageId =
      some package ∧ package.fingerprint = hit.packageContentFingerprint) :
    validateRetrieval sequence retention ⟨[policy], [query], [result]⟩ = .ok () := by
  have stored : (query.policyId, query.policyVersion) = (policy.id, policy.version) :=
    Prod.ext policyNamed.1 policyNamed.2
  simp only [validateRetrieval, validateRetrievalResult, require_bind_eq_ok, forM_bind_eq_ok, require_eq_ok,
    found_bind_eq_ok, RetrievalRecords.storedPolicyKeys, RetrievalRecords.usedPolicyKeys, List.map_cons, List.map_nil,
    List.mem_singleton, stored, asks]
  refine ⟨?_, rfl, ?_, ?_⟩
  · simp [SameElements]
  · intro item same
    rw [same, asks]
    refine ⟨query, by simp [indexBy_cons], pins, stored, precedes, ?_⟩
    intro hit listed
    obtain ⟨package, owned, content⟩ := hits hit listed
    simp [owned, content]
  · simp

/-- The first retrieval of an inquiry leaves a valid aggregate. -/
theorem AggregateValid.first_retrieval (valid : AggregateValid state) (unasked : state.retrievalQueries = [])
    (started : state.status ≠ .notStarted)
    (resolved : resolveStructuralRetrievalPolicy query.policyId query.policyVersion = .ok policy)
    (sequence : query.sourceSequence = state.sequence)
    (retrieved : retrieve resultId query policy state.retentionPackages state.ownedMemoryFingerprints = .ok result) :
    AggregateValid (state.withRetrieval policy query result) := by
  obtain ⟨noResults, noPolicies⟩ := valid.retrieval_empty unasked
  obtain ⟨-, named, versioned⟩ := registered_policy resolved
  have distinct := valid.owned_identities .retentionPackage
  obtain ⟨-, asks, policyNamed, policyVersioned, sequenced, indexed, hits⟩ := retrieve_pins distinct retrieved
  refine { valid with start := ?_, identities := ?_, retrieval := ?_ }
  · have checked := valid.start
    unfold validateStart at checked ⊢
    rw [if_neg started] at checked
    rw [if_neg (show ¬ (state.withRetrieval policy query result).status = .notStarted from started)]
    exact checked
  · have unique := valid.identities_unique
    simp only [validateIdentities, require_bind_eq_ok, require_eq_ok]
    refine ⟨?_, valid.probe_fingerprints⟩
    intro identifiers listed
    rw [withRetrieval_identities, noPolicies, unasked, noResults] at listed
    simp only [List.mem_append, List.mem_cons, List.not_mem_nil, or_false] at listed
    rcases listed with (earlier | rfl | rfl | rfl) | later
    · exact unique _ (List.mem_of_mem_take earlier)
    · exact List.nodup_singleton _
    · exact List.nodup_singleton _
    · exact List.nodup_singleton _
    · exact unique _ (List.mem_of_mem_drop later)
  · have records : (state.withRetrieval policy query result).toRetrievalRecords = ⟨[policy], [query], [result]⟩ := by
      simp [InquiryState.withRetrieval, InquiryState.applyMemory, RetrievalRecords.complete, noPolicies, unasked,
        noResults]
    rw [records]
    refine validateRetrieval_single ⟨policyNamed.trans named.symm, policyVersioned.trans versioned.symm, sequenced, indexed⟩
      asks ⟨named, versioned⟩ ?_ ?_
    · rw [sequence]
      exact Nat.lt_succ_self _
    · intro hit listed
      obtain ⟨package, owned, same, content⟩ := hits hit listed
      rw [same]
      exact ⟨package, indexBy_of_mem distinct owned, content.symm⟩

/-- Every stored policy is the registered one. -/
theorem Reachable.policies_registered (reached : Reachable state) :
    ∀ policy ∈ state.retrievalPolicies, policy = structuralExactV1 := by
  intro policy stored
  obtain ⟨before, used, query, result, -, same, resolved, -⟩ :=
    reached.retrieval_origin RetrievalRecords.retrievalPolicies (fun _ _ => rfl) rfl stored
  obtain rfl : policy = used := by simpa [RetrievalRecords.complete] using same
  exact (registered_policy resolved).1

/-- After a query has been recorded, no further retrieval leaves a valid aggregate. -/
theorem Reachable.retrieval_once (reached : Reachable state)
    (resolved : resolveStructuralRetrievalPolicy query.policyId query.policyVersion = .ok policy)
    (valid : AggregateValid (state.withRetrieval policy query result)) : state.retrievalQueries = [] := by
  by_contra asked
  have earlier := reached.replayable.aggregateValid.retrieval_oneToOne
  obtain ⟨first, listed⟩ := List.exists_mem_of_ne_nil _ asked
  have stored := (earlier.policies (first.policyId, first.policyVersion)).mpr (List.mem_map.mpr ⟨first, listed, rfl⟩)
  obtain ⟨snapshot, owned, -⟩ := List.mem_map.mp stored
  have unique := valid.identities_unique
    ((state.retrievalPolicies ++ [policy]).map (fun policy => policy.id ++ ":" ++ policy.version))
    (by rw [withRetrieval_identities]; simp)
  rw [List.map_append] at unique
  refine List.disjoint_of_nodup_append unique (List.mem_map_of_mem owned) ?_
  rw [reached.policies_registered snapshot owned, (registered_policy resolved).1]
  exact List.mem_singleton_self _

/-- The decision about a lawful retrieval is its outcome. -/
theorem LawfulRetrieval.completed_iff (lawful : LawfulRetrieval state head resultId query policy) :
    decideMemory state (.runRetrieval resultId query) = .ok (some (.retrievalCompleted policy query result)) ↔
      retrieve resultId query policy state.retentionPackages state.ownedMemoryFingerprints = .ok result := by
  unfold decideMemory
  rw [decideRunRetrieval_eq_some]
  constructor
  · intro ⟨_, used, recorded, resolved, retrieved, completed⟩
    simp only [MemoryEvent.retrievalCompleted.injEq, true_and] at completed
    obtain ⟨rfl, rfl⟩ := completed
    exact retrieved
  · intro retrieved
    exact ⟨⟨lawful.freshResult, lawful.freshQuery, lawful.sequence, lawful.index⟩, policy, result, lawful.registered,
      retrieved, rfl⟩

/-- The retrieval is decided, its event is accepted, and afterwards queries, results and policies still agree. -/
def RetrievalRecorded (state : InquiryState) (head : EventMetadata) (resultId : String) (query : RetrievalQuery)
    (policy : StructuralRetrievalPolicy) : Prop :=
  ∃ result next, decide state ⟨head, .memory (.runRetrieval resultId query)⟩ =
      .ok [⟨head, .memory (.retrievalCompleted policy query result)⟩] ∧
    evolve state ⟨head, .memory (.retrievalCompleted policy query result)⟩ = .ok next ∧
    next.toRetrievalRecords.OneToOne

theorem RetrievalRecorded.unasked (recorded : RetrievalRecorded state head resultId query policy)
    (reached : Reachable state)
    (resolved : resolveStructuralRetrievalPolicy query.policyId query.policyVersion = .ok policy) :
    state.retrievalQueries = [] := by
  obtain ⟨result, next, -, evolved, -⟩ := recorded
  obtain ⟨transition, validNext⟩ := evolve_eq_ok.mp evolved
  cases transition with
  | memory event active lawful => exact reached.retrieval_once resolved validNext

theorem RetrievalRecorded.retrieved (recorded : RetrievalRecorded state head resultId query policy)
    (lawful : LawfulRetrieval state head resultId query policy) : ∃ result,
      retrieve resultId query policy state.retentionPackages state.ownedMemoryFingerprints = .ok result := by
  obtain ⟨result, next, decided, -, -⟩ := recorded
  obtain ⟨-, decidedBody⟩ := decide_singleton.mp decided
  obtain ⟨-, event, decidedMemory, same⟩ := activeDecision_eq_some.mp decidedBody
  obtain rfl := EventBody.memory.inj same
  exact ⟨result, lawful.completed_iff.mp decidedMemory⟩

/-- A lawful retrieval is recorded exactly when it is the first of the inquiry and its limit is within the bound of
the policy. -/
theorem retrieval_recorded_iff (reached : Reachable state) (lawful : LawfulRetrieval state head resultId query policy) :
    RetrievalRecorded state head resultId query policy ↔
      state.retrievalQueries = [] ∧ query.limit ≤ policy.maxResults := by
  have valid := reached.replayable.aggregateValid
  have distinct := valid.owned_identities .retentionPackage
  have completes : (∃ result, retrieve resultId query policy state.retentionPackages state.ownedMemoryFingerprints =
      .ok result) ↔ query.limit ≤ policy.maxResults :=
    retrieve_completes distinct lawful.registered lawful.selectors lawful.index
  constructor
  · intro recorded
    exact ⟨recorded.unasked reached lawful.registered, completes.mp (recorded.retrieved lawful)⟩
  · intro ⟨unasked, bounded⟩
    obtain ⟨result, retrieved⟩ := completes.mpr bounded
    have started : state.status ≠ .notStarted := by
      rw [lawful.active.1]
      simp
    have named := (retrieve_pins distinct retrieved).1
    have decided := lawful.completed_iff.mpr retrieved
    have validNext := valid.first_retrieval unasked started lawful.registered lawful.sequence retrieved
    refine ⟨result, state.withRetrieval policy query result, ?_, ?_, validNext.retrieval_oneToOne⟩
    · exact decide_singleton.mpr ⟨rfl, activeDecision_eq_some.mpr ⟨lawful.active, _, decided, rfl⟩⟩
    · refine evolve_eq_ok.mpr ⟨.memory _ lawful.active ?_, validNext⟩
      simp only [MemoryEvent.command, named]
      exact decided

end

namespace Worked

/-- An evidence query is lawful at the end of a run that gives it fresh identities. -/
theorem evidenceQuery_lawful (bodies : List CommandBody) (resultId queryId : String) (sequence : Nat)
    (facts : ((reached bodies).status = .active ∧ (reached bodies).inquiryId = some "inquiry") ∧
      resultId ∉ (reached bodies).retrievalResults.map RetrievalResult.id ∧
      queryId ∉ (reached bodies).retrievalQueries.map RetrievalQuery.id ∧ (reached bodies).sequence = sequence) :
    LawfulRetrieval (reached bodies) ⟨"event", "inquiry", 0⟩ resultId (evidenceQuery queryId sequence)
      structuralExactV1 := by
  obtain ⟨active, freshResult, freshQuery, counted⟩ := facts
  refine ⟨active, freshResult, freshQuery, rfl, counted.symm, ?_, by simp [evidenceQuery]⟩
  have distinct := (reachable_reached bodies).replayable.aggregateValid.owned_identities .retentionPackage
  rw [structuralIndexFingerprint, deduplicatePackages_of_nodup distinct]
  rfl

theorem first_recorded :
    (RetrievalRecorded (reached kept) ⟨"event", "inquiry", 0⟩ "result" (evidenceQuery "query" 4) structuralExactV1 ↔
      (reached kept).retrievalQueries = [] ∧ (evidenceQuery "query" 4).limit ≤ structuralExactV1.maxResults) ∧
      (reached kept).retrievalQueries = [] := by
  refine ⟨retrieval_recorded_iff (reachable_reached kept) ?_, by decide +kernel⟩
  exact evidenceQuery_lawful kept "result" "query" 4 (by decide +kernel)

/-- A second retrieval under the same policy is ruled lawful and then refused by the aggregate. -/
theorem second_refused : ¬ ∀ state head resultId query policy, Reachable state →
    LawfulRetrieval state head resultId query policy → RetrievalRecorded state head resultId query policy := by
  intro claimed
  have facts : (((reached retrieved).status = .active ∧ (reached retrieved).inquiryId = some "inquiry") ∧
      "again" ∉ (reached retrieved).retrievalResults.map RetrievalResult.id ∧
      "query-again" ∉ (reached retrieved).retrievalQueries.map RetrievalQuery.id ∧ (reached retrieved).sequence = 5) ∧
      (reached retrieved).retrievalQueries ≠ [] := by decide +kernel
  have lawful := evidenceQuery_lawful retrieved "again" "query-again" 5 facts.1
  exact facts.2 ((claimed _ _ _ _ _ (reachable_reached retrieved) lawful).unasked (reachable_reached retrieved) rfl)

end Worked

end RatchetingInquiry
