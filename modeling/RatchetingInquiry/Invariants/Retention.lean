import RatchetingInquiry.Invariants.Origins
import RatchetingInquiry.Invariants.Predictions

/-! Retained references. A package pins the owner, type, schema version, identity and content of every record that it
keeps. Owned records have different keys and are never replaced, so a reference that resolved once resolves to the
same record for the rest of the run, and retrieval finds no stale package. -/

namespace RatchetingInquiry

section
variable [Fingerprints]

/-- The identities of the owned records of one type, in the order of the index. -/
def InquiryState.ownedIdentities (state : InquiryState) : OwnedRecordType → List String
  | .probeEvent => state.probeObservations.map (·.id)
  | .lemmaVersion => state.lemmaVersions.map (·.id)
  | .semanticDelta => state.semanticDeltas.map (·.id)
  | .probeIdentity => state.admittedProbes.map ProbeIdentity.fingerprint
  | .retentionPackage => state.retentionPackages.map (·.id)
  | .reacquisitionScaffold => state.reacquisitionScaffolds.map (·.id)
  | .recoveryProtocol => state.recoveryProtocols.map (·.id)
  | .evidence => state.evidenceRecords.map (·.id)
  | .checkerVerdict => state.checkerVerdicts.map (·.id)
  | .warrantDecision => state.warrantDecisions.map (·.id)
  | .effectRequest => state.effectRequests.map (·.request.id)
  | .externalReturn => state.capturedExternalReturnIds
  | .reconstruction => state.reconstructions.map (·.id)
  | .predictionSeal => state.predictions.map (·.id)

/-- The reference resolves to the record, which has the owner, type, schema version, identity and content that the
reference pins. -/
structure OwnedMemoryRef.ResolvesTo (reference : OwnedMemoryRef) (records : List OwnedRecord) (record : OwnedRecord) :
    Prop where
  indexed : indexBy OwnedRecord.key records reference.key = some record
  owner : recordOwner record.recordType = reference.owner
  recordType : record.recordType = reference.recordType
  schemaVersion : ownedSchemaVersion = reference.recordSchemaVersion
  identity : record.exposedIdentity = reference.recordId
  content : ownedRecordContentFingerprint reference.owner reference.recordType reference.recordSchemaVersion record =
    reference.contentFingerprint

variable {state next later : InquiryState} {reference : OwnedMemoryRef} {record : OwnedRecord}
  {records : List OwnedRecord}

/-! The index has one record for each key. -/

theorem owned_of_type (state : InquiryState) (recordType : OwnedRecordType) :
    (state.ownedMemoryRecords.filter (fun record => record.recordType = recordType)).map OwnedRecord.exposedIdentity =
      state.ownedIdentities recordType := by
  cases recordType <;>
    simp [InquiryState.ownedMemoryRecords, ownedMemoryRecords, InquiryState.ownedIdentities,
      OwnedRecord.recordType, OwnedRecord.exposedIdentity, List.filter_map, List.filter_flatMap, List.map_flatMap,
      EffectRecords.capturedExternalReturnIds, EffectRecords.capturedReturns, Function.comp_def,
      ← List.map_eq_flatMap]

theorem AggregateValid.probe_fingerprints (valid : AggregateValid state) :
    (state.admittedProbes.map ProbeIdentity.fingerprint).Nodup := by
  have checked := valid.identities
  simp only [validateIdentities, require_bind_eq_ok, require_eq_ok] at checked
  exact checked.2

theorem AggregateValid.owned_identities (valid : AggregateValid state) (recordType : OwnedRecordType) :
    (state.ownedIdentities recordType).Nodup := by
  have unique := valid.identities_unique
  obtain ⟨requests, -, returns, -⟩ := valid.effect_ids
  cases recordType with
  | probeIdentity => exact valid.probe_fingerprints
  | effectRequest => exact requests
  | externalReturn => exact returns
  | _ => exact unique _ (by simp [identifiedCollections, InquiryState.ownedIdentities])

theorem AggregateValid.owned_keys (valid : AggregateValid state) :
    (state.ownedMemoryRecords.map OwnedRecord.key).Nodup := by
  refine nodup_map_of_classes OwnedRecord.recordType ?_ ?_
  · intro first second same
    exact congrArg (fun key => key.2.1) same
  · intro recordType
    have identities := valid.owned_identities recordType
    rw [← owned_of_type] at identities
    refine List.Nodup.of_map (fun key : OwnedRecordKey => key.2.2.1) ?_
    rw [List.map_map]
    exact identities

/-! A package is registered, and stays, with references that resolve. -/

theorem resolves_of_valid (resolved : (resolveOwnedMemoryRef reference records).1 = true) :
    ∃ record, reference.ResolvesTo records record := by
  unfold resolveOwnedMemoryRef at resolved
  split at resolved
  next => simp at resolved
  next record hit =>
    have keyed := (indexBy_some hit).2
    unfold validateOwnedMemoryRef at resolved
    split at resolved
    next => simp at resolved
    next identity =>
      split at resolved
      next => simp at resolved
      next content =>
        exact ⟨record, hit, congrArg (fun key => key.1) keyed, congrArg (fun key => key.2.1) keyed,
          congrArg (fun key => key.2.2.2) keyed, not_not.mp identity, not_not.mp content⟩

theorem AggregateValid.references_resolve (valid : AggregateValid state) {package : RetentionPackage}
    (owned : package ∈ state.retentionPackages) (pinned : reference ∈ package.ownedRefs) :
    ∃ record, reference.ResolvesTo state.ownedMemoryRecords record := by
  have checked := valid.retention
  simp only [validateRetention, unit_bind_eq_ok, forM_eq_ok] at checked
  have resolved := checked.1 package owned reference pinned
  simp only [validateOwnedRef, require_eq_ok] at resolved
  exact resolves_of_valid resolved

/-! Owned records stay. -/

/-- The owned records, each in the collection of its type. -/
def InquiryState.Owns (state : InquiryState) : OwnedRecord → Prop
  | .probeEvent record => record ∈ state.probeObservations
  | .lemmaVersion record => record ∈ state.lemmaVersions
  | .semanticDelta record => record ∈ state.semanticDeltas
  | .probeIdentity record => record ∈ state.admittedProbes
  | .retentionPackage record => record ∈ state.retentionPackages
  | .reacquisitionScaffold record => record ∈ state.reacquisitionScaffolds
  | .recoveryProtocol record => record ∈ state.recoveryProtocols
  | .evidence record => record ∈ state.evidenceRecords
  | .checkerVerdict record => record ∈ state.checkerVerdicts
  | .warrantDecision record => record ∈ state.warrantDecisions
  | .effectRequest record => record ∈ state.effectRequests.map (·.request)
  | .externalReturn record => record ∈ state.capturedReturns
  | .reconstruction record => record ∈ state.reconstructions
  | .predictionSeal record => record ∈ state.predictions

omit [Fingerprints] in
theorem mem_owned : record ∈ state.ownedMemoryRecords ↔ state.Owns record := by
  cases record <;>
    simp [InquiryState.ownedMemoryRecords, ownedMemoryRecords, InquiryState.Owns, EffectRecords.capturedReturns, eq_comm]

omit [Fingerprints] in
theorem EffectsContinue.keeps_returns {earlier later : EffectRecords} (continued : EffectsContinue earlier later) :
    earlier.capturedReturns ⊆ later.capturedReturns := by
  intro captured returned
  obtain ⟨request, member, here⟩ := List.mem_flatMap.mp returned
  obtain ⟨attempt, listed, ended⟩ := List.mem_filterMap.mp here
  obtain ⟨outcome, recorded, captures⟩ := Option.bind_eq_some_iff.mp ended
  obtain ⟨kept, owned, goesOn⟩ := continued request member
  obtain ⟨after, afterListed, same⟩ := goesOn.attempts attempt listed
  refine List.mem_flatMap.mpr ⟨kept, owned, List.mem_filterMap.mpr ⟨after, afterListed, ?_⟩⟩
  rw [same.outcome outcome recorded]
  exact captures

omit [Fingerprints] in
theorem EffectsContinue.keeps_requests {earlier later : EffectRecords} (continued : EffectsContinue earlier later) :
    earlier.effectRequests.map (·.request) ⊆ later.effectRequests.map (·.request) := by
  intro requested listed
  obtain ⟨request, member, rfl⟩ := List.mem_map.mp listed
  obtain ⟨kept, owned, goesOn⟩ := continued request member
  exact List.mem_map.mpr ⟨kept, owned, goesOn.request⟩

theorem owns_kept (replayed : Replayable state) (run : Relation.ReflTransGen EventStep state later)
    (owned : state.Owns record) : later.Owns record := by
  obtain ⟨added, appended⟩ := records_joined replayed run
  have continued := effectsContinue_run replayed run
  cases record with
  | effectRequest record => exact continued.keeps_requests owned
  | externalReturn record => exact continued.keeps_returns owned
  | _ =>
    simp only [InquiryState.Owns, appended.warrants, appended.probes, appended.retention] at owned ⊢
    exact List.mem_append_left _ owned

/-- A record that a reference pins is the same for the rest of the run. -/
theorem OwnedMemoryRef.ResolvesTo.lasts (resolves : reference.ResolvesTo state.ownedMemoryRecords record)
    (reached : Reachable state) (run : RunsTo state later) : reference.ResolvesTo later.ownedMemoryRecords record := by
  have reachedLater : Reachable later := Relation.ReflTransGen.trans reached run
  obtain ⟨member, keyed⟩ := indexBy_some resolves.indexed
  refine { resolves with indexed := ?_ }
  rw [← keyed]
  have kept := mem_owned.mpr (owns_kept reached.replayable run.eventRun (mem_owned.mp member))
  exact indexBy_of_mem reachedLater.replayable.aggregateValid.owned_keys kept

/-! Retrieval is over packages whose references resolve. -/

omit [Fingerprints] in
/-- Packages with different identities are all kept. -/
theorem deduplicatePackages_of_nodup {packages : List RetentionPackage}
    (distinct : (packages.map RetentionPackage.id).Nodup) :
    deduplicatePackages packages = .ok (sortedPackages packages) := by
  have unseen : (([] ++ packages).map RetentionPackage.id).Nodup := distinct
  unfold deduplicatePackages
  rw [foldlM_keeps_fresh ?_ unseen]
  · rfl
  · intro seen package unseen
    rw [find_eq_none_iff.mpr unseen]
    rfl

theorem fresh_of_resolves {package : RetentionPackage} (records : List OwnedRecord)
    (resolve : ∀ reference ∈ package.ownedRefs, ∃ record, reference.ResolvesTo records record) :
    hasStaleReference package (ownedMemoryFingerprints records) = false := by
  simp only [hasStaleReference, List.any_eq_false]
  intro reference pinned stale
  obtain ⟨record, resolves⟩ := resolve reference pinned
  simp only [ownedMemoryFingerprints, indexBy_map_pair, resolves.indexed, Option.map_some] at stale
  have same := resolves.content
  rw [← resolves.schemaVersion, ← resolves.owner, ← resolves.recordType] at same
  simp [same] at stale

/-- Retrieval over current packages with different identities rejects none as stale. -/
theorem retrieve_without_stale {resultId : String} {query : RetrievalQuery} {policy : StructuralRetrievalPolicy}
    {packages : List RetentionPackage} {owned : List (OwnedRecordKey × String)} {result : RetrievalResult}
    (distinct : (packages.map RetentionPackage.id).Nodup)
    (current : ∀ package ∈ packages, hasStaleReference package owned = false)
    (retrieved : retrieve resultId query policy packages owned = .ok result) : result.rejectedStalePackageIds = [] := by
  simp only [retrieve, bind_eq_ok, deduplicatePackages_of_nodup distinct, Except.ok.injEq, exists_eq_left', pure,
    Except.pure] at retrieved
  obtain ⟨-, -, -, -, -, -, -, -, -, -, -, -, rfl⟩ := retrieved
  have none_stale : ((sortedPackages packages).filter fun package => (packageHit query policy package).isSome).filter
      (fun package => hasStaleReference package owned) = [] := by
    rw [List.filter_eq_nil_iff]
    intro package listed
    have member := (List.perm_insertionSort _ packages).subset (List.mem_of_mem_filter listed)
    simp [current package member]
  simp only [none_stale]
  rfl

omit [Fingerprints] in
theorem rejectRetrievalError_eq_ok {α : Type} {outcome : Except Failure α} {value : α} :
    rejectRetrievalError outcome = .ok value ↔ outcome = .ok value := by
  cases outcome <;> simp [rejectRetrievalError]

/-- A retrieval is completed with fresh identities, over the present sequence and index, under a registered policy. -/
theorem decideRunRetrieval_eq_some {resultId : String} {query : RetrievalQuery} {event : MemoryEvent} :
    decideRunRetrieval state resultId query = .ok (some event) ↔
      (resultId ∉ state.retrievalResults.map RetrievalResult.id ∧
        query.id ∉ state.retrievalQueries.map RetrievalQuery.id ∧ query.sourceSequence = state.sequence ∧
        structuralIndexFingerprint state.retentionPackages state.ownedMemoryFingerprints =
          .ok query.sourceIndexFingerprint) ∧
      ∃ policy result, resolveStructuralRetrievalPolicy query.policyId query.policyVersion = .ok policy ∧
        retrieve resultId query policy state.retentionPackages state.ownedMemoryFingerprints = .ok result ∧
        event = .retrievalCompleted policy query result := by
  have unused : ((state.retrievalResults.find? (fun item => item.id = resultId)).isSome ∨
      (state.retrievalQueries.find? (fun item => item.id = query.id)).isSome) ↔
      ¬ (resultId ∉ state.retrievalResults.map RetrievalResult.id ∧
        query.id ∉ state.retrievalQueries.map RetrievalQuery.id) := by
    rw [← find_eq_none_iff, ← find_eq_none_iff, not_and_or, ← ne_eq, ← ne_eq, Option.isSome_iff_ne_none,
      Option.isSome_iff_ne_none]
  simp only [decideRunRetrieval]
  split
  next used =>
    have reused := unused.mp used
    constructor
    · intro decided
      split at decided <;> simp at decided
    · intro claimed
      obtain ⟨⟨freshResult, freshQuery, _⟩, _⟩ := claimed
      exact absurd ⟨freshResult, freshQuery⟩ reused
  next fresh =>
    obtain ⟨freshResult, freshQuery⟩ := not_not.mp (mt unused.mpr fresh)
    simp only [bind_eq_ok, require_eq_ok, rejectRetrievalError_eq_ok, pure, Except.pure, Except.ok.injEq,
      Option.some.injEq]
    constructor
    · intro decided
      obtain ⟨_, sequence, index, pinned, _, same, policy, resolved, result, retrieved, completed⟩ := decided
      rw [← same] at pinned
      exact ⟨⟨freshResult, freshQuery, sequence, pinned⟩, policy, result, resolved, retrieved, completed.symm⟩
    · intro lawful
      obtain ⟨⟨_, _, sequence, pinned⟩, policy, result, resolved, retrieved, completed⟩ := lawful
      exact ⟨(), sequence, _, pinned, (), rfl, policy, resolved, result, retrieved, completed.symm⟩

/-- An event that introduces retrieval records completed one retrieval over the state before it. -/
theorem RunStep.retrieves {α : Type} {condition : InquiryState → DomainCommand → Prop} {before after : InquiryState}
    {command : DomainCommand} {body : EventBody} {records : RetrievalRecords → List α} {record : α}
    (empty : records {} = []) (step : RunStep condition before command body after later)
    (introduced : record ∈ records (body.introduces before).toRetrievalRecords) :
    ∃ policy query result, record ∈ records (RetrievalRecords.complete {} policy query result) ∧
      resolveStructuralRetrievalPolicy query.policyId query.policyVersion = .ok policy ∧
      retrieve result.id query policy before.retentionPackages before.ownedMemoryFingerprints = .ok result := by
  cases body with
  | memory event =>
    obtain ⟨-, judged⟩ := step.proposed.memory_command
    cases event with
    | retrievalCompleted policy query result =>
      obtain ⟨-, used, recorded, resolved, retrieved, completed⟩ := decideRunRetrieval_eq_some.mp judged
      simp only [MemoryEvent.retrievalCompleted.injEq, true_and] at completed
      obtain ⟨rfl, rfl⟩ := completed
      exact ⟨policy, query, result, introduced, resolved, retrieved⟩
    | _ => simp [EventBody.introduces, InquiryState.applyMemory, empty] at introduced
  | learning event => cases event <;> simp [EventBody.introduces, empty] at introduced
  | _ => simp [EventBody.introduces, empty] at introduced

/-- Every retrieval record of a run belongs to one retrieval that was completed in an earlier state. -/
theorem Reachable.retrieval_origin {α : Type} (records : RetrievalRecords → List α) {record : α}
    (joins : ∀ earlier added, records (earlier.join added) = records earlier ++ records added)
    (empty : records {} = []) (reached : Reachable state) (member : record ∈ records state.toRetrievalRecords) :
    ∃ before policy query result, Replayable before ∧ record ∈ records (RetrievalRecords.complete {} policy query result) ∧
      resolveStructuralRetrievalPolicy query.policyId query.policyVersion = .ok policy ∧
      retrieve result.id query policy before.retentionPackages before.ownedMemoryFingerprints = .ok result := by
  have collects : Collects (fun state => records state.toRetrievalRecords) := by
    refine ⟨empty, ?_⟩
    intro state added next appended
    rw [appended.retrieval]
    exact joins _ _
  obtain ⟨before, command, body, after, step, -, introduced⟩ :=
    (reachableUnder_of_reachable reached).record_origin collects member
  obtain ⟨policy, query, result, completed⟩ := step.retrieves empty introduced
  exact ⟨before, policy, query, result, step.replayable, completed⟩

/-- Retained references never go stale: each resolves, now and in every later state of the run, to one and the same
record with what it pins, and no recorded retrieval rejected a package as stale. -/
theorem retained_references_current (reached : Reachable state) :
    (state.ownedMemoryRecords.map OwnedRecord.key).Nodup ∧
      (∀ package ∈ state.retentionPackages, ∀ reference ∈ package.ownedRefs,
        ∃ record, ∀ later, RunsTo state later → reference.ResolvesTo later.ownedMemoryRecords record) ∧
      ∀ result ∈ state.retrievalResults, result.rejectedStalePackageIds = [] := by
  have valid := reached.replayable.aggregateValid
  refine ⟨valid.owned_keys, ?_, ?_⟩
  · intro package owned reference pinned
    obtain ⟨record, resolves⟩ := valid.references_resolve owned pinned
    exact ⟨record, fun later run => resolves.lasts reached run⟩
  · intro result recorded
    obtain ⟨before, policy, query, completed, replayed, same, -, retrieved⟩ :=
      reached.retrieval_origin RetrievalRecords.retrievalResults (fun _ _ => rfl) rfl recorded
    obtain rfl : result = completed := by simpa [RetrievalRecords.complete] using same
    have earlier := replayed.aggregateValid
    refine retrieve_without_stale (earlier.owned_identities .retentionPackage) ?_ retrieved
    intro package owned
    exact fresh_of_resolves _ fun reference pinned => earlier.references_resolve owned pinned

end

namespace Worked

def keptEvidence : OwnedMemoryRef :=
  makeOwnedMemoryRef .evidence "evidence-kept" 1 (.evidence (evidence "evidence-kept" "claim"))

def keptRoute : DirectUseRoute where
  id := "route"
  scopeFingerprint := scope.fingerprint
  bindingRevision := "binding"
  protectedHorizonId := "horizon"
  sourceRefs := [keptEvidence]
  provenanceRefs := ["provenance"]
  presentUseContractId := "use"

/-- A package that keeps one evidence record for direct use. -/
def keptPackage : RetentionRegistration where
  package := {
    id := "package"
    scopeFingerprint := scope.fingerprint
    bindingRevision := "binding"
    protectedHorizonId := "horizon"
    ownedRefs := [keptEvidence]
    directUseRouteIds := ["route"]
    provenanceRefs := ["provenance"] }
  directUseRoutes := [keptRoute]

/-- A query for evidence, over the index as it is after `sourceSequence` events. -/
def evidenceQuery (id : String) (sourceSequence : Nat) : RetrievalQuery where
  id := id
  policyId := "structural-exact-v1"
  policyVersion := "1"
  scopeFingerprint := scope.fingerprint
  bindingRevision := "binding"
  protectedHorizonId := "horizon"
  sourceSequence := sourceSequence
  sourceIndexFingerprint := "other"
  recordTypes := [.evidence]

def kept : List CommandBody :=
  start :: check "kept" "claim" ++ [.memory (.registerRetentionPackage keptPackage)]

def retrieved : List CommandBody := kept ++ [.memory (.runRetrieval "result" (evidenceQuery "query" 4))]

theorem retrieved_current :
    ((reached retrieved).retentionPackages.map (·.ownedRefs) = [[keptEvidence]] ∧
      (reached retrieved).retrievalResults.map (fun result => result.hits.map (·.packageId)) = [["package"]]) ∧
      ((reached retrieved).ownedMemoryRecords.map OwnedRecord.key).Nodup ∧
      (∀ package ∈ (reached retrieved).retentionPackages, ∀ reference ∈ package.ownedRefs,
        ∃ record, ∀ later, RunsTo (reached retrieved) later →
          reference.ResolvesTo later.ownedMemoryRecords record) ∧
      ∀ result ∈ (reached retrieved).retrievalResults, result.rejectedStalePackageIds = [] :=
  ⟨by decide +kernel, retained_references_current (reachable_reached retrieved)⟩

end Worked

end RatchetingInquiry
