import RatchetingInquiry.Core.Run

/-! The conservative semantic field. Structures are listed by the first group that names them, and the bound
cuts the list: what overflows is never more urgent than what is included. -/

namespace RatchetingInquiry

/-- Keeping the first of each item adds the new ones behind what was there. -/
theorem foldl_unseen (items known : List String) : ∃ added,
    items.foldl (fun ordered item => if item ∈ ordered then ordered else ordered ++ [item]) known = known ++ added ∧
      (∀ item ∈ added, item ∈ items ∧ item ∉ known) ∧ added.Nodup ∧
      ∀ item ∈ items, item ∈ known ++ added := by
  induction items generalizing known with
  | nil => exact ⟨[], by simp⟩
  | cons first rest ih =>
    rw [List.foldl_cons]
    by_cases seen : first ∈ known
    · rw [if_pos seen]
      obtain ⟨added, grown, fresh, distinct, covers⟩ := ih known
      refine ⟨added, grown, ?_, distinct, ?_⟩
      · exact fun item owned => ⟨List.mem_cons_of_mem _ (fresh item owned).1, (fresh item owned).2⟩
      · intro item owned
        rcases List.mem_cons.mp owned with same | later
        · exact same ▸ List.mem_append_left _ seen
        · exact covers item later
    · rw [if_neg seen]
      obtain ⟨added, grown, fresh, distinct, covers⟩ := ih (known ++ [first])
      rw [List.append_assoc] at grown covers
      refine ⟨[first] ++ added, grown, ?_, ?_, ?_⟩
      · intro item owned
        rcases List.mem_cons.mp owned with same | later
        · exact ⟨same ▸ List.mem_cons_self, same ▸ seen⟩
        · obtain ⟨member, new⟩ := fresh item later
          exact ⟨List.mem_cons_of_mem _ member, fun old => new (List.mem_append_left _ old)⟩
      · refine List.nodup_cons.mpr ⟨?_, distinct⟩
        intro again
        exact (fresh first again).2 (List.mem_append_right _ (List.mem_singleton_self _))
      · intro item owned
        rcases List.mem_cons.mp owned with same | later
        · rw [same]
          exact List.mem_append_right _ List.mem_cons_self
        · exact covers item later

/-- The listed structures are those of the groups, each once. -/
theorem mem_orderedStructureIds {groups : List (List String)} {structureId : String} :
    structureId ∈ orderedStructureIds groups ↔ structureId ∈ groups.flatten := by
  obtain ⟨added, grown, fresh, -, covers⟩ :=
    foldl_unseen (groups.flatMap (fun group => sortedIds group.dedup)) []
  have listed : structureId ∈ groups.flatMap (fun group => sortedIds group.dedup) ↔ structureId ∈ groups.flatten := by
    simp only [List.mem_flatMap, List.mem_flatten, mem_sortedIds, List.mem_dedup]
  rw [orderedStructureIds, grown, List.nil_append, ← listed]
  constructor
  · exact fun owned => (fresh structureId owned).1
  · exact fun owned => by simpa using covers structureId owned

theorem orderedStructureIds_nodup (groups : List (List String)) : (orderedStructureIds groups).Nodup := by
  obtain ⟨added, grown, -, distinct, -⟩ := foldl_unseen (groups.flatMap (fun group => sortedIds group.dedup)) []
  rw [orderedStructureIds, grown, List.nil_append]
  exact distinct

/-- The structures of earlier groups come first. -/
theorem orderedStructureIds_append (higher lower : List (List String)) : ∃ added,
    orderedStructureIds (higher ++ lower) = orderedStructureIds higher ++ added ∧
      ∀ structureId ∈ added, structureId ∉ orderedStructureIds higher := by
  obtain ⟨added, grown, fresh, -, -⟩ :=
    foldl_unseen (lower.flatMap (fun group => sortedIds group.dedup)) (orderedStructureIds higher)
  refine ⟨added, ?_, fun structureId owned => (fresh structureId owned).2⟩
  rw [← grown, orderedStructureIds, List.flatMap_append, List.foldl_append]
  rfl

theorem sortedIds_dedup_congr {values others : List String} (same : ∀ value, value ∈ others ↔ value ∈ values) :
    sortedIds others.dedup = sortedIds values.dedup := by
  apply sortedIds_eq_of_perm
  rw [List.perm_ext_iff_of_nodup (List.nodup_dedup _) (List.nodup_dedup _)]
  intro value
  rw [List.mem_dedup, List.mem_dedup, same]

theorem sortedIds_dedup_canonical (values : List String) : CanonicalIds (sortedIds values.dedup) :=
  sortedIds_canonical (List.nodup_dedup _)

/-- The four groups of a field, the most urgent first. -/
def structureGroups (safety exception dependency retrieval : List String) : List (List String) :=
  [safety, exception, dependency, retrieval]

section
variable [Fingerprints] {probeIdentity : ProbeIdentity} {sourceSequence : Nat} {policy : SemanticFieldPolicy}
  {safety exception dependency retrieval : List String}

theorem deriveConservativeField_congr {otherSafety otherException otherDependency otherRetrieval : List String}
    (sameSafety : ∀ structureId, structureId ∈ otherSafety ↔ structureId ∈ safety)
    (sameException : ∀ structureId, structureId ∈ otherException ↔ structureId ∈ exception)
    (sameDependency : ∀ structureId, structureId ∈ otherDependency ↔ structureId ∈ dependency)
    (sameRetrieval : ∀ structureId, structureId ∈ otherRetrieval ↔ structureId ∈ retrieval) :
    deriveConservativeField probeIdentity sourceSequence policy otherSafety otherException otherDependency
        otherRetrieval =
      deriveConservativeField probeIdentity sourceSequence policy safety exception dependency retrieval := by
  have ordered : orderedStructureIds [otherSafety, otherException, otherDependency, otherRetrieval] =
      orderedStructureIds [safety, exception, dependency, retrieval] := by
    simp only [orderedStructureIds, List.flatMap_cons, List.flatMap_nil, sortedIds_dedup_congr sameSafety,
      sortedIds_dedup_congr sameException, sortedIds_dedup_congr sameDependency, sortedIds_dedup_congr sameRetrieval]
  have required : sortedIds (otherSafety ++ otherException ++ otherDependency).dedup =
      sortedIds (safety ++ exception ++ dependency).dedup := by
    apply sortedIds_dedup_congr
    intro structureId
    simp only [List.mem_append, sameSafety, sameException, sameDependency]
  unfold deriveConservativeField
  rw [ordered, required, sortedIds_dedup_congr sameRetrieval]

/-- The field, the required structures and the overflow that the code derives. -/
structure DerivedField (policy : SemanticFieldPolicy) (probeIdentity : ProbeIdentity)
    (safety exception dependency retrieval : List String) (field : SemanticField) (required overflow : List String) :
    Prop where
  probe : field.probeFingerprint = probeIdentity.fingerprint
  included : field.items.map SemanticItem.structureId =
    (orderedStructureIds (structureGroups safety exception dependency retrieval)).take policy.maximumItems
  active : ∀ item ∈ field.items, item.relevance = .active
  required : required = sortedIds (safety ++ exception ++ dependency).dedup
  overflow : overflow = sortedIds
    ((orderedStructureIds (structureGroups safety exception dependency retrieval)).drop policy.maximumItems)

/-- A field of active items is built when no item and no retrieval result is repeated. -/
theorem buildSemanticField_active {included results : List String} (distinct : included.Nodup)
    (unique : results.Nodup) : ∃ field,
    buildSemanticField probeIdentity probeIdentity.protectedHorizonId
        (included.map (fun item => { structureId := item, relevance := .active })) [] [] results [] [] [] = .ok field ∧
      field.probeFingerprint = probeIdentity.fingerprint ∧
      field.items = included.map (fun item => { structureId := item, relevance := .active }) := by
  have relevant : (included.map (fun item => ({ structureId := item, relevance := .active } : SemanticItem))).filter
      (fun item => item.relevance = .irrelevant) = [] := by
    rw [List.filter_eq_nil_iff]
    intro item owned
    obtain ⟨structureId, -, same⟩ := List.mem_map.mp owned
    rw [← same]
    simp
  have items : (included.map (fun item => ({ structureId := item, relevance := .active } : SemanticItem))).map
      SemanticItem.structureId = included := by
    rw [List.map_map]
    exact List.map_id _
  have valid : ∀ field : SemanticField,
      field.items = included.map (fun item => { structureId := item, relevance := .active }) →
      field.sameProbeHistoryEventIds = [] → field.crossProbeTraceIds = [] → field.retrievalResultIds = results →
      field.methodContractIds = [] → field.reopeningConditionIds = [] → field.validateField = .ok field := by
    intro field listed history crossProbe retrieved methods reopening
    rw [SemanticField.validateField, require_bind_eq_ok, require_bind_eq_ok, listed, items, history, crossProbe,
      retrieved, methods, reopening]
    exact ⟨distinct, ⟨List.nodup_nil, List.nodup_nil, unique, List.nodup_nil, List.nodup_nil⟩, rfl⟩
  rw [buildSemanticField, relevant]
  exact ⟨_, require_bind_eq_ok.mpr ⟨List.nil_subset _, require_bind_eq_ok.mpr ⟨List.nil_subset _,
    valid _ rfl rfl rfl rfl rfl rfl⟩⟩, rfl, rfl⟩

theorem deriveConservativeField_ok
    (named : "" ∉ (structureGroups safety exception dependency retrieval).flatten) :
    ∃ field required overflow index,
      deriveConservativeField probeIdentity sourceSequence policy safety exception dependency retrieval =
        .ok (field, required, overflow, index) ∧
      DerivedField policy probeIdentity safety exception dependency retrieval field required overflow := by
  have distinct : ((orderedStructureIds [safety, exception, dependency, retrieval]).take policy.maximumItems).Nodup :=
    (orderedStructureIds_nodup _).sublist (List.take_sublist _ _)
  have nonempty : "" ∉ (orderedStructureIds [safety, exception, dependency, retrieval]).take policy.maximumItems :=
    fun owned => named (mem_orderedStructureIds.mp (List.mem_of_mem_take owned))
  have unique : (sortedIds retrieval.dedup).Nodup := (sortedIds_perm _).nodup_iff.mpr (List.nodup_dedup _)
  obtain ⟨field, built, probe, items⟩ := @buildSemanticField_active _ probeIdentity _ _ distinct unique
  refine ⟨field, _, _, Fingerprints.digest (.fieldIndex sourceSequence
    (orderedStructureIds [safety, exception, dependency, retrieval])), ?_, ⟨probe, ?_, ?_, rfl, rfl⟩⟩
  · rw [deriveConservativeField, require_bind_eq_ok]
    refine ⟨nonempty, ?_⟩
    rw [built]
    rfl
  · rw [items, List.map_map]
    exact List.map_id _
  · intro item owned
    rw [items] at owned
    obtain ⟨structureId, -, same⟩ := List.mem_map.mp owned
    rw [← same]

section
variable {field : SemanticField} {required overflow : List String}

theorem DerivedField.mem_overflow
    (derived : DerivedField policy probeIdentity safety exception dependency retrieval field required overflow)
    {structureId : String} : structureId ∈ overflow ↔ structureId ∈
      (orderedStructureIds (structureGroups safety exception dependency retrieval)).drop policy.maximumItems := by
  rw [derived.overflow, mem_sortedIds]

/-- Included and overflowing structures together are those of the four groups, each once. -/
theorem DerivedField.partition
    (derived : DerivedField policy probeIdentity safety exception dependency retrieval field required overflow) :
    (field.items.map SemanticItem.structureId ++ overflow).Nodup ∧
      ∀ structureId, structureId ∈ field.items.map SemanticItem.structureId ++ overflow ↔
        structureId ∈ (structureGroups safety exception dependency retrieval).flatten := by
  have whole : (field.items.map SemanticItem.structureId ++ overflow).Perm
      (orderedStructureIds (structureGroups safety exception dependency retrieval)) := by
    rw [derived.included, derived.overflow]
    have sorted := sortedIds_perm
      ((orderedStructureIds (structureGroups safety exception dependency retrieval)).drop policy.maximumItems)
    refine (sorted.append_left _).trans ?_
    rw [List.take_append_drop]
  refine ⟨whole.nodup_iff.mpr (orderedStructureIds_nodup _), ?_⟩
  intro structureId
  rw [whole.mem_iff, mem_orderedStructureIds]

/-- The bound holds, and only a full field overflows. -/
theorem DerivedField.bounded
    (derived : DerivedField policy probeIdentity safety exception dependency retrieval field required overflow) :
    field.items.length ≤ policy.maximumItems ∧
      (overflow ≠ [] → field.items.length = policy.maximumItems) := by
  have length : field.items.length =
      min policy.maximumItems (orderedStructureIds (structureGroups safety exception dependency retrieval)).length := by
    rw [← List.length_take, ← derived.included, List.length_map]
  refine ⟨by omega, ?_⟩
  intro some
  obtain ⟨displaced, rest, same⟩ := List.exists_cons_of_ne_nil some
  have owned : displaced ∈ overflow := by
    rw [same]
    exact List.mem_cons_self
  have left := List.length_pos_of_mem (derived.mem_overflow.mp owned)
  rw [List.length_drop] at left
  omega

/-- When a structure of the earlier groups overflows, only structures of these groups are included. -/
theorem DerivedField.priority
    (derived : DerivedField policy probeIdentity safety exception dependency retrieval field required overflow)
    {higher lower : List (List String)} (split : higher ++ lower = structureGroups safety exception dependency retrieval)
    {displaced structureId : String} (overflows : displaced ∈ overflow) (urgent : displaced ∈ higher.flatten)
    (included : structureId ∈ field.items.map SemanticItem.structureId) : structureId ∈ higher.flatten := by
  obtain ⟨added, grown, fresh⟩ := orderedStructureIds_append higher lower
  rw [split] at grown
  rw [derived.mem_overflow, grown] at overflows
  rw [derived.included, grown] at included
  rw [← mem_orderedStructureIds] at urgent ⊢
  rcases Nat.lt_or_ge policy.maximumItems (orderedStructureIds higher).length with short | long
  · rw [List.take_append_of_le_length (le_of_lt short)] at included
    exact List.mem_of_mem_take included
  · rw [List.drop_append, List.drop_eq_nil_of_le long, List.nil_append] at overflows
    exact absurd urgent (fresh displaced (List.mem_of_mem_drop overflows))

/-- What an evaluation must satisfy to be built. -/
structure SemanticFieldEvaluation.IsValid (evaluation : SemanticFieldEvaluation) : Prop where
  identified : ∀ structureId ∈ evaluation.requiredStructureIds ++ evaluation.includedStructureIds ++
    evaluation.overflowStructureIds ++ evaluation.irrelevantStructureIds, isIdentifier structureId
  field_embedded : evaluation.field.id = evaluation.fieldId
  field_fingerprint : Fingerprints.digest (.semanticFieldRecord evaluation.field) = evaluation.fieldFingerprint
  probe_named : evaluation.field.probeFingerprint = evaluation.probeFingerprint
  required_canonical : CanonicalIds evaluation.requiredStructureIds
  included_canonical : CanonicalIds evaluation.includedStructureIds
  overflow_canonical : CanonicalIds evaluation.overflowStructureIds
  irrelevant_canonical : CanonicalIds evaluation.irrelevantStructureIds
  disjoint : ∀ item ∈ evaluation.includedStructureIds, item ∉ evaluation.overflowStructureIds
  status_exact : evaluation.status =
    if evaluation.requiredStructureIds ⊆ evaluation.includedStructureIds ∧ evaluation.overflowStructureIds = [] then
      .valid else .incomplete

theorem SemanticFieldEvaluation.IsValid.validates {evaluation : SemanticFieldEvaluation} (valid : evaluation.IsValid) :
    evaluation.validateEvaluation = .ok evaluation := by
  simp only [SemanticFieldEvaluation.validateEvaluation, require_bind_eq_ok]
  exact ⟨valid.identified, valid.field_embedded, valid.field_fingerprint, valid.probe_named, valid.required_canonical,
    valid.included_canonical, valid.overflow_canonical, valid.irrelevant_canonical, valid.disjoint,
    valid.status_exact, rfl⟩

/-- The evaluation of a derived field passes its validator, and it is valid just when nothing overflows. -/
theorem DerivedField.evaluated
    (derived : DerivedField policy probeIdentity safety exception dependency retrieval field required overflow)
    (identified : ∀ structureId ∈ (structureGroups safety exception dependency retrieval).flatten,
      isIdentifier structureId) (evaluationId : String) (sourceSequence : Nat) (sourceIndex : String) :
    ∃ evaluation, evaluateConservativeField evaluationId field policy sourceSequence sourceIndex
        probeIdentity.fingerprint required overflow = .ok evaluation ∧
      (evaluation.status = .valid ↔ overflow = []) := by
  have irrelevant : field.items.filter (fun item => item.relevance = .irrelevant) = [] := by
    rw [List.filter_eq_nil_iff]
    intro item owned
    rw [derived.active item owned]
    simp
  obtain ⟨distinct, members⟩ := derived.partition
  obtain ⟨includedDistinct, overflowDistinct, disjoint⟩ := List.nodup_append.mp distinct
  have known : ∀ structureId, structureId ∈ field.items.map SemanticItem.structureId ∨ structureId ∈ overflow →
      isIdentifier structureId := by
    intro structureId owned
    exact identified structureId ((members structureId).mp (List.mem_append.mpr owned))
  have requiredOwned : ∀ structureId ∈ required,
      structureId ∈ field.items.map SemanticItem.structureId ∨ structureId ∈ overflow := by
    intro structureId owned
    rw [derived.required, mem_sortedIds, List.mem_dedup] at owned
    refine List.mem_append.mp ((members structureId).mpr ?_)
    simp only [structureGroups, List.flatten_cons, List.mem_append] at owned ⊢
    tauto
  have none : sortedIds overflow.dedup = [] ↔ overflow = [] := by
    simp only [List.eq_nil_iff_forall_not_mem, mem_sortedIds, List.mem_dedup]
  have covered : overflow = [] →
      sortedIds required.dedup ⊆ sortedIds (field.items.map SemanticItem.structureId) := by
    intro empty structureId owned
    rw [mem_sortedIds] at owned ⊢
    rcases requiredOwned structureId (List.mem_dedup.mp owned) with included | displaced
    · exact included
    · rw [empty] at displaced
      exact absurd displaced List.not_mem_nil
  unfold evaluateConservativeField
  rw [irrelevant]
  dsimp only
  refine ⟨_, SemanticFieldEvaluation.IsValid.validates ⟨?_, rfl, rfl, derived.probe, sortedIds_dedup_canonical _,
    sortedIds_canonical includedDistinct, sortedIds_dedup_canonical _, List.Pairwise.nil, ?_, rfl⟩, ?_⟩
  · intro structureId owned
    simp only [List.mem_append, mem_sortedIds, List.mem_dedup, List.map_nil, List.not_mem_nil, or_false] at owned
    rcases owned with (needed | included) | displaced
    · exact known structureId (requiredOwned structureId needed)
    · exact known structureId (.inl included)
    · exact known structureId (.inr displaced)
  · intro structureId included displaced
    rw [mem_sortedIds] at included displaced
    exact disjoint structureId included structureId (List.mem_dedup.mp displaced) rfl
  · dsimp only
    constructor
    · intro valid
      by_contra some
      rw [if_neg (fun both => some (none.mp both.2))] at valid
      exact absurd valid (by decide)
    · exact fun empty => if_pos ⟨covered empty, none.mpr empty⟩

end

/-- The conservative field is exact: included and overflowing structures partition the four groups, at most the
bound is included and only a full field overflows, nothing less urgent displaces what overflows, the order and
repetition of the ids do not matter, and the evaluation of the outputs is valid just when nothing overflows. -/
theorem conservative_field_exact (probeIdentity : ProbeIdentity) (sourceSequence : Nat) (policy : SemanticFieldPolicy)
    (safety exception dependency retrieval : List String)
    (identified : ∀ structureId ∈ safety ++ exception ++ dependency ++ retrieval, isIdentifier structureId) :
    ∃ field required overflow index,
      deriveConservativeField probeIdentity sourceSequence policy safety exception dependency retrieval =
        .ok (field, required, overflow, index) ∧
      (field.items.map SemanticItem.structureId ++ overflow).Nodup ∧
      (∀ structureId, structureId ∈ field.items.map SemanticItem.structureId ++ overflow ↔
        structureId ∈ safety ++ exception ++ dependency ++ retrieval) ∧
      (∀ structureId, structureId ∈ required ↔ structureId ∈ safety ++ exception ++ dependency) ∧
      field.items.length ≤ policy.maximumItems ∧
      (overflow ≠ [] → field.items.length = policy.maximumItems) ∧
      (∀ higher lower, higher ++ lower = [safety, exception, dependency, retrieval] →
        ∀ displaced ∈ overflow, displaced ∈ higher.flatten →
          ∀ structureId ∈ field.items.map SemanticItem.structureId, structureId ∈ higher.flatten) ∧
      (∀ otherSafety otherException otherDependency otherRetrieval : List String,
        (∀ structureId, structureId ∈ otherSafety ↔ structureId ∈ safety) →
        (∀ structureId, structureId ∈ otherException ↔ structureId ∈ exception) →
        (∀ structureId, structureId ∈ otherDependency ↔ structureId ∈ dependency) →
        (∀ structureId, structureId ∈ otherRetrieval ↔ structureId ∈ retrieval) →
        deriveConservativeField probeIdentity sourceSequence policy otherSafety otherException otherDependency
          otherRetrieval = .ok (field, required, overflow, index)) ∧
      ∀ evaluationId, ∃ evaluation,
        evaluateConservativeField evaluationId field policy sourceSequence index probeIdentity.fingerprint required
          overflow = .ok evaluation ∧
        (evaluation.status = .valid ↔ overflow = []) := by
  have flattened : ∀ structureId, structureId ∈ (structureGroups safety exception dependency retrieval).flatten ↔
      structureId ∈ safety ++ exception ++ dependency ++ retrieval := by
    intro structureId
    simp only [structureGroups, List.flatten_cons, List.flatten_nil, List.append_nil, List.append_assoc]
  have allIdentified : ∀ structureId ∈ (structureGroups safety exception dependency retrieval).flatten,
      isIdentifier structureId :=
    fun structureId owned => identified structureId ((flattened structureId).mp owned)
  have named : "" ∉ (structureGroups safety exception dependency retrieval).flatten :=
    fun owned => absurd (allIdentified "" owned) (by decide)
  obtain ⟨field, required, overflow, index, built, derived⟩ :=
    @deriveConservativeField_ok _ probeIdentity sourceSequence policy _ _ _ _ named
  obtain ⟨distinct, members⟩ := derived.partition
  obtain ⟨bound, full⟩ := derived.bounded
  refine ⟨field, required, overflow, index, built, distinct, ?_, ?_, bound, full, ?_, ?_, ?_⟩
  · exact fun structureId => (members structureId).trans (flattened structureId)
  · intro structureId
    rw [derived.required, mem_sortedIds, List.mem_dedup]
  · intro higher lower split displaced overflows urgent structureId included
    exact derived.priority split overflows urgent included
  · intro otherSafety otherException otherDependency otherRetrieval sameSafety sameException sameDependency sameRetrieval
    rw [← built]
    exact deriveConservativeField_congr sameSafety sameException sameDependency sameRetrieval
  · exact fun evaluationId => derived.evaluated allIdentified evaluationId sourceSequence index

end

namespace Worked

def fieldProbe : ProbeIdentity where
  questionContractKey := "question@1.0.0"
  relationalRole := "characterize"
  bindingSchemaId := "schema"
  bindingRevision := "binding"
  scopeFingerprint := "scope"
  comparisonSemanticsId := "comparison"
  applicabilityGuardId := "always"
  protectedHorizonId := "horizon"

/-- More retrieved structures than a field holds. -/
def crowd : List String := (List.range 40).map (fun number => "retrieved:" ++ toString number)

theorem crowd_named : (∀ structureId ∈ ["safety:1", "safety:0"] ++ ["shared"] ++ ["shared"] ++ crowd,
    isIdentifier structureId) ∧ crowd.Nodup := by
  decide +kernel

/-- A structure that is both an exception and a dependency is included once, and of the retrieved ones some are left
out of the full field. -/
theorem sharedStructure_included : ∃ field required overflow index,
    deriveConservativeField fieldProbe 7 .conservativeQuestionV1 ["safety:1", "safety:0"] ["shared"] ["shared"]
        crowd = .ok (field, required, overflow, index) ∧
      (field.items.map SemanticItem.structureId ++ overflow).Nodup ∧ field.items.length = 32 ∧ overflow ≠ [] ∧
      (∀ structureId, structureId ∈ required ↔ structureId ∈ ["safety:1", "safety:0", "shared", "shared"]) ∧
      ∃ evaluation, evaluateConservativeField "evaluation" field .conservativeQuestionV1 7 index fieldProbe.fingerprint
          required overflow = .ok evaluation ∧ evaluation.status ≠ .valid := by
  obtain ⟨field, required, overflow, index, derived, distinct, owned, needed, bound, full, -, -, evaluated⟩ :=
    conservative_field_exact fieldProbe 7 .conservativeQuestionV1 ["safety:1", "safety:0"] ["shared"] ["shared"] crowd
      crowd_named.1
  -- Without overflow the field would hold the whole crowd.
  have overflows : overflow ≠ [] := by
    intro none
    have held : crowd ⊆ field.items.map SemanticItem.structureId := by
      intro structureId member
      have listed := (owned structureId).mpr (List.mem_append_right _ member)
      rw [none, List.append_nil] at listed
      exact listed
    have crowded := (crowd_named.2.subperm held).length_le
    have size : crowd.length = 40 := by simp [crowd]
    have limit : field.items.length ≤ 32 := bound
    rw [List.length_map, size] at crowded
    omega
  obtain ⟨evaluation, evaluates, valid⟩ := evaluated "evaluation"
  refine ⟨field, required, overflow, index, derived, distinct, full overflows, overflows, needed, evaluation, evaluates, ?_⟩
  intro accepted
  exact overflows (valid.mp accepted)

end Worked

end RatchetingInquiry
