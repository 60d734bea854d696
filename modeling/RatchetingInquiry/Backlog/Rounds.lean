import RatchetingInquiry.Backlog.Trace

/-! Rounds of reconciling findings, applying the authorized effects and closing items. A reconciliation works on a
projection of its own, the open items by fingerprint; what holds of a round is what keeps this projection and the
items that the effects are applied to in agreement. -/

namespace RatchetingInquiry

section
variable [Fingerprints]

/-- A reconciliation whose authorized effects are applied. -/
def reconcileAndApply (items : List BacklogItem) (findings : List BacklogFinding) :
    Except Failure (List BacklogItem) := do
  let effects ← reconcile items findings
  applyEffects items (authorized effects)

/-- The owner closes items. -/
def closeItems (ids : List String) (items : List BacklogItem) : List BacklogItem :=
  items.map (fun item => if item.id ∈ ids then { item with closed := true } else item)

/-- Backlogs that rounds over the used findings build from the empty one, with closing where it is permitted. -/
inductive BuiltBacklog (used : BacklogFinding → Prop) (mayClose : Prop) : List BacklogItem → Prop where
  | empty : BuiltBacklog used mayClose []
  | reconciled {items next : List BacklogItem} {findings : List BacklogFinding}
      (built : BuiltBacklog used mayClose items) (known : ∀ finding ∈ findings, used finding)
      (done : reconcileAndApply items findings = .ok next) : BuiltBacklog used mayClose next
  | closed {items : List BacklogItem} (built : BuiltBacklog used mayClose items) (permitted : mayClose)
      (ids : List String) : BuiltBacklog used mayClose (closeItems ids items)

/-- What is assumed of the digests of findings: they have 64 characters, and the first 16 tell them apart. -/
structure ToldByPrefix (used : BacklogFinding → Prop) : Prop where
  sized : ∀ finding, used finding → finding.fingerprint.length = 64
  apart : ∀ first second, used first → used second →
    leadingText 16 first.fingerprint = leadingText 16 second.fingerprint → first.fingerprint = second.fingerprint

/-- The text with which the identity of an item of this fingerprint begins. -/
def itemStem (fingerprint : String) : List Char := ("item_" ++ leadingText 16 fingerprint).toList

omit [Fingerprints] in
theorem itemStem_eq (fingerprint : String) : itemStem fingerprint = "item_".toList ++ fingerprint.toList.take 16 := by
  simp [itemStem, leadingText]

theorem itemStem_created (finding : BacklogFinding) :
    itemStem finding.fingerprint <+: finding.createdItemId.toList := by
  rw [itemStem_eq]
  unfold BacklogFinding.createdItemId
  split
  next =>
    refine ⟨"_".toList ++ (trailingText 7 finding.id).toList, ?_⟩
    simp [BacklogFinding.recurrenceItemId, leadingText]
  next =>
    have longer : finding.fingerprint.toList.take 16 <+: finding.fingerprint.toList.take 24 :=
      List.take_prefix_take_left (by omega)
    simp [leadingText, longer]

/-- An identity tells the fingerprint that it was made of. -/
theorem ToldByPrefix.same {used : BacklogFinding → Prop} (told : ToldByPrefix used) {first second : BacklogFinding}
    (one : used first) (two : used second) {id : List Char} (stem : itemStem first.fingerprint <+: id)
    (other : itemStem second.fingerprint <+: id) : first.fingerprint = second.fingerprint := by
  have sized (finding : BacklogFinding) (known : used finding) : (itemStem finding.fingerprint).length = 21 := by
    have long := told.sized finding known
    rw [← String.length_toList] at long
    simp [itemStem_eq, long]
  have sameStem : itemStem first.fingerprint = itemStem second.fingerprint := by
    have leads := List.prefix_of_prefix_length_le stem other (by rw [sized first one, sized second two])
    exact leads.eq_of_length (by rw [sized first one, sized second two])
  rw [itemStem_eq, itemStem_eq, List.append_cancel_left_eq] at sameStem
  apply told.apart first second one two
  unfold leadingText
  rw [sameStem]

/-- The items have different identities, which tell their fingerprints. -/
structure Identified (used : BacklogFinding → Prop) (items : List BacklogItem) : Prop where
  distinct : (items.map BacklogItem.id).Nodup
  spelled : ∀ item ∈ items, ∃ finding, used finding ∧ finding.fingerprint = item.fingerprint ∧
    itemStem finding.fingerprint <+: item.id.toList

/-- The projection that a reconciliation keeps, beside the items that its effects are applied to. -/
structure Projections where
  existing : List BacklogItem
  items : List BacklogItem

/-- One finding on both sides. -/
def Projections.settle (closed : List BacklogItem) (sides : Projections) (finding : BacklogFinding) : Projections where
  existing := recalled closed sides.existing finding
  items := upsert BacklogItem.id sides.items
    (settledItem closed sides.items (targetOf closed sides.existing finding) finding)

/-- Every projected item stands for an item, and every open item is projected. -/
structure Projections.Agree (used : BacklogFinding → Prop) (sides : Projections) : Prop extends
    Identified used sides.items where
  named : ∀ fingerprint projected, indexBy BacklogItem.fingerprint sides.existing fingerprint = some projected →
    ∃ item ∈ sides.items, item.id = projected.id ∧ item.fingerprint = fingerprint
  tracked : ∀ item ∈ sides.items, item.closed = false →
    ∃ projected, indexBy BacklogItem.fingerprint sides.existing item.fingerprint = some projected ∧
      projected.id = item.id

theorem recalled_self (closed existing : List BacklogItem) (finding : BacklogFinding) :
    ∃ projected, indexBy BacklogItem.fingerprint (recalled closed existing finding) finding.fingerprint =
      some projected ∧ projected.id = targetOf closed existing finding := by
  unfold recalled
  split
  next matched =>
    obtain ⟨projected, hit⟩ := Option.isSome_iff_exists.mp matched
    exact ⟨projected, hit, by rw [targetOf, hit]⟩
  next =>
    rw [indexBy_append_singleton, if_pos rfl]
    exact ⟨_, rfl, rfl⟩

theorem recalled_other (closed existing : List BacklogItem) {finding : BacklogFinding} {fingerprint : String}
    (differs : finding.fingerprint ≠ fingerprint) :
    indexBy BacklogItem.fingerprint (recalled closed existing finding) fingerprint =
      indexBy BacklogItem.fingerprint existing fingerprint := by
  unfold recalled
  split
  next => rfl
  next =>
    rw [indexBy_append_singleton]
    exact if_neg differs

theorem settledItem_id (closed items : List BacklogItem) (target : String) (finding : BacklogFinding) :
    (settledItem closed items target finding).id = target := by
  unfold settledItem
  cases there : indexBy BacklogItem.id items target with
  | some item => exact (indexBy_some there).2
  | none => rfl

section
variable {used : BacklogFinding → Prop} {closed : List BacklogItem} {sides : Projections} {finding : BacklogFinding}

/-- The target of a finding is spelled with its fingerprint. -/
theorem target_spelled (agree : sides.Agree used) (known : used finding) :
    ∃ other, used other ∧ other.fingerprint = finding.fingerprint ∧
      itemStem other.fingerprint <+: (targetOf closed sides.existing finding).toList := by
  unfold targetOf
  split
  next projected matched =>
    obtain ⟨item, owned, sameId, sameFingerprint⟩ := agree.named _ _ matched
    obtain ⟨other, usedToo, same, stem⟩ := agree.spelled item owned
    exact ⟨other, usedToo, same.trans sameFingerprint, sameId ▸ stem⟩
  next => exact ⟨finding, known, rfl, itemStem_created (finding.opening closed)⟩

/-- An item under the target of a finding has its fingerprint. -/
theorem target_fingerprint (told : ToldByPrefix used) (agree : sides.Agree used) (known : used finding)
    {item : BacklogItem} (owned : item ∈ sides.items) (keyed : item.id = targetOf closed sides.existing finding) :
    item.fingerprint = finding.fingerprint := by
  obtain ⟨first, usedFirst, sameFirst, stem⟩ := agree.spelled item owned
  obtain ⟨second, usedSecond, sameSecond, other⟩ := target_spelled agree known
  rw [← keyed] at other
  exact sameFirst.symm.trans ((told.same usedFirst usedSecond stem other).trans sameSecond)

theorem settledItem_fingerprint (told : ToldByPrefix used) (agree : sides.Agree used) (known : used finding) :
    (settledItem closed sides.items (targetOf closed sides.existing finding) finding).fingerprint =
      finding.fingerprint := by
  unfold settledItem
  cases there : indexBy BacklogItem.id sides.items (targetOf closed sides.existing finding) with
  | some item =>
    obtain ⟨owned, keyed⟩ := indexBy_some there
    have same : item.fingerprint = finding.fingerprint := target_fingerprint told agree known owned keyed
    exact same
  | none => rfl

/-- A finding leaves the items of other fingerprints as they are. -/
theorem settle_other (told : ToldByPrefix used) (agree : sides.Agree used) (known : used finding)
    {item : BacklogItem} (owned : item ∈ sides.items) (differs : item.fingerprint ≠ finding.fingerprint) :
    item ∈ (sides.settle closed finding).items := by
  apply mem_upsert.mpr
  refine .inr ⟨owned, ?_⟩
  rw [settledItem_id]
  exact fun keyed => differs (target_fingerprint told agree known owned keyed)

/-- What stands after a finding: the item of its target, and what stood under other identities. -/
theorem mem_settle {item : BacklogItem} : item ∈ (sides.settle closed finding).items ↔
    item = settledItem closed sides.items (targetOf closed sides.existing finding) finding ∨
      (item ∈ sides.items ∧ item.id ≠ targetOf closed sides.existing finding) := by
  unfold Projections.settle
  rw [mem_upsert, settledItem_id]

theorem settle_agree (told : ToldByPrefix used) (agree : sides.Agree used) (known : used finding) :
    (sides.settle closed finding).Agree used where
  distinct := upsert_nodup agree.distinct
  spelled := by
    intro item inside
    rcases mem_settle.mp inside with same | ⟨owned, -⟩
    · obtain ⟨other, usedToo, sameFingerprint, stem⟩ := target_spelled agree known
      rw [same, settledItem_fingerprint told agree known, settledItem_id]
      exact ⟨other, usedToo, sameFingerprint, stem⟩
    · exact agree.spelled item owned
  named := by
    intro fingerprint projected hit
    by_cases same : finding.fingerprint = fingerprint
    · obtain ⟨there, found, keyed⟩ := recalled_self closed sides.existing finding
      rw [same] at found
      obtain rfl : there = projected := Option.some.inj (found.symm.trans hit)
      refine ⟨_, mem_settle.mpr (.inl rfl), ?_, ?_⟩
      · rw [settledItem_id, keyed]
      · rw [settledItem_fingerprint told agree known, same]
    · have old : indexBy BacklogItem.fingerprint sides.existing fingerprint = some projected :=
        (recalled_other closed sides.existing same).symm.trans hit
      obtain ⟨item, owned, keyed, spelled⟩ := agree.named _ _ old
      refine ⟨item, settle_other told agree known owned ?_, keyed, spelled⟩
      exact fun equal => same (equal.symm.trans spelled)
  tracked := by
    intro item inside isOpen
    rcases mem_settle.mp inside with same | ⟨owned, elsewhere⟩
    · obtain ⟨there, found, keyed⟩ := recalled_self closed sides.existing finding
      rw [same, settledItem_fingerprint told agree known, settledItem_id]
      exact ⟨there, found, keyed⟩
    · obtain ⟨projected, hit, keyed⟩ := agree.tracked item owned isOpen
      by_cases same : finding.fingerprint = item.fingerprint
      · -- an open item of this fingerprint is the one that the finding matches
        rw [← same] at hit
        have target : targetOf closed sides.existing finding = projected.id := by rw [targetOf, hit]
        exact absurd (keyed.symm.trans target.symm) elsewhere
      · exact ⟨projected, (recalled_other closed sides.existing same).trans hit, keyed⟩

/-- Both sides agree after any findings. -/
theorem foldl_settle_agree (told : ToldByPrefix used) {findings : List BacklogFinding} (agree : sides.Agree used)
    (known : ∀ finding ∈ findings, used finding) : (findings.foldl (Projections.settle closed) sides).Agree used := by
  induction findings generalizing sides with
  | nil => exact agree
  | cons first rest ih =>
    have ⟨usedFirst, usedRest⟩ := List.forall_mem_cons.mp known
    exact ih (settle_agree told agree usedFirst) usedRest

/-- Applying the authorized effects of findings settles one after the other. -/
theorem apply_traceEffects (told : ToldByPrefix used) {findings : List BacklogFinding} (agree : sides.Agree used)
    (known : ∀ finding ∈ findings, used finding) :
    (authorized (traceEffects closed sides.existing findings)).foldlM applyEffect sides.items =
      .ok (findings.foldl (Projections.settle closed) sides).items := by
  induction findings generalizing sides with
  | nil => rfl
  | cons first rest ih =>
    have ⟨usedFirst, usedRest⟩ := List.forall_mem_cons.mp known
    have joined : indexBy BacklogItem.fingerprint sides.existing first.fingerprint ≠ none →
        targetOf closed sides.existing first ∈ sides.items.map BacklogItem.id := by
      intro matched
      obtain ⟨projected, hit⟩ := Option.ne_none_iff_exists'.mp matched
      obtain ⟨item, owned, keyed, -⟩ := agree.named _ _ hit
      rw [targetOf, hit]
      exact List.mem_map.mpr ⟨item, owned, keyed⟩
    have settled := apply_findingEffects agree.distinct joined
      (fun item owned keyed => target_fingerprint told agree usedFirst owned keyed)
    rw [traceEffects, authorized_append, List.foldlM_append, settled]
    exact ih (settle_agree told agree usedFirst) usedRest

end

/-- What holds of a backlog between rounds: of every fingerprint at most one item is open. -/
structure Standing (used : BacklogFinding → Prop) (items : List BacklogItem) : Prop extends Identified used items where
  single : ∀ item ∈ items, ∀ other ∈ items, item.closed = false → other.closed = false →
    item.fingerprint = other.fingerprint → item = other

/-- The sides from which a reconciliation starts. -/
def startingSides (items : List BacklogItem) : Projections where
  existing := items.filter (fun item => !item.closed)
  items

section
variable {used : BacklogFinding → Prop} {items : List BacklogItem} {findings : List BacklogFinding}

omit [Fingerprints] in
theorem indexBy_open_some {fingerprint : String} {projected : BacklogItem}
    (hit : indexBy BacklogItem.fingerprint (startingSides items).existing fingerprint = some projected) :
    projected ∈ items ∧ projected.closed = false ∧ projected.fingerprint = fingerprint := by
  obtain ⟨owned, spelled⟩ := indexBy_some hit
  obtain ⟨inside, isOpen⟩ := List.mem_filter.mp owned
  exact ⟨inside, by simpa using isOpen, spelled⟩

omit [Fingerprints] in
theorem indexBy_open_eq_none {fingerprint : String} :
    indexBy BacklogItem.fingerprint (startingSides items).existing fingerprint = none ↔
      ∀ item ∈ items, item.fingerprint = fingerprint → item.closed = true := by
  rw [indexBy_eq_none_iff, List.mem_map]
  constructor
  · intro absent item owned spelled
    by_contra isOpen
    exact absent ⟨item, List.mem_filter.mpr ⟨owned, by simpa using isOpen⟩, spelled⟩
  · intro allClosed ⟨item, owned, spelled⟩
    obtain ⟨inside, isOpen⟩ := List.mem_filter.mp owned
    have shut := allClosed item inside spelled
    simp [shut] at isOpen

theorem Standing.agree (standing : Standing used items) : (startingSides items).Agree used where
  toIdentified := standing.toIdentified
  named := by
    intro fingerprint projected hit
    obtain ⟨owned, -, spelled⟩ := indexBy_open_some hit
    exact ⟨projected, owned, rfl, spelled⟩
  tracked := by
    intro item owned isOpen
    cases hit : indexBy BacklogItem.fingerprint (startingSides items).existing item.fingerprint with
    | none =>
      have shut := indexBy_open_eq_none.mp hit item owned rfl
      rw [isOpen] at shut
      cases shut
    | some projected =>
      obtain ⟨inside, openToo, spelled⟩ := indexBy_open_some hit
      rw [standing.single projected inside item owned openToo isOpen spelled]
      exact ⟨item, rfl, rfl⟩

/-- The sides at the end of a round. -/
def settledSides (items : List BacklogItem) (findings : List BacklogFinding) : Projections :=
  (checkedFindings findings).foldl (Projections.settle (items.filter BacklogItem.closed)) (startingSides items)

omit [Fingerprints] in
theorem used_checked (known : ∀ finding ∈ findings, used finding) :
    ∀ finding ∈ checkedFindings findings, used finding :=
  fun finding listed => known finding (mem_checkedFindings.mp listed).1

theorem settledSides_agree (told : ToldByPrefix used) (standing : Standing used items)
    (known : ∀ finding ∈ findings, used finding) : (settledSides items findings).Agree used :=
  foldl_settle_agree told standing.agree (used_checked known)

/-- A round on a standing backlog never fails. -/
theorem reconcileAndApply_eq (told : ToldByPrefix used) (standing : Standing used items)
    (known : ∀ finding ∈ findings, used finding) :
    reconcileAndApply items findings = .ok (sortedItems (settledSides items findings).items) := by
  have applied := @apply_traceEffects _ _ (items.filter BacklogItem.closed) _ told (checkedFindings findings)
    standing.agree (used_checked known)
  have start : (startingSides items).items = items := rfl
  rw [start] at applied
  unfold reconcileAndApply applyEffects settledSides
  rw [reconcile_eq]
  exact congrArg (· >>= fun settled => pure (sortedItems settled)) applied

omit [Fingerprints] in
theorem sortedItems_perm (items : List BacklogItem) : (sortedItems items).Perm items := List.perm_insertionSort _ _

theorem Identified.perm {others : List BacklogItem} (identified : Identified used items) (same : others.Perm items) :
    Identified used others where
  distinct := (same.map BacklogItem.id).nodup_iff.mpr identified.distinct
  spelled := fun item owned => identified.spelled item (same.mem_iff.mp owned)

/-- Of every fingerprint at most one item is open where both sides agree. -/
theorem Projections.Agree.single {sides : Projections} (agree : sides.Agree used) :
    ∀ item ∈ sides.items, ∀ other ∈ sides.items, item.closed = false → other.closed = false →
      item.fingerprint = other.fingerprint → item = other := by
  intro item owned other ownedToo isOpen openToo same
  obtain ⟨first, hit, keyed⟩ := agree.tracked item owned isOpen
  obtain ⟨second, hitToo, keyedToo⟩ := agree.tracked other ownedToo openToo
  rw [same, hitToo] at hit
  have one : first = second := (Option.some.inj hit).symm
  exact List.inj_on_of_nodup_map agree.distinct owned ownedToo (keyed.symm.trans (one ▸ keyedToo))

theorem closeItems_standing (standing : Standing used items) (ids : List String) :
    Standing used (closeItems ids items) where
  distinct := by
    have same : (closeItems ids items).map BacklogItem.id = items.map BacklogItem.id := by
      unfold closeItems
      rw [List.map_map]
      apply List.map_congr_left
      intro item _
      rw [Function.comp_apply]
      split <;> rfl
    rw [same]
    exact standing.distinct
  spelled := by
    intro item owned
    obtain ⟨prior, inside, rfl⟩ := List.mem_map.mp owned
    split
    next => exact standing.spelled prior inside
    next => exact standing.spelled prior inside
  single := by
    intro item owned other ownedToo isOpen openToo same
    obtain ⟨first, inside, rfl⟩ := List.mem_map.mp owned
    obtain ⟨second, insideToo, rfl⟩ := List.mem_map.mp ownedToo
    by_cases one : first.id ∈ ids
    · simp [one] at isOpen
    by_cases two : second.id ∈ ids
    · simp [two] at openToo
    rw [if_neg one] at isOpen same ⊢
    rw [if_neg two] at openToo same ⊢
    exact standing.single first inside second insideToo isOpen openToo same

/-- A backlog that rounds have built stands. -/
theorem BuiltBacklog.standing {mayClose : Prop} (told : ToldByPrefix used) (built : BuiltBacklog used mayClose items) :
    Standing used items := by
  induction built with
  | empty => exact ⟨⟨List.nodup_nil, by simp⟩, by simp⟩
  | @reconciled items next findings built known done ih =>
    rw [reconcileAndApply_eq told ih known] at done
    have agree := settledSides_agree told ih known
    obtain rfl := Except.ok.inj done
    have same := sortedItems_perm (settledSides items findings).items
    refine ⟨agree.toIdentified.perm same, ?_⟩
    intro item owned other ownedToo
    exact agree.single item (same.mem_iff.mp owned) other (same.mem_iff.mp ownedToo)
  | closed built permitted ids ih => exact closeItems_standing ih ids

end

end

end RatchetingInquiry
