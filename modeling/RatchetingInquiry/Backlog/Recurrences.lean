import RatchetingInquiry.Backlog.Rounds
import RatchetingInquiry.Core.Run

/-! Recurring findings. A finding whose item was closed opens a new item beside it, whose identity is made of the
fingerprint and the end of the identity of the finding. Where an earlier recurrence has left a closed item under
this identity, nothing is opened, and ranking goes to the closed item. -/

namespace RatchetingInquiry

section
variable [Fingerprints]

/-- The open items of a fingerprint. -/
def openItems (items : List BacklogItem) (fingerprint : String) : List BacklogItem :=
  items.filter (fun item => !item.closed ∧ item.fingerprint = fingerprint)

omit [Fingerprints] in
theorem mem_openItems {items : List BacklogItem} {fingerprint : String} {item : BacklogItem} :
    item ∈ openItems items fingerprint ↔ item ∈ items ∧ item.closed = false ∧ item.fingerprint = fingerprint := by
  simp [openItems]

/-- The finding that opens an item of a fingerprint: the first in the order of the reconciliation. -/
def leadingFinding (findings : List BacklogFinding) (fingerprint : String) : Option BacklogFinding :=
  findings.find? (fun finding => finding.fingerprint = fingerprint)

theorem leadingFinding_cons (first : BacklogFinding) (rest : List BacklogFinding) (fingerprint : String) :
    leadingFinding (first :: rest) fingerprint =
      if first.fingerprint = fingerprint then some first else leadingFinding rest fingerprint := by
  unfold leadingFinding
  rw [List.find?_cons]
  by_cases same : first.fingerprint = fingerprint
  · simp [same]
  · simp [same]

theorem leadingFinding_some {findings : List BacklogFinding} {fingerprint : String} {finding : BacklogFinding}
    (leads : leadingFinding findings fingerprint = some finding) :
    finding ∈ findings ∧ finding.fingerprint = fingerprint :=
  ⟨List.mem_of_find?_eq_some leads, by simpa using List.find?_some leads⟩

/-- No fingerprint without an open item comes back under an identity of the backlog. -/
def RecurrencesFresh (items : List BacklogItem) (findings : List BacklogFinding) : Prop :=
  ∀ finding ∈ findings, leadingFinding (checkedFindings findings) finding.fingerprint = some finding →
    (∀ item ∈ items, item.fingerprint = finding.fingerprint → item.closed = true) →
    (finding.recurrenceOf.isSome ∨ ∃ item ∈ items, item.fingerprint = finding.fingerprint) →
    finding.recurrenceItemId ∉ items.map BacklogItem.id

instance (items : List BacklogItem) (findings : List BacklogFinding) : Decidable (RecurrencesFresh items findings) :=
  inferInstanceAs (Decidable (∀ finding ∈ findings,
    leadingFinding (checkedFindings findings) finding.fingerprint = some finding →
    (∀ item ∈ items, item.fingerprint = finding.fingerprint → item.closed = true) →
    (finding.recurrenceOf.isSome ∨ ∃ item ∈ items, item.fingerprint = finding.fingerprint) →
    finding.recurrenceItemId ∉ items.map BacklogItem.id))

section
variable {used : BacklogFinding → Prop} {closed : List BacklogItem} {sides : Projections}
  {findings : List BacklogFinding}

/-- The items that the projection of a reconciliation stands for are open. -/
def Projections.Live (sides : Projections) : Prop :=
  ∀ fingerprint projected, indexBy BacklogItem.fingerprint sides.existing fingerprint = some projected →
    ∀ item ∈ sides.items, item.id = projected.id → item.closed = false

/-- What an unmatched fingerprint opens has a new identity. -/
def Projections.OpensFresh (closed : List BacklogItem) (sides : Projections) (findings : List BacklogFinding) : Prop :=
  ∀ fingerprint finding, leadingFinding findings fingerprint = some finding →
    indexBy BacklogItem.fingerprint sides.existing fingerprint = none →
    (finding.opening closed).createdItemId ∉ sides.items.map BacklogItem.id

theorem settledItem_closed {items : List BacklogItem} {target : String} {finding : BacklogFinding}
    (distinct : (items.map BacklogItem.id).Nodup) {item : BacklogItem} (owned : item ∈ items)
    (keyed : item.id = target) : (settledItem closed items target finding).closed = item.closed := by
  unfold settledItem
  rw [← keyed, indexBy_of_mem distinct owned]
  rfl

theorem settledItem_opened {items : List BacklogItem} {target : String} {finding : BacklogFinding}
    (absent : target ∉ items.map BacklogItem.id) : (settledItem closed items target finding).closed = false := by
  unfold settledItem
  rw [indexBy_eq_none_iff.mpr absent]
  rfl

/-- The item of a finding is open after it, unless it opens one under an identity that exists. -/
theorem settledItem_live (agree : sides.Agree used) (live : sides.Live) {finding : BacklogFinding}
    (fresh : indexBy BacklogItem.fingerprint sides.existing finding.fingerprint = none →
      (finding.opening closed).createdItemId ∉ sides.items.map BacklogItem.id) :
    (settledItem closed sides.items (targetOf closed sides.existing finding) finding).closed = false ∧
      ∀ item ∈ sides.items, item.id = targetOf closed sides.existing finding → item.closed = false := by
  unfold targetOf
  cases matched : indexBy BacklogItem.fingerprint sides.existing finding.fingerprint with
  | none =>
    refine ⟨settledItem_opened (fresh matched), ?_⟩
    intro item owned keyed
    exact absurd (List.mem_map.mpr ⟨item, owned, keyed⟩) (fresh matched)
  | some projected =>
    obtain ⟨item, owned, keyed, -⟩ := agree.named _ _ matched
    refine ⟨?_, live _ _ matched⟩
    have kept : (settledItem closed sides.items projected.id finding).closed = item.closed :=
      settledItem_closed agree.distinct owned keyed
    exact kept.trans (live _ _ matched item owned keyed)

theorem settle_live (agree : sides.Agree used) (live : sides.Live) {finding : BacklogFinding}
    (fresh : indexBy BacklogItem.fingerprint sides.existing finding.fingerprint = none →
      (finding.opening closed).createdItemId ∉ sides.items.map BacklogItem.id) :
    (sides.settle closed finding).Live ∧
      ∀ item ∈ sides.items, item.closed = true → item ∈ (sides.settle closed finding).items := by
  obtain ⟨settledOpen, targetOpen⟩ := settledItem_live agree live fresh
  constructor
  · intro fingerprint projected hit item inside keyed
    rcases mem_settle.mp inside with same | ⟨owned, elsewhere⟩
    · rw [same]
      exact settledOpen
    · by_cases same : finding.fingerprint = fingerprint
      · obtain ⟨there, found, target⟩ := recalled_self closed sides.existing finding
        rw [same] at found
        have one : there = projected := Option.some.inj (found.symm.trans hit)
        exact absurd (keyed.trans (one ▸ target)) elsewhere
      · exact live _ _ ((recalled_other closed sides.existing same).symm.trans hit) item owned keyed
  · intro item owned shut
    refine mem_settle.mpr (.inr ⟨owned, ?_⟩)
    intro keyed
    rw [targetOpen item owned keyed] at shut
    cases shut

/-- What later findings open is still new after the first. -/
theorem opensFresh_settle (told : ToldByPrefix used) (agree : sides.Agree used) {first : BacklogFinding}
    {rest : List BacklogFinding} (known : ∀ finding ∈ first :: rest, used finding)
    (fresh : sides.OpensFresh closed (first :: rest)) : (sides.settle closed first).OpensFresh closed rest := by
  intro fingerprint finding leads unmatched
  have differs : first.fingerprint ≠ fingerprint := by
    intro same
    obtain ⟨there, found, -⟩ := recalled_self closed sides.existing first
    rw [same] at found
    exact absurd (found.symm.trans unmatched) (Option.some_ne_none _)
  have before : indexBy BacklogItem.fingerprint sides.existing fingerprint = none :=
    (recalled_other closed sides.existing differs).symm.trans unmatched
  have absent := fresh fingerprint finding (by rw [leadingFinding_cons, if_neg differs, leads]) before
  obtain ⟨listed, same⟩ := leadingFinding_some leads
  intro owned
  rcases mem_map_upsert.mp owned with keyed | owned
  · rw [settledItem_id] at keyed
    obtain ⟨other, usedToo, sameFirst, stem⟩ := target_spelled agree (known first List.mem_cons_self)
    have ours := itemStem_created (finding.opening closed)
    rw [keyed] at ours
    have equal := told.same usedToo (known finding (List.mem_cons_of_mem _ listed)) stem ours
    exact differs (sameFirst.symm.trans (equal.trans same))
  · exact absent owned

/-- Where everything opened is new, items stay live and closed items stay as they are. -/
theorem foldl_live (told : ToldByPrefix used) (agree : sides.Agree used) (live : sides.Live)
    (known : ∀ finding ∈ findings, used finding) (fresh : sides.OpensFresh closed findings) :
    (findings.foldl (Projections.settle closed) sides).Live ∧ ∀ item ∈ sides.items, item.closed = true →
      item ∈ (findings.foldl (Projections.settle closed) sides).items := by
  induction findings generalizing sides with
  | nil => exact ⟨live, fun item owned _ => owned⟩
  | cons first rest ih =>
    have usedFirst := known first List.mem_cons_self
    have freshFirst := fresh first.fingerprint first (by rw [leadingFinding_cons, if_pos rfl])
    obtain ⟨liveNext, kept⟩ := settle_live agree live freshFirst
    obtain ⟨liveLast, keptLast⟩ := ih (settle_agree told agree usedFirst) liveNext
      (fun finding listed => known finding (List.mem_cons_of_mem _ listed)) (opensFresh_settle told agree known fresh)
    exact ⟨liveLast, fun item owned shut => keptLast item (kept item owned shut) shut⟩

theorem settle_covers (finding : BacklogFinding) {fingerprint : String}
    (covered : (indexBy BacklogItem.fingerprint sides.existing fingerprint).isSome ∨
      finding.fingerprint = fingerprint) :
    (indexBy BacklogItem.fingerprint (sides.settle closed finding).existing fingerprint).isSome := by
  by_cases same : finding.fingerprint = fingerprint
  · obtain ⟨there, found, -⟩ := recalled_self closed sides.existing finding
    rw [← same]
    exact Option.isSome_iff_exists.mpr ⟨there, found⟩
  · have before := covered.resolve_right same
    rw [← recalled_other closed sides.existing same] at before
    exact before

/-- The projection has every fingerprint that was found. -/
theorem foldl_covers {fingerprint : String}
    (covered : (indexBy BacklogItem.fingerprint sides.existing fingerprint).isSome ∨
      ∃ finding ∈ findings, finding.fingerprint = fingerprint) :
    (indexBy BacklogItem.fingerprint (findings.foldl (Projections.settle closed) sides).existing
      fingerprint).isSome := by
  induction findings generalizing sides with
  | nil => simpa using covered
  | cons first rest ih =>
    apply ih
    rcases covered with before | ⟨finding, listed, same⟩
    · exact .inl (settle_covers first (.inl before))
    · rcases List.mem_cons.mp listed with here | later
      · exact .inl (settle_covers first (.inr (here ▸ same)))
      · exact .inr ⟨finding, later, same⟩

/-- A fingerprint that comes back under an identity that exists gets no open item. -/
theorem foldl_dead (told : ToldByPrefix used) (agree : sides.Agree used)
    (known : ∀ finding ∈ findings, used finding) {fingerprint : String}
    (shut : ∀ item ∈ sides.items, item.fingerprint = fingerprint → item.closed = true)
    (stale : indexBy BacklogItem.fingerprint sides.existing fingerprint = none → ∀ finding,
      leadingFinding findings fingerprint = some finding →
      (finding.opening closed).createdItemId ∈ sides.items.map BacklogItem.id) :
    ∀ item ∈ (findings.foldl (Projections.settle closed) sides).items, item.fingerprint = fingerprint →
      item.closed = true := by
  induction findings generalizing sides with
  | nil => exact shut
  | cons first rest ih =>
    have usedFirst := known first List.mem_cons_self
    apply ih (settle_agree told agree usedFirst) (fun finding listed => known finding (List.mem_cons_of_mem _ listed))
    · intro item inside spelled
      rcases mem_settle.mp inside with same | ⟨owned, -⟩
      · rw [same, settledItem_fingerprint told agree usedFirst] at spelled
        have there : ∃ prior ∈ sides.items, prior.id = targetOf closed sides.existing first := by
          unfold targetOf
          cases matched : indexBy BacklogItem.fingerprint sides.existing first.fingerprint with
          | none =>
            rw [spelled] at matched
            exact List.mem_map.mp (stale matched first (by rw [leadingFinding_cons, if_pos spelled]))
          | some projected =>
            obtain ⟨prior, owned, keyed, -⟩ := agree.named _ _ matched
            exact ⟨prior, owned, keyed⟩
        obtain ⟨prior, owned, keyed⟩ := there
        rw [same, settledItem_closed agree.distinct owned keyed]
        exact shut prior owned ((target_fingerprint told agree usedFirst owned keyed).trans spelled)
      · exact shut item owned spelled
    · intro unmatched finding leads
      have differs : first.fingerprint ≠ fingerprint := by
        intro same
        have covered := @settle_covers _ closed sides first fingerprint (.inr same)
        rw [unmatched] at covered
        cases covered
      have before : indexBy BacklogItem.fingerprint sides.existing fingerprint = none :=
        (recalled_other closed sides.existing differs).symm.trans unmatched
      exact mem_map_upsert.mpr (.inr (stale before finding (by rw [leadingFinding_cons, if_neg differs, leads])))

end

section
variable {used : BacklogFinding → Prop} {items : List BacklogItem} {findings : List BacklogFinding}

/-- A finding whose items are all closed recurs when it names another item or there are some. -/
theorem opening_recurs {finding : BacklogFinding}
    (shut : ∀ item ∈ items, item.fingerprint = finding.fingerprint → item.closed = true) :
    (finding.opening (items.filter BacklogItem.closed)).recurrenceOf.isSome ↔
      finding.recurrenceOf.isSome ∨ ∃ item ∈ items, item.fingerprint = finding.fingerprint := by
  have closedOnes : (indexBy BacklogItem.fingerprint (items.filter BacklogItem.closed) finding.fingerprint).isSome ↔
      ∃ item ∈ items, item.fingerprint = finding.fingerprint := by
    rw [indexBy_isSome_iff, List.mem_map]
    constructor
    · intro ⟨item, owned, spelled⟩
      exact ⟨item, (List.mem_filter.mp owned).1, spelled⟩
    · intro ⟨item, owned, spelled⟩
      exact ⟨item, List.mem_filter.mpr ⟨owned, shut item owned spelled⟩, spelled⟩
  unfold BacklogFinding.opening
  rw [← closedOnes, Option.isSome_or, Option.isSome_map, Bool.or_eq_true]

/-- What opens an item under an identity of the backlog is a recurrence under the identity of an earlier one. -/
theorem created_known_iff (told : ToldByPrefix used) (standing : Standing used items) {finding : BacklogFinding}
    (known : used finding) (shut : ∀ item ∈ items, item.fingerprint = finding.fingerprint → item.closed = true) :
    (finding.opening (items.filter BacklogItem.closed)).createdItemId ∈ items.map BacklogItem.id ↔
      (finding.recurrenceOf.isSome ∨ ∃ item ∈ items, item.fingerprint = finding.fingerprint) ∧
        finding.recurrenceItemId ∈ items.map BacklogItem.id := by
  have recurs := opening_recurs shut
  have stem := itemStem_created (finding.opening (items.filter BacklogItem.closed))
  unfold BacklogFinding.createdItemId at stem ⊢
  by_cases again : (finding.opening (items.filter BacklogItem.closed)).recurrenceOf.isSome
  · have recurred := recurs.mp again
    rw [if_pos again]
    constructor
    · exact fun owned => ⟨recurred, owned⟩
    · exact fun both => both.2
  · rw [if_neg again] at stem ⊢
    constructor
    · intro owned
      obtain ⟨item, inside, keyed⟩ := List.mem_map.mp owned
      obtain ⟨other, usedToo, spelled, prefixed⟩ := standing.spelled item inside
      rw [keyed] at prefixed
      have same : other.fingerprint = finding.fingerprint := told.same usedToo known prefixed stem
      exact absurd (recurs.mpr (.inr ⟨item, inside, spelled.symm.trans same⟩)) again
    · exact fun both => absurd (recurs.mpr both.1) again

theorem recurrencesFresh_iff (told : ToldByPrefix used) (standing : Standing used items)
    (known : ∀ finding ∈ findings, used finding) : RecurrencesFresh items findings ↔
      (startingSides items).OpensFresh (items.filter BacklogItem.closed) (checkedFindings findings) := by
  constructor
  · intro fresh fingerprint finding leads unmatched owned
    obtain ⟨listed, rfl⟩ := leadingFinding_some leads
    have inside := (mem_checkedFindings.mp listed).1
    have shut := indexBy_open_eq_none.mp unmatched
    obtain ⟨recurs, stale⟩ := (created_known_iff told standing (known finding inside) shut).mp owned
    exact fresh finding inside leads shut recurs stale
  · intro fresh finding inside leads shut recurs stale
    apply fresh finding.fingerprint finding leads (indexBy_open_eq_none.mpr shut)
    exact (created_known_iff told standing (known finding inside) shut).mpr ⟨recurs, stale⟩

omit [Fingerprints] in
/-- Where open items of one fingerprint are one item, having one is having exactly one. -/
theorem openItems_single {fingerprint : String} (distinct : (items.map BacklogItem.id).Nodup)
    (single : ∀ item ∈ items, ∀ other ∈ items, item.closed = false → other.closed = false →
      item.fingerprint = other.fingerprint → item = other) {item : BacklogItem} (owned : item ∈ items)
    (isOpen : item.closed = false) (spelled : item.fingerprint = fingerprint) :
    openItems items fingerprint = [item] := by
  have nodup : (openItems items fingerprint).Nodup := (List.Nodup.of_map _ distinct).filter _
  have inside : item ∈ openItems items fingerprint := mem_openItems.mpr ⟨owned, isOpen, spelled⟩
  have only : ∀ other ∈ openItems items fingerprint, other = item := by
    intro other ownedToo
    obtain ⟨inItems, openToo, spelledToo⟩ := mem_openItems.mp ownedToo
    exact single other inItems item owned openToo isOpen (spelledToo.trans spelled.symm)
  exact List.perm_singleton.mp ((List.perm_ext_iff_of_nodup nodup (List.nodup_singleton _)).mpr fun other =>
    ⟨fun listed => List.mem_singleton.mpr (only other listed), fun same => List.mem_singleton.mp same ▸ inside⟩)

/-- After a round every checked finding has one open item and closed items are as they were, just when no
recurrence comes back under the identity of an earlier one. -/
theorem recurring_findings_open_iff (told : ToldByPrefix used) (built : BuiltBacklog used True items)
    (known : ∀ finding ∈ findings, used finding) :
    (∃ next, reconcileAndApply items findings = .ok next ∧
      (∀ item ∈ items, item.closed = true → item ∈ next) ∧
      ∀ finding ∈ findings, finding.evidenceStatus.checked →
        ∃ item, openItems next finding.fingerprint = [item]) ↔ RecurrencesFresh items findings := by
  have standing := built.standing told
  have agree := settledSides_agree told standing known
  have same := sortedItems_perm (settledSides items findings).items
  have knownChecked := used_checked known
  rw [reconcileAndApply_eq told standing known]
  constructor
  · intro ⟨next, done, _, opened⟩ finding inside leads shut recurs stale
    obtain rfl := Except.ok.inj done
    have checked := (mem_checkedFindings.mp (leadingFinding_some leads).1).2
    obtain ⟨item, single⟩ := opened finding inside checked
    have listed : item ∈ openItems (sortedItems (settledSides items findings).items) finding.fingerprint := by
      rw [single]
      exact List.mem_singleton_self _
    obtain ⟨owned, isOpen, spelled⟩ := mem_openItems.mp listed
    have created := (created_known_iff told standing (known finding inside) shut).mpr ⟨recurs, stale⟩
    have dead := foldl_dead told standing.agree knownChecked shut (by
      intro _ other leadsToo
      rw [leads] at leadsToo
      exact Option.some.inj leadsToo ▸ created)
    rw [dead item (same.mem_iff.mp owned) spelled] at isOpen
    cases isOpen
  · intro fresh
    have startLive : (startingSides items).Live := by
      intro fingerprint projected hit item owned keyed
      obtain ⟨inside, isOpen, -⟩ := indexBy_open_some hit
      rw [List.inj_on_of_nodup_map standing.distinct owned inside keyed]
      exact isOpen
    obtain ⟨live, kept⟩ := foldl_live told standing.agree startLive knownChecked
      ((recurrencesFresh_iff told standing known).mp fresh)
    refine ⟨_, rfl, ?_, ?_⟩
    · intro item owned shut
      exact same.mem_iff.mpr (kept item owned shut)
    · intro finding inside checked
      have listed := mem_checkedFindings.mpr ⟨inside, checked⟩
      have covered : (indexBy BacklogItem.fingerprint (settledSides items findings).existing
          finding.fingerprint).isSome := foldl_covers (.inr ⟨finding, listed, rfl⟩)
      obtain ⟨projected, hit⟩ := Option.isSome_iff_exists.mp covered
      obtain ⟨item, owned, keyed, spelled⟩ := agree.named _ _ hit
      refine ⟨item, openItems_single ((same.map _).nodup_iff.mpr agree.distinct) ?_ (same.mem_iff.mpr owned)
        (live _ _ hit item owned keyed) spelled⟩
      intro first one second two
      exact agree.single first (same.mem_iff.mp one) second (same.mem_iff.mp two)

end

end

namespace Worked

def replayFinding : BacklogFinding where
  id := "finding-1"
  title := "Preserve deterministic replay"
  protectedConsequence := "replayability"
  source := "pytest"
  evidenceStatus := .checkedOpen
  evidenceDigest := some "evidence"
  workspaceDigest := "workspace"
  priority := 10

/-- The backlog after a round over the finding whose items are then closed. -/
def closedAgain (items : List BacklogItem) : List BacklogItem :=
  match reconcileAndApply items [replayFinding] with
  | .ok next => closeItems (next.map BacklogItem.id) next
  | .error _ => []

theorem replay_told : ToldByPrefix (· = replayFinding) where
  sized := by
    intro finding same
    rw [same]
    decide +kernel
  apart := by
    intro first second one two _
    rw [one, two]

theorem closedAgain_built {items : List BacklogItem} (built : BuiltBacklog (· = replayFinding) True items) :
    BuiltBacklog (· = replayFinding) True (closedAgain items) := by
  unfold closedAgain
  split
  next next done => exact .closed (.reconciled built (by simp) done) trivial _
  next => exact .empty

/-- The first recurrence of the finding is opened. -/
theorem first_recurrence_opened : ∃ next, reconcileAndApply (closedAgain []) [replayFinding] = .ok next ∧
    (∀ item ∈ closedAgain [], item.closed = true → item ∈ next) ∧
    ∀ finding ∈ [replayFinding], finding.evidenceStatus.checked →
      ∃ item, openItems next finding.fingerprint = [item] :=
  (recurring_findings_open_iff replay_told (closedAgain_built .empty) (by simp)).mpr (by decide +kernel)

/-- The second recurrence of one finding is not opened: its item has the identity of the first. -/
theorem second_recurrence_lost : ¬ ∀ (used : BacklogFinding → Prop) (items : List BacklogItem)
    (findings : List BacklogFinding), ToldByPrefix used → BuiltBacklog used True items →
    (∀ finding ∈ findings, used finding) → ∃ next, reconcileAndApply items findings = .ok next ∧
      (∀ item ∈ items, item.closed = true → item ∈ next) ∧
      ∀ finding ∈ findings, finding.evidenceStatus.checked →
        ∃ item, openItems next finding.fingerprint = [item] := by
  intro claimed
  obtain ⟨next, done, -, opened⟩ := claimed _ (closedAgain (closedAgain [])) [replayFinding] replay_told
    (closedAgain_built (closedAgain_built .empty)) (by simp)
  obtain ⟨item, single⟩ := opened replayFinding List.mem_cons_self rfl
  have outcome : (reconcileAndApply (closedAgain (closedAgain [])) [replayFinding]).map
      (fun items => openItems items replayFinding.fingerprint) = .ok [] := by decide +kernel
  rw [done] at outcome
  have none : openItems next replayFinding.fingerprint = [] := Except.ok.inj outcome
  rw [single] at none
  cases none

end Worked

end RatchetingInquiry
