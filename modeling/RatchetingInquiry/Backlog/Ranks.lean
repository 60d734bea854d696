import RatchetingInquiry.Backlog.Recurrences
import Mathlib.Order.Bounds.Basic

/-! Ranks. A reconciliation projects the priority of the most urgent finding. The items are ranked by one finding
after the other, in descending order of priority, so that the least urgent finding of a fingerprint has the last
word. -/

namespace RatchetingInquiry

section
variable [Fingerprints]

section
variable {used : BacklogFinding → Prop} {closed : List BacklogItem} {sides : Projections}
  {findings : List BacklogFinding}

theorem settledItem_rank (items : List BacklogItem) (target : String) (finding : BacklogFinding) :
    (settledItem closed items target finding).rank = finding.priority := rfl

/-- Findings of other fingerprints leave an item as it is. -/
theorem foldl_other (told : ToldByPrefix used) (agree : sides.Agree used)
    (known : ∀ finding ∈ findings, used finding) {item : BacklogItem} (owned : item ∈ sides.items)
    (others : ∀ finding ∈ findings, finding.fingerprint ≠ item.fingerprint) :
    item ∈ (findings.foldl (Projections.settle closed) sides).items := by
  induction findings generalizing sides with
  | nil => exact owned
  | cons first rest ih =>
    have usedFirst := known first List.mem_cons_self
    apply ih (settle_agree told agree usedFirst) (fun finding listed => known finding (List.mem_cons_of_mem _ listed))
    · exact settle_other told agree usedFirst owned (Ne.symm (others first List.mem_cons_self))
    · exact fun finding listed => others finding (List.mem_cons_of_mem _ listed)

/-- The last finding of a fingerprint ranks its item. -/
theorem foldl_last (told : ToldByPrefix used) (agree : sides.Agree used)
    (known : ∀ finding ∈ findings, used finding) {front back : List BacklogFinding} {last : BacklogFinding}
    (split : findings = front ++ last :: back) (final : ∀ finding ∈ back, finding.fingerprint ≠ last.fingerprint) :
    ∃ item ∈ (findings.foldl (Projections.settle closed) sides).items,
      item.fingerprint = last.fingerprint ∧ item.rank = last.priority := by
  subst split
  have usedLast := known last (by simp)
  have before := @foldl_settle_agree _ _ closed _ told front agree
    (fun finding listed => known finding (List.mem_append_left _ listed))
  have spelled := @settledItem_fingerprint _ _ closed _ _ told before usedLast
  rw [List.foldl_append, List.foldl_cons]
  refine ⟨_, foldl_other told (settle_agree told before usedLast)
    (fun finding listed => known finding (by simp [listed])) (mem_settle.mpr (.inl rfl)) ?_, spelled,
    settledItem_rank _ _ _⟩
  intro finding listed
  rw [spelled]
  exact final finding listed

theorem settle_open (agree : sides.Agree used) (allOpen : ∀ item ∈ sides.items, item.closed = false)
    (finding : BacklogFinding) : ∀ item ∈ (sides.settle closed finding).items, item.closed = false := by
  intro item inside
  rcases mem_settle.mp inside with same | ⟨owned, -⟩
  · rw [same]
    by_cases there : targetOf closed sides.existing finding ∈ sides.items.map BacklogItem.id
    · obtain ⟨prior, owned, keyed⟩ := List.mem_map.mp there
      rw [settledItem_closed agree.distinct owned keyed]
      exact allOpen prior owned
    · exact settledItem_opened there
  · exact allOpen item owned

/-- Findings close nothing. -/
theorem foldl_open (told : ToldByPrefix used) (agree : sides.Agree used)
    (known : ∀ finding ∈ findings, used finding) (allOpen : ∀ item ∈ sides.items, item.closed = false) :
    ∀ item ∈ (findings.foldl (Projections.settle closed) sides).items, item.closed = false := by
  induction findings generalizing sides with
  | nil => exact allOpen
  | cons first rest ih =>
    exact ih (settle_agree told agree (known first List.mem_cons_self))
      (fun finding listed => known finding (List.mem_cons_of_mem _ listed)) (settle_open agree allOpen first)

end

section
variable {used : BacklogFinding → Prop} {items : List BacklogItem} {findings : List BacklogFinding}

theorem BuiltBacklog.allOpen (told : ToldByPrefix used) (built : BuiltBacklog used False items) :
    ∀ item ∈ items, item.closed = false := by
  induction built with
  | empty => simp
  | @reconciled items next findings built known done ih =>
    have standing := built.standing told
    rw [reconcileAndApply_eq told standing known] at done
    obtain rfl := Except.ok.inj done
    intro item owned
    exact foldl_open told standing.agree (used_checked known) ih item
      ((sortedItems_perm (settledSides items findings).items).mem_iff.mp owned)
  | closed built permitted => exact permitted.elim

omit [Fingerprints] in
/-- The order of a reconciliation descends in priority. -/
theorem checkedFindings_descending (findings : List BacklogFinding) :
    (checkedFindings findings).Pairwise (fun left right => right.priority ≤ left.priority) := by
  unfold checkedFindings sortedFindings
  have total : Std.Total (fun left right : BacklogFinding => right.priority < left.priority ∨
      (left.priority = right.priority ∧ left.id ≤ right.id)) :=
    lexicographic_total (fun finding => OrderDual.toDual finding.priority) BacklogFinding.id
  have trans : IsTrans BacklogFinding (fun left right => right.priority < left.priority ∨
      (left.priority = right.priority ∧ left.id ≤ right.id)) :=
    lexicographic_trans (fun finding => OrderDual.toDual finding.priority) BacklogFinding.id
  apply List.Pairwise.filter
  apply (List.pairwise_insertionSort _ findings).imp
  intro left right ordered
  rcases ordered with less | ⟨same, -⟩
  · exact less.le
  · exact same.ge

/-- The last finding of a fingerprint is its least urgent one. -/
theorem exists_last {finding : BacklogFinding} (listed : finding ∈ checkedFindings findings) :
    ∃ front last back, checkedFindings findings = front ++ last :: back ∧
      last.fingerprint = finding.fingerprint ∧ (∀ other ∈ back, other.fingerprint ≠ last.fingerprint) ∧
      ∀ other ∈ checkedFindings findings, other.fingerprint = finding.fingerprint → last.priority ≤ other.priority := by
  have some : ((checkedFindings findings).reverse.find? (fun other =>
      other.fingerprint = finding.fingerprint)).isSome := by
    rw [List.find?_isSome]
    exact ⟨finding, List.mem_reverse.mpr listed, by simp⟩
  obtain ⟨last, hit⟩ := Option.isSome_iff_exists.mp some
  obtain ⟨same, later, earlier, reversed, others⟩ := List.find?_eq_some_iff_append.mp hit
  have same : last.fingerprint = finding.fingerprint := by simpa using same
  have split : checkedFindings findings = earlier.reverse ++ last :: later.reverse := by
    have turned := congrArg List.reverse reversed
    simpa using turned
  have final : ∀ other ∈ later.reverse, other.fingerprint ≠ last.fingerprint := by
    intro other inside
    rw [same]
    simpa using others other (List.mem_reverse.mp inside)
  refine ⟨_, last, _, split, same, final, ?_⟩
  intro other owned spelled
  have descending := checkedFindings_descending findings
  rw [split] at descending owned
  rcases List.mem_append.mp owned with front | back
  · exact (List.pairwise_append.mp descending).2.2 other front last List.mem_cons_self
  · rcases List.mem_cons.mp back with here | behind
    · rw [here]
    · exact absurd (spelled.trans same.symm) (final other behind)

/-- The priorities of the checked findings of a fingerprint. -/
def checkedPriorities (findings : List BacklogFinding) (fingerprint : String) : Set Int :=
  {priority | ∃ finding ∈ findings, finding.evidenceStatus.checked ∧ finding.fingerprint = fingerprint ∧
    finding.priority = priority}

/-- After a round without closed items the open item of every checked finding has the greatest priority of its
fingerprint, just when its fingerprint has one priority. -/
theorem rank_greatest_iff (told : ToldByPrefix used) (built : BuiltBacklog used False items)
    (known : ∀ finding ∈ findings, used finding) :
    (∃ next, reconcileAndApply items findings = .ok next ∧
      ∀ finding ∈ findings, finding.evidenceStatus.checked → ∃ item,
        openItems next finding.fingerprint = [item] ∧
        IsGreatest (checkedPriorities findings finding.fingerprint) item.rank) ↔
      ∀ first ∈ findings, ∀ second ∈ findings, first.evidenceStatus.checked → second.evidenceStatus.checked →
        first.fingerprint = second.fingerprint → first.priority = second.priority := by
  have standing := built.standing told
  have agree := settledSides_agree told standing known
  have same := sortedItems_perm (settledSides items findings).items
  have knownChecked := used_checked known
  have allOpen := @foldl_open _ _ (items.filter BacklogItem.closed) _ _ told standing.agree knownChecked
    (built.allOpen told)
  have ranked : ∀ finding ∈ findings, finding.evidenceStatus.checked → ∃ item last,
      openItems (sortedItems (settledSides items findings).items) finding.fingerprint = [item] ∧
      item.rank = last.priority ∧ last ∈ checkedFindings findings ∧ last.fingerprint = finding.fingerprint ∧
      ∀ other ∈ checkedFindings findings, other.fingerprint = finding.fingerprint →
        last.priority ≤ other.priority := by
    intro finding inside checked
    obtain ⟨front, last, back, split, spelled, final, least⟩ :=
      exists_last (mem_checkedFindings.mpr ⟨inside, checked⟩)
    obtain ⟨item, owned, fingerprint, rank⟩ := @foldl_last _ _ (items.filter BacklogItem.closed) _ _ told
      standing.agree knownChecked _ _ _ split final
    refine ⟨item, last, ?_, rank, by rw [split]; simp, spelled, least⟩
    apply openItems_single ((same.map _).nodup_iff.mpr agree.distinct) ?_ (same.mem_iff.mpr owned)
      (allOpen item owned) (fingerprint.trans spelled)
    intro first one second two
    exact agree.single first (same.mem_iff.mp one) second (same.mem_iff.mp two)
  rw [reconcileAndApply_eq told standing known]
  constructor
  · intro ⟨next, done, greatest⟩ first inFirst second inSecond checkedFirst checkedSecond spelled
    obtain rfl := Except.ok.inj done
    obtain ⟨item, single, bound⟩ := greatest first inFirst checkedFirst
    obtain ⟨other, last, singleToo, rank, -, -, least⟩ := ranked first inFirst checkedFirst
    obtain rfl : item = other := by
      rw [single] at singleToo
      exact List.singleton_injective singleToo
    -- the rank is the least priority, and bounds every other
    have equal : ∀ finding ∈ findings, finding.evidenceStatus.checked → finding.fingerprint = first.fingerprint →
        finding.priority = item.rank := by
      intro finding inside checked spelled
      apply le_antisymm (bound.2 ⟨finding, inside, checked, spelled, rfl⟩)
      rw [rank]
      exact least finding (mem_checkedFindings.mpr ⟨inside, checked⟩) spelled
    rw [equal first inFirst checkedFirst rfl, equal second inSecond checkedSecond spelled.symm]
  · intro one
    refine ⟨_, rfl, ?_⟩
    intro finding inside checked
    obtain ⟨item, last, single, rank, listed, spelled, -⟩ := ranked finding inside checked
    obtain ⟨inLast, checkedLast⟩ := mem_checkedFindings.mp listed
    refine ⟨item, single, ⟨last, inLast, checkedLast, spelled, rank.symm⟩, ?_⟩
    intro priority ⟨other, owned, checkedToo, spelledToo, valued⟩
    rw [rank, ← valued, one other owned last inLast checkedToo checkedLast (spelledToo.trans spelled.symm)]

end

end

namespace Worked

/-- A second finding of the same text, less urgent than the first. -/
def laterFinding : BacklogFinding :=
  { replayFinding with id := "finding-2", priority := 3, identified := by decide }

/-- A third one, as urgent as the first. -/
def echoedFinding : BacklogFinding := { replayFinding with id := "finding-3", identified := by decide }

theorem all_told : ToldByPrefix (fun finding => finding ∈ [replayFinding, laterFinding, echoedFinding]) where
  sized := by decide +kernel
  apart := by
    intro first second one two _
    have same : ∀ finding ∈ [replayFinding, laterFinding, echoedFinding],
        finding.fingerprint = replayFinding.fingerprint := by
      decide +kernel
    rw [same first one, same second two]

/-- The backlog after a round over the less urgent finding. -/
def laterRound : List BacklogItem := (reconcileAndApply [] [laterFinding]).toOption.getD []

/-- Two findings of one priority raise the item that a round before them left. -/
theorem replayFinding_ranked : (laterRound.map (fun item => (item.fingerprint, item.rank)) =
      [(replayFinding.fingerprint, 3)]) ∧
    ∃ next, reconcileAndApply laterRound [replayFinding, echoedFinding] = .ok next ∧
      ∀ finding ∈ [replayFinding, echoedFinding], finding.evidenceStatus.checked → ∃ item,
        openItems next finding.fingerprint = [item] ∧
        IsGreatest (checkedPriorities [replayFinding, echoedFinding] finding.fingerprint) item.rank := by
  have facts : reconcileAndApply [] [laterFinding] = .ok laterRound ∧
      laterRound.map (fun item => (item.fingerprint, item.rank)) = [(replayFinding.fingerprint, 3)] := by decide +kernel
  have built : BuiltBacklog (fun finding => finding ∈ [replayFinding, laterFinding, echoedFinding]) False laterRound :=
    .reconciled .empty (by simp) facts.1
  refine ⟨facts.2, (rank_greatest_iff all_told built (by simp)).mpr ?_⟩
  have same : ∀ finding ∈ [replayFinding, echoedFinding], finding.priority = 10 := by decide
  intro first one second two _ _ _
  rw [same first one, same second two]

/-- The less urgent of two findings of one fingerprint sets the rank. -/
theorem urgent_rank_overwritten : ¬ ∀ (used : BacklogFinding → Prop) (items : List BacklogItem)
    (findings : List BacklogFinding), ToldByPrefix used → BuiltBacklog used False items →
    (∀ finding ∈ findings, used finding) → ∃ next, reconcileAndApply items findings = .ok next ∧
      ∀ finding ∈ findings, finding.evidenceStatus.checked → ∃ item,
        openItems next finding.fingerprint = [item] ∧
        IsGreatest (checkedPriorities findings finding.fingerprint) item.rank := by
  intro claimed
  obtain ⟨next, done, greatest⟩ := claimed _ [] [replayFinding, laterFinding] all_told .empty (by simp)
  obtain ⟨item, single, -, bound⟩ := greatest replayFinding List.mem_cons_self rfl
  have outcome : (reconcileAndApply [] [replayFinding, laterFinding]).map
      (fun items => (openItems items replayFinding.fingerprint).map BacklogItem.rank) = .ok [3] := by decide +kernel
  rw [done] at outcome
  have ranks : (openItems next replayFinding.fingerprint).map BacklogItem.rank = [3] := Except.ok.inj outcome
  rw [single] at ranks
  have rank : item.rank = 3 := List.singleton_injective ranks
  have urgent : (10 : Int) ≤ item.rank := bound ⟨replayFinding, List.mem_cons_self, rfl, rfl, rfl⟩
  omega

end Worked

end RatchetingInquiry
