import Mathlib.Data.List.Dedup
import RatchetingInquiry.Core.Run
import RatchetingInquiry.Library.Canonical
import RatchetingInquiry.Orchestration.Scheduler

/-! What the scheduler selects: the least ready entry of a strict order, within the budget. The plan depends on the
entries and the counts, and not on the order in which they are given. -/

namespace RatchetingInquiry

/-- Greater values come first, position by position, and a vector comes after its prefixes. -/
def EarlierVector : List Int → List Int → Prop
  | [], _ :: _ => True
  | first :: rest, other :: others => first > other ∨ (first = other ∧ EarlierVector rest others)
  | _, [] => False

theorem earlierVector_iff {left right : List Int} : left.map (- ·) < right.map (- ·) ↔ EarlierVector left right := by
  induction left generalizing right with
  | nil => cases right <;> simp [EarlierVector]
  | cons first rest ih =>
    cases right with
    | nil => simp [EarlierVector]
    | cons other others =>
      rw [List.map_cons, List.map_cons, List.cons_lt_cons_iff, ih, neg_lt_neg_iff, neg_inj]
      rfl

theorem AttemptKey.coordinates_injective : Function.Injective AttemptKey.coordinates := by
  intro left right same
  cases left
  cases right
  simpa [AttemptKey.coordinates] using same

/-- The counts do not depend on the order of the mapping. -/
theorem AttemptCounts.of_perm {counts others : AttemptCounts} (same : others.entries.Perm counts.entries)
    (key : AttemptKey) : others.of key = counts.of key := by
  unfold AttemptCounts.of
  rw [indexBy_congr counts.keys_distinct others.keys_distinct (fun _ => same.mem_iff)]

section
variable [Fingerprints]

/-- The order of selection: safety kinds, greater priority, smaller depth, earlier creation, lower identity. -/
def ObligationEntry.Precedes (left right : ObligationEntry) : Prop :=
  left.safetyRank < right.safetyRank ∨ (left.safetyRank = right.safetyRank ∧
    (EarlierVector left.obligation.priorityVector right.obligation.priorityVector ∨
      (left.obligation.priorityVector = right.obligation.priorityVector ∧
        (left.dependencyDepth < right.dependencyDepth ∨ (left.dependencyDepth = right.dependencyDepth ∧
          (left.creationSequence < right.creationSequence ∨ (left.creationSequence = right.creationSequence ∧
            left.obligation.id < right.obligation.id)))))))

theorem priorityKey_lt_iff {left right : ObligationEntry} : priorityKey left < priorityKey right ↔ left.Precedes right := by
  have sameVector : left.obligation.priorityVector.map (- ·) = right.obligation.priorityVector.map (- ·) ↔
      left.obligation.priorityVector = right.obligation.priorityVector := (List.map_injective_iff.mpr neg_injective).eq_iff
  unfold priorityKey ObligationEntry.Precedes
  simp only [Prod.Lex.toLex_lt_toLex, earlierVector_iff, sameVector]

/-- An open entry with all parents completed and attempts left. -/
structure ObligationEntry.Ready (entry : ObligationEntry) (completedObligationIds : List String)
    (attemptCounts : AttemptCounts) (maxAttemptsPerKey : Int) : Prop where
  opened : entry.obligation.status = .opened
  parents : ∀ parent ∈ entry.obligation.parentObligationIds, parent ∈ completedObligationIds
  attempts : attemptCounts.of entry.attemptKey < maxAttemptsPerKey

variable {entries : List ObligationEntry} {completedObligationIds : List String} {attemptCounts : AttemptCounts}
  {stepsUsed stepBudget readyEventCost maxAttemptsPerKey : Int} {inputFingerprint policyVersion : String} {remaining : Nat}

theorem mem_ready {entry : ObligationEntry} :
    entry ∈ (entries.filter (fun entry => entry.obligation.status = .opened)).filter
        (fun entry => entry.eligible completedObligationIds attemptCounts maxAttemptsPerKey) ↔
      entry ∈ entries ∧ entry.Ready completedObligationIds attemptCounts maxAttemptsPerKey := by
  unfold ObligationEntry.eligible
  rw [List.mem_filter, List.mem_filter, and_assoc, decide_eq_true_eq, Bool.and_eq_true, decide_eq_true_eq,
    decide_eq_true_eq]
  apply and_congr_right
  intro _
  constructor
  · intro ⟨opened, parents, attempts⟩
    exact ⟨opened, fun _ parent => parents parent, attempts⟩
  · intro ready
    exact ⟨ready.opened, fun _ parent => ready.parents _ parent, ready.attempts⟩

@[simp] theorem buildStepPlan_status {status : PlanStatus} {selected : Option (String × AttemptKey)} {reason : PlanReason}
    {ready_selects : (status = .ready) = (selected.isSome = true)} :
    (buildStepPlan inputFingerprint policyVersion status selected reason remaining ready_selects).status = status := rfl

/-- The three answers of the selection, over entries that the priority keys tell apart. -/
theorem selectNext_spec (apart : ToldApart priorityKey entries) (costPositive : 1 ≤ readyEventCost) {plan : StepPlan}
    (selected : selectNext inputFingerprint policyVersion remaining entries completedObligationIds attemptCounts
      readyEventCost maxAttemptsPerKey = plan) :
    (plan.status = .ready ↔ (∃ entry ∈ entries, entry.Ready completedObligationIds attemptCounts maxAttemptsPerKey) ∧
      readyEventCost ≤ remaining) ∧
    (plan.status = .ready → ∃ least ∈ entries, least.Ready completedObligationIds attemptCounts maxAttemptsPerKey ∧
      (∀ other ∈ entries, other.Ready completedObligationIds attemptCounts maxAttemptsPerKey → other ≠ least →
        least.Precedes other) ∧
      plan.selectedObligationId = some least.obligation.id ∧ plan.selectedAttemptKey = some least.attemptKey ∧
      (plan.remainingBudget : Int) = remaining - readyEventCost) ∧
    (plan.status = .satisfied ↔ 0 < remaining ∧ ∀ entry ∈ entries, entry.obligation.status = .satisfied) := by
  subst selected
  have member := @mem_ready _ entries completedObligationIds attemptCounts maxAttemptsPerKey
  unfold selectNext
  dsimp only
  split
  next spent =>
    subst spent
    simp only [buildStepPlan_status, reduceCtorEq, false_iff, false_implies, true_and, not_and, Nat.cast_zero]
    exact ⟨fun _ => by omega, by simp⟩
  next remains =>
    have positive : 0 < remaining := Nat.pos_of_ne_zero remains
    split
    next noneOpen =>
      have unopened : ∀ entry ∈ entries, entry.obligation.status ≠ .opened := by
        rw [List.isEmpty_iff, List.filter_eq_nil_iff] at noneOpen
        simpa using noneOpen
      have noneReady : ¬ ∃ entry ∈ entries, entry.Ready completedObligationIds attemptCounts maxAttemptsPerKey := by
        intro ⟨entry, listed, ready⟩
        exact unopened entry listed ready.opened
      split
      next unresolved =>
        simp only [buildStepPlan_status, reduceCtorEq, noneReady, false_and, false_implies, true_and, false_iff, not_and]
        intro _ all
        obtain ⟨entry, listed, other⟩ := List.any_eq_true.mp unresolved
        exact absurd (all entry listed) (by simpa using other)
      next resolved =>
        simp only [buildStepPlan_status, reduceCtorEq, noneReady, false_and, false_implies, true_and, true_iff]
        exact ⟨positive, by simpa using resolved⟩
    next someOpen =>
      have open_entry : ∃ entry ∈ entries, entry.obligation.status = .opened := by
        obtain ⟨entry, listed⟩ := List.exists_mem_of_ne_nil _ (mt List.isEmpty_iff.mpr someOpen)
        obtain ⟨owned, opened⟩ := List.mem_filter.mp listed
        exact ⟨entry, owned, by simpa using opened⟩
      have unsatisfied : ¬ ∀ entry ∈ entries, entry.obligation.status = .satisfied := by
        obtain ⟨entry, listed, opened⟩ := open_entry
        intro all
        have satisfied := all entry listed
        rw [opened] at satisfied
        contradiction
      split
      next exhausted =>
        rw [List.argmin_eq_none] at exhausted
        have noneReady : ¬ ∃ entry ∈ entries, entry.Ready completedObligationIds attemptCounts maxAttemptsPerKey := by
          intro ⟨entry, listed, ready⟩
          exact List.ne_nil_of_mem (member.mpr ⟨listed, ready⟩) exhausted
        simp only [buildStepPlan_status, reduceCtorEq, noneReady, unsatisfied, false_and, and_false, false_implies,
          iff_self, and_self]
      next least found =>
        obtain ⟨listed, ready⟩ := member.mp (List.argmin_mem found)
        have someReady : ∃ entry ∈ entries, entry.Ready completedObligationIds attemptCounts maxAttemptsPerKey :=
          ⟨least, listed, ready⟩
        split
        next short =>
          have unaffordable : ¬ readyEventCost ≤ remaining := by omega
          simp only [buildStepPlan_status, reduceCtorEq, unaffordable, unsatisfied, and_false, false_implies, iff_self,
            and_self]
        next affordable =>
          simp only [buildStepPlan_status, reduceCtorEq, someReady, unsatisfied, true_and, true_iff, and_false,
            forall_const, iff_self, and_true]
          refine ⟨by omega, least, listed, ready, ?_, rfl, rfl, ?_⟩
          · intro other otherListed otherReady different
            have lower := List.le_of_mem_argmin (member.mpr ⟨otherListed, otherReady⟩) found
            have keysDiffer : priorityKey least ≠ priorityKey other := fun same =>
              different (apart other otherListed least listed same.symm)
            exact priorityKey_lt_iff.mp (lt_of_le_of_ne lower keysDiffer)
          · unfold buildStepPlan
            dsimp only
            omega

theorem sortedEntries_of_perm {others : List ObligationEntry} (distinct : (entries.map ObligationEntry.stableKey).Nodup)
    (same : others.Perm entries) : sortedEntries others = sortedEntries entries :=
  insertionSort_eq_of_distinct same distinct

/-- No entry is dropped when the fingerprints differ. -/
theorem deduplicateObligations_eq (distinct : (entries.map (fun entry => entry.obligation.fingerprint)).Nodup) :
    deduplicateObligations entries = sortedEntries entries := by
  apply freshBy_eq_self
  · exact ((List.perm_insertionSort _ entries).map _).nodup_iff.mpr distinct
  · simp

section
variable (distinctFingerprints : (entries.map (fun entry => entry.obligation.fingerprint)).Nodup)
  (distinctPlaces : (entries.map (fun entry => (entry.creationSequence, entry.obligation.id))).Nodup)
include distinctPlaces

theorem stableKeys_distinct : (entries.map ObligationEntry.stableKey).Nodup :=
  distinctPlaces

theorem priorityKeys_apart : ToldApart priorityKey entries := by
  intro first firstListed second secondListed same
  unfold priorityKey at same
  simp only [toLex_inj, Prod.mk.injEq] at same
  obtain ⟨_, _, _, created, named⟩ := same
  refine List.inj_on_of_nodup_map distinctPlaces firstListed secondListed ?_
  rw [created, named]

/-- The input fingerprint and the selection see the canonical forms of the entries, the counts and the completed
identities. -/
theorem planNext_of_perm {others : List ObligationEntry} {otherCompleted : List String} {otherCounts : AttemptCounts}
    (sameEntries : others.Perm entries) (sameCompleted : ∀ id, id ∈ otherCompleted ↔ id ∈ completedObligationIds)
    (sameCounts : otherCounts.entries.Perm attemptCounts.entries) :
    planNext others otherCompleted otherCounts stepsUsed stepBudget readyEventCost maxAttemptsPerKey policyVersion =
      planNext entries completedObligationIds attemptCounts stepsUsed stepBudget readyEventCost maxAttemptsPerKey
        policyVersion := by
  have sorted : sortedEntries others = sortedEntries entries :=
    sortedEntries_of_perm (stableKeys_distinct distinctPlaces) sameEntries
  have deduplicated : deduplicateObligations others = deduplicateObligations entries := by
    unfold deduplicateObligations
    rw [sorted]
  have completed : otherCompleted.dedup.insertionSort (· ≤ ·) = completedObligationIds.dedup.insertionSort (· ≤ ·) := by
    apply @insertionSort_eq_of_distinct _ _ _ id
    · rw [List.perm_ext_iff_of_nodup (List.nodup_dedup _) (List.nodup_dedup _)]
      simpa using sameCompleted
    · simpa using List.nodup_dedup completedObligationIds
  have counted : otherCounts.entries.insertionSort (fun left right => left.1.coordinates ≤ right.1.coordinates) =
      attemptCounts.entries.insertionSort (fun left right => left.1.coordinates ≤ right.1.coordinates) := by
    apply @insertionSort_eq_of_distinct _ _ _ (fun entry : AttemptKey × Int => entry.1.coordinates) _ _ sameCounts
    have keys := attemptCounts.keys_distinct.map AttemptKey.coordinates_injective
    rwa [List.map_map] at keys
  have sameFingerprint : schedulerInputFingerprint others otherCompleted otherCounts stepsUsed stepBudget readyEventCost
      maxAttemptsPerKey policyVersion = schedulerInputFingerprint entries completedObligationIds attemptCounts stepsUsed
      stepBudget readyEventCost maxAttemptsPerKey policyVersion := by
    unfold schedulerInputFingerprint
    rw [sorted, completed, counted]
  have eligible : ∀ entry : ObligationEntry, entry.eligible otherCompleted otherCounts maxAttemptsPerKey =
      entry.eligible completedObligationIds attemptCounts maxAttemptsPerKey := by
    intro entry
    unfold ObligationEntry.eligible
    rw [AttemptCounts.of_perm sameCounts]
    congr 2
    simp only [List.subset_def, sameCompleted]
  have nonnegative : (∀ entry ∈ otherCounts.entries, ¬ entry.2 < 0) ↔ ∀ entry ∈ attemptCounts.entries, ¬ entry.2 < 0 := by
    simp only [sameCounts.mem_iff]
  unfold planNext selectNext require
  simp only [sameFingerprint, deduplicated, eligible, nonnegative]

include distinctFingerprints

/-- A plan is ready exactly if an entry is ready and its events are affordable, and then selects the least ready entry; it
is satisfied exactly if budget remains and every entry is satisfied; and the orders in which the inputs are given do
not matter. -/
theorem planNext_exact (usage : 0 ≤ stepsUsed) (budget : 1 ≤ stepBudget) (cost : 1 ≤ readyEventCost)
    (attempts : 1 ≤ maxAttemptsPerKey) (policy : policyVersion ≠ "")
    (counted : ∀ entry ∈ attemptCounts.entries, 0 ≤ entry.2) :
    ∃ plan, planNext entries completedObligationIds attemptCounts stepsUsed stepBudget readyEventCost maxAttemptsPerKey
        policyVersion = .ok plan ∧
      (plan.status = .ready ↔
        (∃ entry ∈ entries, entry.Ready completedObligationIds attemptCounts maxAttemptsPerKey) ∧
          readyEventCost ≤ max (stepBudget - stepsUsed) 0) ∧
      (plan.status = .ready →
        ∃ least ∈ entries, least.Ready completedObligationIds attemptCounts maxAttemptsPerKey ∧
          (∀ other ∈ entries, other.Ready completedObligationIds attemptCounts maxAttemptsPerKey → other ≠ least →
            least.Precedes other) ∧
          plan.selectedObligationId = some least.obligation.id ∧ plan.selectedAttemptKey = some least.attemptKey ∧
          (plan.remainingBudget : Int) = max (stepBudget - stepsUsed) 0 - readyEventCost) ∧
      (plan.status = .satisfied ↔
        0 < max (stepBudget - stepsUsed) 0 ∧ ∀ entry ∈ entries, entry.obligation.status = .satisfied) ∧
      ∀ (others : List ObligationEntry) (otherCompleted : List String) (otherCounts : AttemptCounts),
        others.Perm entries → (∀ id, id ∈ otherCompleted ↔ id ∈ completedObligationIds) →
          otherCounts.entries.Perm attemptCounts.entries →
            planNext others otherCompleted otherCounts stepsUsed stepBudget readyEventCost maxAttemptsPerKey
              policyVersion = .ok plan := by
  obtain ⟨plan, selected⟩ : ∃ plan, selectNext
      (schedulerInputFingerprint entries completedObligationIds attemptCounts stepsUsed stepBudget readyEventCost
        maxAttemptsPerKey policyVersion)
      policyVersion (stepBudget - stepsUsed).toNat (deduplicateObligations entries) completedObligationIds attemptCounts
      readyEventCost maxAttemptsPerKey = plan := ⟨_, rfl⟩
  have planned : planNext entries completedObligationIds attemptCounts stepsUsed stepBudget readyEventCost
      maxAttemptsPerKey policyVersion = .ok plan := by
    unfold planNext
    simp only [require_bind_eq_ok]
    refine ⟨by omega, policy, ?_, congrArg Except.ok selected⟩
    intro entry listed
    have := counted entry listed
    omega
  have members : ∀ entry, entry ∈ deduplicateObligations entries ↔ entry ∈ entries := by
    intro entry
    rw [deduplicateObligations_eq distinctFingerprints]
    exact List.mem_insertionSort _
  have apart : ToldApart priorityKey (deduplicateObligations entries) := by
    intro first firstListed second secondListed
    exact priorityKeys_apart distinctPlaces first ((members first).mp firstListed) second ((members second).mp secondListed)
  have remains : ((stepBudget - stepsUsed).toNat : Int) = max (stepBudget - stepsUsed) 0 := Int.toNat_eq_max _
  refine ⟨plan, planned, ?_⟩
  obtain ⟨ready, least, satisfied⟩ := selectNext_spec apart cost selected
  simp only [members, remains] at ready least satisfied
  refine ⟨ready, least, ?_, ?_⟩
  · rw [satisfied]
    apply and_congr_left
    intro _
    omega
  · intro others otherCompleted otherCounts sameEntries sameCompleted sameCounts
    rw [planNext_of_perm distinctPlaces sameEntries sameCompleted sameCounts, planned]

end

end

namespace Worked

/-- An open obligation of the scope, with its place in the history. -/
def scheduled (id : String) (kind : ObligationKind) (priority : Int) (created : Nat) : ObligationEntry where
  obligation := {
    id := id
    kind := kind
    carrierId := "carrier"
    args := []
    scope := scope
    bindingRevision := "binding"
    priorityVector := [priority] }
  attemptKey := {
    obligationFingerprint := Obligation.fingerprint {
      id := id
      kind := kind
      carrierId := "carrier"
      args := []
      scope := scope
      bindingRevision := "binding"
      priorityVector := [priority] }
    contractId := "contract"
    contractVersion := "1"
    bindingRevision := "binding" }
  creationSequence := created

def urgentAttack : ObligationEntry := scheduled "attack" .necessityCounterexample 9 1

def laterConflict : ObligationEntry := scheduled "conflict" .localizeConflict 0 2

/-- A conflict goes first, before an attack of higher priority that was there earlier. -/
theorem conflict_goes_first : ∃ plan,
    planNext [urgentAttack, laterConflict] [] {} 5 100 4 3 "scheduler" = .ok plan ∧ plan.status = .ready ∧
      plan.selectedObligationId = some "conflict" := by
  obtain ⟨plan, planned, ready, least, _⟩ := @planNext_exact _ [urgentAttack, laterConflict] [] {} 5 100 4 3 "scheduler"
    (by decide +kernel) (by decide +kernel) (by decide) (by decide) (by decide) (by decide) (by decide) (by simp)
  have conflictReady : laterConflict.Ready [] {} 3 := ⟨rfl, by simp [laterConflict, scheduled], by decide⟩
  have isReady : plan.status = .ready := ready.mpr ⟨⟨laterConflict, by simp, conflictReady⟩, by decide⟩
  obtain ⟨selected, listed, _, first, named, _⟩ := least isReady
  refine ⟨plan, planned, isReady, ?_⟩
  simp only [List.mem_cons, List.not_mem_nil, or_false] at listed
  rcases listed with rfl | rfl
  · have apart : laterConflict ≠ urgentAttack := by
      intro same
      exact absurd (congrArg (fun entry => entry.creationSequence) same) (by decide)
    have before := priorityKey_lt_iff.mpr (first laterConflict (by simp) conflictReady apart)
    exact absurd before (by decide +kernel)
  · exact named

end Worked

end RatchetingInquiry
