import RatchetingInquiry.Backlog.Reconcile

/-! The effects of a reconciliation in closed form, and what applying them does to the items: every checked finding
puts one item, the one it matches or the one it opens. -/

namespace RatchetingInquiry

section
variable [Fingerprints]

/-- The effect of a finding with checked evidence. -/
def BacklogFinding.effect (finding : BacklogFinding) (kind : BacklogEffectKind) (target reason : String)
    (rank : Option Int := none) : BacklogEffect where
  id := "bfx_" ++ shortDigest (Fingerprints.digest (.backlogEffect
    (effectMaterial kind finding.id target (finding.evidenceDigest.getD ""))))
  kind
  findingId := finding.id
  targetItemId := target
  fingerprint := finding.fingerprint
  title := finding.title
  protectedConsequence := finding.protectedConsequence
  source := finding.source
  recurrenceOf := finding.recurrenceOf
  rank
  evidenceDigest := finding.evidenceDigest.getD ""
  workspaceDigest := finding.workspaceDigest
  reason

theorem backlogEffect_checked {kind : BacklogEffectKind} {finding : BacklogFinding} {target reason : String}
    {rank : Option Int} (checked : finding.evidenceStatus.checked) :
    backlogEffect kind finding target reason rank = .ok (finding.effect kind target reason rank) := by
  obtain ⟨digest, given, -⟩ := finding.evidenced checked
  have known : finding.evidenceDigest = some digest := given
  simp [backlogEffect, backlogEffectId, BacklogFinding.effect, known, found, bind, Except.bind, pure, Except.pure]

/-- The finding under which an item is opened: it recurs from the closed item of its fingerprint, unless it names
another item. -/
def BacklogFinding.opening (closed : List BacklogItem) (finding : BacklogFinding) : BacklogFinding :=
  { finding with
    recurrenceOf := finding.recurrenceOf.or
      ((indexBy BacklogItem.fingerprint closed finding.fingerprint).map BacklogItem.id) }

@[simp] theorem opening_fingerprint (closed : List BacklogItem) (finding : BacklogFinding) :
    (finding.opening closed).fingerprint = finding.fingerprint := rfl

/-- The item that a finding is about: the one that is open under its fingerprint, or the one it opens. -/
def targetOf (closed existing : List BacklogItem) (finding : BacklogFinding) : String :=
  match indexBy BacklogItem.fingerprint existing finding.fingerprint with
  | some item => item.id
  | none => (finding.opening closed).createdItemId

/-- The open items after a finding. -/
def recalled (closed existing : List BacklogItem) (finding : BacklogFinding) : List BacklogItem :=
  if (indexBy BacklogItem.fingerprint existing finding.fingerprint).isSome then existing
  else existing ++ [{
    id := targetOf closed existing finding
    fingerprint := finding.fingerprint
    title := finding.title
    protectedConsequence := finding.protectedConsequence
    source := finding.source
    rank := finding.priority
    recurrenceOf := (finding.opening closed).recurrenceOf }]

/-- The effect that opens the item of a finding or joins the finding to its item. -/
def openingEffect (closed existing : List BacklogItem) (finding : BacklogFinding) : BacklogEffect :=
  if (indexBy BacklogItem.fingerprint existing finding.fingerprint).isSome then
    finding.effect .dedupe (targetOf closed existing finding) "exact fingerprint match"
  else
    (finding.opening closed).effect .create (targetOf closed existing finding)
      (if (indexBy BacklogItem.fingerprint closed finding.fingerprint).isSome then "linked recurrence"
        else "new exact fingerprint")

def rankEffect (finding : BacklogFinding) (target : String) : BacklogEffect :=
  finding.effect .rank target "deterministic checked-evidence priority" (some finding.priority)

/-- What the status of a finding adds. -/
def statusEffects (finding : BacklogFinding) (target : String) : List BacklogEffect :=
  match finding.evidenceStatus with
  | .checkedBlocked => [finding.effect .block target "checked prerequisite is open"]
  | .checkedClosable => [finding.effect .close target "fresh checked closure evidence; proposal-only in G1"]
  | _ => []

def findingEffects (closed existing : List BacklogItem) (finding : BacklogFinding) : List BacklogEffect :=
  openingEffect closed existing finding :: rankEffect finding (targetOf closed existing finding) ::
    statusEffects finding (targetOf closed existing finding)

/-- What the loop of `reconcile` computes for an unmatched finding. -/
theorem opening_eq (closed : List BacklogItem) (finding : BacklogFinding) :
    (if (indexBy BacklogItem.fingerprint closed finding.fingerprint).isSome ∧ finding.recurrenceOf.isNone then
        { finding with
          recurrenceOf := (indexBy BacklogItem.fingerprint closed finding.fingerprint).map BacklogItem.id }
      else finding) = finding.opening closed := by
  unfold BacklogFinding.opening
  split
  next recurs =>
    rw [Option.isNone_iff_eq_none.mp recurs.2, Option.none_or]
  next kept =>
    have same : finding.recurrenceOf.or ((indexBy BacklogItem.fingerprint closed finding.fingerprint).map
        BacklogItem.id) = finding.recurrenceOf := by
      cases named : finding.recurrenceOf with
      | some prior => rfl
      | none =>
        cases prior : indexBy BacklogItem.fingerprint closed finding.fingerprint with
        | none => rfl
        | some item => exact absurd ⟨by rw [prior]; rfl, by rw [named]; rfl⟩ kept
    rw [same]

theorem reconcileFinding_checked {closed : List BacklogItem} {progress : Reconciliation} {finding : BacklogFinding}
    (checked : finding.evidenceStatus.checked) : reconcileFinding closed progress finding = .ok {
      existing := recalled closed progress.existing finding
      effects := progress.effects ++ findingEffects closed progress.existing finding } := by
  have opened : (finding.opening closed).evidenceStatus.checked := checked
  have effective := opening_eq closed finding
  cases matched : indexBy BacklogItem.fingerprint progress.existing finding.fingerprint with
  | none =>
    simp only [reconcileFinding, checked, if_true, matched, Option.isNone_none, Option.isSome_none, true_and,
      effective, backlogEffect_checked checked, backlogEffect_checked opened]
    cases status : finding.evidenceStatus <;>
      simp [status, findingEffects, openingEffect, rankEffect, statusEffects, recalled, targetOf, matched, bind,
        Except.bind, Except.map, pure, Except.pure]
  | some item =>
    simp only [reconcileFinding, checked, if_true, matched, Option.isNone_some, Option.isSome_some, Bool.false_eq_true,
      false_and, if_false, backlogEffect_checked checked]
    cases status : finding.evidenceStatus <;>
      simp [status, findingEffects, openingEffect, rankEffect, statusEffects, recalled, targetOf, matched, bind,
        Except.bind, Except.map, pure, Except.pure]

theorem reconcileFinding_unchecked {closed : List BacklogItem} {progress : Reconciliation} {finding : BacklogFinding}
    (unchecked : ¬ finding.evidenceStatus.checked) : reconcileFinding closed progress finding = .ok progress := by
  unfold reconcileFinding
  rw [if_neg unchecked]
  rfl

/-- The findings that a reconciliation goes through. -/
def checkedFindings (findings : List BacklogFinding) : List BacklogFinding :=
  (sortedFindings findings).filter (fun finding => finding.evidenceStatus.checked)

omit [Fingerprints] in
theorem mem_checkedFindings {findings : List BacklogFinding} {finding : BacklogFinding} :
    finding ∈ checkedFindings findings ↔ finding ∈ findings ∧ finding.evidenceStatus.checked := by
  unfold checkedFindings sortedFindings
  rw [List.mem_filter, List.mem_insertionSort]

/-- The effects of checked findings, one after the other. -/
def traceEffects (closed : List BacklogItem) : List BacklogItem → List BacklogFinding → List BacklogEffect
  | _, [] => []
  | existing, finding :: rest =>
    findingEffects closed existing finding ++ traceEffects closed (recalled closed existing finding) rest

theorem foldlM_reconcileFinding {closed : List BacklogItem} {progress : Reconciliation}
    {findings : List BacklogFinding} : ∃ existing, findings.foldlM (reconcileFinding closed) progress = .ok {
      existing
      effects := progress.effects ++ traceEffects closed progress.existing
        (findings.filter (fun finding => finding.evidenceStatus.checked)) } := by
  induction findings generalizing progress with
  | nil => exact ⟨progress.existing, by simp [traceEffects, pure, Except.pure]⟩
  | cons finding rest ih =>
    rw [List.foldlM_cons]
    by_cases checked : finding.evidenceStatus.checked
    · obtain ⟨existing, later⟩ := @ih {
        existing := recalled closed progress.existing finding
        effects := progress.effects ++ findingEffects closed progress.existing finding }
      refine ⟨existing, ?_⟩
      rw [reconcileFinding_checked checked, List.filter_cons, if_pos checked, traceEffects, ← List.append_assoc]
      exact later
    · obtain ⟨existing, later⟩ := @ih progress
      refine ⟨existing, ?_⟩
      rw [reconcileFinding_unchecked checked, List.filter_cons, if_neg checked]
      exact later

/-- A reconciliation never fails. -/
theorem reconcile_eq (items : List BacklogItem) (findings : List BacklogFinding) : reconcile items findings =
    .ok (traceEffects (items.filter BacklogItem.closed) (items.filter (fun item => !item.closed))
      (checkedFindings findings)) := by
  obtain ⟨existing, done⟩ := @foldlM_reconcileFinding _ (items.filter BacklogItem.closed)
    { existing := items.filter (fun item => !item.closed) } (sortedFindings findings)
  simp only [reconcile, done, List.nil_append, bind, Except.bind, pure, Except.pure, checkedFindings]

/-- An item that a finding has ranked. -/
def BacklogItem.ranked (item : BacklogItem) (finding : BacklogFinding) : BacklogItem :=
  { item with
    rank := finding.priority
    blocked := item.blocked || finding.evidenceStatus = .checkedBlocked }

/-- The item that a finding opens. -/
def openedItem (closed : List BacklogItem) (target : String) (finding : BacklogFinding) : BacklogItem where
  id := target
  fingerprint := finding.fingerprint
  title := finding.title
  protectedConsequence := finding.protectedConsequence
  source := finding.source
  rank := 0
  recurrenceOf := (finding.opening closed).recurrenceOf

/-- The item under the target of a finding once its effects were applied. -/
def settledItem (closed : List BacklogItem) (items : List BacklogItem) (target : String) (finding : BacklogFinding) :
    BacklogItem :=
  ((indexBy BacklogItem.id items target).getD (openedItem closed target finding)).ranked finding

/-- Effects that closing is kept out of. -/
def authorized (effects : List BacklogEffect) : List BacklogEffect :=
  effects.filter (fun effect => effect.kind.applicable)

omit [Fingerprints] in
theorem authorized_append (first second : List BacklogEffect) :
    authorized (first ++ second) = authorized first ++ authorized second := List.filter_append ..

/-- Of what follows the opening effect only a closing is kept out. -/
theorem authorized_ranking (finding : BacklogFinding) (target : String) :
    authorized (rankEffect finding target :: statusEffects finding target) = rankEffect finding target ::
      if finding.evidenceStatus = .checkedBlocked then
        [finding.effect .block target "checked prerequisite is open"] else [] := by
  unfold statusEffects
  cases status : finding.evidenceStatus <;> rfl

section
omit [Fingerprints]
variable {items : List BacklogItem} {effect : BacklogEffect} {item : BacklogItem}

theorem applyEffect_create (kind : effect.kind = .create)
    (absent : indexBy BacklogItem.id items effect.targetItemId = none) : applyEffect items effect =
      .ok (upsert BacklogItem.id items {
        id := effect.targetItemId
        fingerprint := effect.fingerprint
        title := effect.title
        protectedConsequence := effect.protectedConsequence
        source := effect.source
        rank := 0
        recurrenceOf := effect.recurrenceOf }) := by
  simp only [applyEffect, kind, absent]
  rfl

theorem applyEffect_known (kind : effect.kind = .create ∨ effect.kind = .dedupe)
    (there : indexBy BacklogItem.id items effect.targetItemId = some item)
    (same : item.fingerprint = effect.fingerprint) : applyEffect items effect = .ok items := by
  rcases kind with kind | kind
  · simp only [applyEffect, kind, there, require, if_pos same]
    rfl
  · simp only [applyEffect, kind, there, require, if_pos same]
    rfl

theorem applyEffect_rank (kind : effect.kind = .rank)
    (there : indexBy BacklogItem.id items effect.targetItemId = some item)
    (same : item.fingerprint = effect.fingerprint) : applyEffect items effect =
      .ok (upsert BacklogItem.id items { item with rank := effect.rank.getD 0 }) := by
  simp only [applyEffect, kind, there, require, if_pos same]
  rfl

theorem applyEffect_block (kind : effect.kind = .block)
    (there : indexBy BacklogItem.id items effect.targetItemId = some item)
    (same : item.fingerprint = effect.fingerprint) : applyEffect items effect =
      .ok (upsert BacklogItem.id items { item with blocked := true }) := by
  simp only [applyEffect, kind, there, require, if_pos same]
  rfl

end

/-- Ranking and blocking the item that stands under the target. -/
theorem apply_ranking {items : List BacklogItem} {item : BacklogItem} {finding : BacklogFinding} {target : String}
    (distinct : (items.map BacklogItem.id).Nodup) (there : indexBy BacklogItem.id items target = some item)
    (same : item.fingerprint = finding.fingerprint) :
    (authorized (rankEffect finding target :: statusEffects finding target)).foldlM applyEffect items =
      .ok (upsert BacklogItem.id items (item.ranked finding)) := by
  have keyed : item.id = target := (indexBy_some there).2
  rw [authorized_ranking, List.foldlM_cons, @applyEffect_rank _ (rankEffect finding target) item rfl there same]
  have stands : indexBy BacklogItem.id (upsert BacklogItem.id items { item with rank := finding.priority })
      target = some { item with rank := finding.priority } := by
    rw [indexBy_upsert distinct, if_pos keyed]
  unfold BacklogItem.ranked
  by_cases blocked : finding.evidenceStatus = .checkedBlocked
  · have blocking := @applyEffect_block _ (finding.effect .block target "checked prerequisite is open") _ rfl stands
      same
    have twice := @upsert_upsert _ _ _ BacklogItem.id items { item with rank := finding.priority }
      { item with rank := finding.priority, blocked := true } rfl
    rw [twice] at blocking
    rw [if_pos blocked, decide_eq_true blocked, Bool.or_true]
    exact congrArg (· >>= pure) blocking
  · rw [if_neg blocked, decide_eq_false blocked, Bool.or_false]
    rfl

/-- What the authorized effects of one finding do: they put one item. -/
theorem apply_findingEffects {closed existing items : List BacklogItem} {finding : BacklogFinding}
    (distinct : (items.map BacklogItem.id).Nodup)
    (joined : indexBy BacklogItem.fingerprint existing finding.fingerprint ≠ none →
      targetOf closed existing finding ∈ items.map BacklogItem.id)
    (same : ∀ item ∈ items, item.id = targetOf closed existing finding → item.fingerprint = finding.fingerprint) :
    (authorized (findingEffects closed existing finding)).foldlM applyEffect items =
      .ok (upsert BacklogItem.id items (settledItem closed items (targetOf closed existing finding) finding)) := by
  have split : authorized (findingEffects closed existing finding) = openingEffect closed existing finding ::
      authorized (rankEffect finding (targetOf closed existing finding) ::
        statusEffects finding (targetOf closed existing finding)) := by
    unfold findingEffects openingEffect authorized
    split <;> rfl
  rw [split, List.foldlM_cons]
  unfold settledItem
  cases there : indexBy BacklogItem.id items (targetOf closed existing finding) with
  | some item =>
    obtain ⟨owned, keyed⟩ := indexBy_some there
    have opened : applyEffect items (openingEffect closed existing finding) = .ok items := by
      unfold openingEffect
      split
      next => exact applyEffect_known (.inr rfl) there (same item owned keyed)
      next => exact applyEffect_known (.inl rfl) there (same item owned keyed)
    rw [opened]
    exact apply_ranking distinct there (same item owned keyed)
  | none =>
    have unmatched : indexBy BacklogItem.fingerprint existing finding.fingerprint = none := by
      by_contra matched
      exact indexBy_eq_none_iff.mp there (joined matched)
    have opened : applyEffect items (openingEffect closed existing finding) = .ok (upsert BacklogItem.id items
        (openedItem closed (targetOf closed existing finding) finding)) := by
      unfold openingEffect
      rw [unmatched]
      exact applyEffect_create rfl there
    have stands : indexBy BacklogItem.id (upsert BacklogItem.id items
        (openedItem closed (targetOf closed existing finding) finding)) (targetOf closed existing finding) =
          some (openedItem closed (targetOf closed existing finding) finding) := by
      rw [indexBy_upsert distinct]
      exact if_pos rfl
    have ranking := @apply_ranking _ _ _ finding _ (upsert_nodup distinct) stands rfl
    have keyed : ((openedItem closed (targetOf closed existing finding) finding).ranked finding).id =
        (openedItem closed (targetOf closed existing finding) finding).id := rfl
    rw [upsert_upsert keyed] at ranking
    rw [opened]
    exact ranking

end

end RatchetingInquiry
