import RatchetingInquiry.Library.Canonical
import RatchetingInquiry.Library.Pareto
import RatchetingInquiry.Project.Selection

/-! The capability frontier. Dominance is a strict partial order on successor candidates, so the frontier is never
empty and dominates everything outside it; a discriminator is selected exactly when one of the selectable candidates
costs no more than all of them on every axis. -/

namespace RatchetingInquiry

/-- The cost on an axis, where an unknown one counts as zero. -/
def CapabilitySuccessorCandidate.costOrZero (candidate : CapabilitySuccessorCandidate) (axis : String) : Nat :=
  (candidate.cost axis).getD 0

/-- No preserved capability, gain or cost of the first candidate is behind those of the second. -/
structure CapabilitySuccessorCandidate.AtLeastAsGood (left right : CapabilitySuccessorCandidate) : Prop where
  anchor : left.anchorId = right.anchorId
  limitation : left.limitationId = right.limitationId
  axes : ∀ axis, axis ∈ left.axes ↔ axis ∈ right.axes
  left_known : left.costsKnown = true
  right_known : right.costsKnown = true
  preserves : right.preservedCapabilityIds ⊆ left.preservedCapabilityIds
  gains : right.gainKinds ⊆ left.gainKinds
  costs : ∀ axis ∈ left.axes, left.costOrZero axis ≤ right.costOrZero axis

/-- Something is preserved, gained or saved beyond the second candidate. -/
def CapabilitySuccessorCandidate.Exceeds (left right : CapabilitySuccessorCandidate) : Prop :=
  ¬ left.preservedCapabilityIds ⊆ right.preservedCapabilityIds ∨ ¬ left.gainKinds ⊆ right.gainKinds ∨
    ∃ axis ∈ left.axes, left.costOrZero axis < right.costOrZero axis

theorem sameAxes_iff {left right : CapabilitySuccessorCandidate} :
    sameAxes left right = true ↔ ∀ axis, axis ∈ left.axes ↔ axis ∈ right.axes := by
  unfold sameAxes
  rw [Bool.and_eq_true, decide_eq_true_eq, decide_eq_true_eq]
  constructor
  · intro ⟨forth, back⟩ axis
    exact ⟨fun member => forth member, fun member => back member⟩
  · intro same
    exact ⟨fun axis member => (same axis).mp member, fun axis member => (same axis).mpr member⟩

theorem costNoWorse_iff {left right : CapabilitySuccessorCandidate} :
    costNoWorse left right = true ↔ ∀ axis ∈ left.axes, left.costOrZero axis ≤ right.costOrZero axis := by
  simp [costNoWorse, CapabilitySuccessorCandidate.costOrZero]

/-- What the source's test decides. -/
theorem candidateDominates_iff {left right : CapabilitySuccessorCandidate} :
    candidateDominates left right = true ↔ left.AtLeastAsGood right ∧ left.Exceeds right := by
  unfold candidateDominates
  split
  next elsewhere =>
    simp only [Bool.false_eq_true, false_iff, not_and]
    intro good
    exact absurd (by rw [good.anchor, good.limitation]) elsewhere
  next together =>
    obtain ⟨anchor, limitation⟩ := Prod.mk.inj (not_not.mp together)
    split
    next incomparable =>
      simp only [Bool.false_eq_true, false_iff, not_and]
      intro good
      rcases incomparable with different | unknown | unknown
      · exact absurd (sameAxes_iff.mpr good.axes) different
      · exact absurd good.left_known unknown
      · exact absurd good.right_known unknown
    next comparable =>
      simp only [not_or, not_not] at comparable
      obtain ⟨axes, leftKnown, rightKnown⟩ := comparable
      simp only [Bool.and_eq_true, decide_eq_true_eq, costNoWorse_iff, List.any_eq_true]
      constructor
      · intro ⟨⟨⟨preserves, gains⟩, costs⟩, exceeds⟩
        exact ⟨⟨anchor, limitation, sameAxes_iff.mp axes, leftKnown, rightKnown, preserves, gains, costs⟩, exceeds⟩
      · intro ⟨good, exceeds⟩
        exact ⟨⟨⟨good.preserves, good.gains⟩, good.costs⟩, exceeds⟩

theorem candidateDominates_irrefl (candidate : CapabilitySuccessorCandidate) :
    ¬ candidateDominates candidate candidate = true := by
  intro dominates
  rcases (candidateDominates_iff.mp dominates).2 with more | more | ⟨axis, -, less⟩
  · exact more (List.Subset.refl _)
  · exact more (List.Subset.refl _)
  · exact lt_irrefl _ less

theorem candidateDominates_trans {first second third : CapabilitySuccessorCandidate}
    (one : candidateDominates first second = true) (two : candidateDominates second third = true) :
    candidateDominates first third = true := by
  obtain ⟨upper, exceeds⟩ := candidateDominates_iff.mp one
  obtain ⟨lower, -⟩ := candidateDominates_iff.mp two
  refine candidateDominates_iff.mpr ⟨⟨upper.anchor.trans lower.anchor, upper.limitation.trans lower.limitation,
    fun axis => (upper.axes axis).trans (lower.axes axis), upper.left_known, lower.right_known,
    List.Subset.trans lower.preserves upper.preserves, List.Subset.trans lower.gains upper.gains, ?_⟩, ?_⟩
  · intro axis member
    exact (upper.costs axis member).trans (lower.costs axis ((upper.axes axis).mp member))
  · rcases exceeds with more | more | ⟨axis, member, less⟩
    · exact .inl fun within => more (List.Subset.trans within lower.preserves)
    · exact .inr (.inl fun within => more (List.Subset.trans within lower.gains))
    · exact .inr (.inr ⟨axis, member, less.trans_le (lower.costs axis ((upper.axes axis).mp member))⟩)

section
variable {candidates : List CapabilitySuccessorCandidate}

/-- No candidate dominates the item. -/
def Undominated (candidates : List CapabilitySuccessorCandidate) (item : CapabilitySuccessorCandidate) : Prop :=
  ∀ other ∈ candidates, ¬ candidateDominates other item = true

/-- An undominated, reversible candidate with a discriminator. -/
structure Selectable (candidates : List CapabilitySuccessorCandidate) (item : CapabilitySuccessorCandidate) : Prop where
  member : item ∈ candidates
  undominated : Undominated candidates item
  reversible : item.reversible = true
  discriminated : item.discriminatorId.isSome = true

/-- The selectable candidates have fully known costs over one set of axes. -/
def CostsComparable (candidates : List CapabilitySuccessorCandidate) : Prop :=
  ∀ item, Selectable candidates item → item.costsKnown = true ∧
    ∀ other, Selectable candidates other → ∀ axis, axis ∈ item.axes ↔ axis ∈ other.axes

/-- Costs are comparable, and the selectable item costs no more than any on every axis. -/
structure Cheapest (candidates : List CapabilitySuccessorCandidate) (item : CapabilitySuccessorCandidate) : Prop where
  comparable : CostsComparable candidates
  selectable : Selectable candidates item
  no_worse : ∀ other, Selectable candidates other → ∀ axis ∈ item.axes, item.costOrZero axis ≤ other.costOrZero axis

/-- What the frontier of a list of candidates is. -/
structure CapabilityFrontier.IsSelectionFrom (frontier : CapabilityFrontier)
    (candidates : List CapabilitySuccessorCandidate) : Prop where
  nonempty : frontier.nondominatedCandidateIds ≠ []
  nondominated : ∀ identity, identity ∈ frontier.nondominatedCandidateIds ↔
    ∃ item ∈ candidates, item.id = identity ∧ Undominated candidates item
  dominates_the_rest : ∀ item ∈ candidates, item.id ∉ frontier.nondominatedCandidateIds →
    ∃ member ∈ candidates, member.id ∈ frontier.nondominatedCandidateIds ∧ candidateDominates member item = true
  incomparable : ∀ left right, (left, right) ∈ frontier.incomparablePairs ↔
    left ∈ frontier.nondominatedCandidateIds ∧ right ∈ frontier.nondominatedCandidateIds ∧ left < right
  selected : ∀ identity, frontier.selectedDiscriminatorCandidateId = some identity ↔
    ∃ item, item.id = identity ∧ Cheapest candidates item ∧ ∀ other, Cheapest candidates other → item.id ≤ other.id
  ready : frontier.status = .ready ↔ ∃ item, Cheapest candidates item
  validated : frontier.validateFrontier = .ok frontier

/-- The pairs of a strictly sorted list are those of its members in order. -/
theorem mem_orderedPairs {α κ : Type} [LinearOrder κ] {key : α → κ} {items : List α}
    (ordered : items.Pairwise (fun left right => key left < key right)) {left right : α} :
    (left, right) ∈ orderedPairs items ↔ left ∈ items ∧ right ∈ items ∧ key left < key right := by
  induction items with
  | nil => simp [orderedPairs]
  | cons first rest ih =>
    obtain ⟨above, restOrdered⟩ := List.pairwise_cons.mp ordered
    unfold orderedPairs
    rw [List.mem_append, ih restOrdered, List.mem_map]
    constructor
    · intro listed
      rcases listed with ⟨second, member, same⟩ | ⟨leftMember, rightMember, below⟩
      · obtain ⟨rfl, rfl⟩ := Prod.mk.inj same
        exact ⟨List.mem_cons_self, List.mem_cons_of_mem _ member, above second member⟩
      · exact ⟨List.mem_cons_of_mem _ leftMember, List.mem_cons_of_mem _ rightMember, below⟩
    · intro ⟨leftMember, rightMember, below⟩
      rcases List.mem_cons.mp leftMember with rfl | leftLater
      · rcases List.mem_cons.mp rightMember with rfl | rightLater
        · exact absurd below (lt_irrefl _)
        · exact .inl ⟨right, rightLater, rfl⟩
      · rcases List.mem_cons.mp rightMember with rfl | rightLater
        · exact absurd below (not_lt_of_gt (above left leftLater))
        · exact .inr ⟨leftLater, rightLater, below⟩

/-- The head of a strictly sorted list is its least member. -/
theorem head_eq_some_iff {α κ : Type} [LinearOrder κ] {key : α → κ} {items : List α}
    (ordered : items.Pairwise (fun left right => key left < key right)) {item : α} :
    items.head? = some item ↔ item ∈ items ∧ ∀ other ∈ items, key item ≤ key other := by
  cases items with
  | nil => simp
  | cons first rest =>
    have above := (List.pairwise_cons.mp ordered).1
    rw [List.head?_cons, Option.some.injEq]
    constructor
    · intro same
      subst same
      refine ⟨List.mem_cons_self, ?_⟩
      intro other member
      rcases List.mem_cons.mp member with rfl | later
      · exact le_rfl
      · exact (above other later).le
    · intro ⟨member, least⟩
      rcases List.mem_cons.mp member with rfl | later
      · rfl
      · exact absurd (above item later) (not_lt_of_ge (least first List.mem_cons_self))

/-- The candidates that the source keeps, in identity order. -/
def nondominatedCandidates (candidates : List CapabilitySuccessorCandidate) : List CapabilitySuccessorCandidate :=
  (candidates.insertionSort (fun left right => left.id ≤ right.id)).filter (fun item =>
    ¬ (candidates.insertionSort (fun left right => left.id ≤ right.id)).any
      (fun other => other.id ≠ item.id && candidateDominates other item))

def selectableCandidates (candidates : List CapabilitySuccessorCandidate) : List CapabilitySuccessorCandidate :=
  (nondominatedCandidates candidates).filter (fun item => item.reversible && item.discriminatorId.isSome)

variable (distinct : (candidates.map (·.id)).Nodup)
include distinct

theorem mem_nondominatedCandidates {item : CapabilitySuccessorCandidate} :
    item ∈ nondominatedCandidates candidates ↔ item ∈ candidates ∧ Undominated candidates item := by
  unfold nondominatedCandidates
  rw [List.mem_filter, List.mem_insertionSort]
  apply and_congr_right
  intro member
  simp only [decide_eq_true_eq, List.any_eq_true, List.mem_insertionSort, Bool.and_eq_true, not_exists, not_and]
  constructor
  · intro undominated other otherMember dominates
    by_cases sameId : other.id = item.id
    · obtain rfl := List.inj_on_of_nodup_map distinct otherMember member sameId
      exact candidateDominates_irrefl other dominates
    · exact undominated other otherMember (by simpa using sameId) dominates
  · intro undominated other otherMember _
    exact undominated other otherMember

theorem mem_selectableCandidates {item : CapabilitySuccessorCandidate} :
    item ∈ selectableCandidates candidates ↔ Selectable candidates item := by
  unfold selectableCandidates
  rw [List.mem_filter, mem_nondominatedCandidates distinct, Bool.and_eq_true]
  constructor
  · intro ⟨⟨member, undominated⟩, reversible, discriminated⟩
    exact ⟨member, undominated, reversible, discriminated⟩
  · intro selectable
    exact ⟨⟨selectable.member, selectable.undominated⟩, selectable.reversible, selectable.discriminated⟩

theorem nondominatedCandidates_ascending :
    (nondominatedCandidates candidates).Pairwise (fun left right => left.id < right.id) :=
  (insertionSort_ascending distinct).filter _

theorem mem_costMinima {item : CapabilitySuccessorCandidate} :
    item ∈ costMinima (selectableCandidates candidates) ↔ Cheapest candidates item := by
  have comparable_iff : ((selectableCandidates candidates).all (·.costsKnown) = true ∧
      (selectableCandidates candidates).all (fun left => (selectableCandidates candidates).all (sameAxes left)) = true) ↔
        CostsComparable candidates := by
    simp only [List.all_eq_true, mem_selectableCandidates distinct, sameAxes_iff]
    constructor
    · intro ⟨known, shared⟩ one selectable
      exact ⟨known one selectable, shared one selectable⟩
    · intro comparable
      exact ⟨fun one selectable => (comparable one selectable).1, fun one selectable => (comparable one selectable).2⟩
  unfold costMinima
  split
  next comparable =>
    simp only [List.mem_filter, mem_selectableCandidates distinct, List.all_eq_true, costNoWorse_iff]
    constructor
    · intro ⟨selectable, noWorse⟩
      exact ⟨comparable_iff.mp comparable, selectable, noWorse⟩
    · intro cheapest
      exact ⟨cheapest.selectable, cheapest.no_worse⟩
  next incomparable =>
    simp only [List.not_mem_nil, false_iff]
    intro cheapest
    exact incomparable (comparable_iff.mpr cheapest.comparable)

/-- The selected candidate is the cheapest one with the lowest identity. -/
theorem selected_eq_some {item : CapabilitySuccessorCandidate} :
    (costMinima (selectableCandidates candidates)).head? = some item ↔
      Cheapest candidates item ∧ ∀ other, Cheapest candidates other → item.id ≤ other.id := by
  have ascending : (costMinima (selectableCandidates candidates)).Pairwise (fun left right => left.id < right.id) := by
    unfold costMinima
    split
    next => exact ((nondominatedCandidates_ascending distinct).filter _).filter _
    next => exact List.Pairwise.nil
  rw [head_eq_some_iff ascending]
  simp only [mem_costMinima distinct]

/-- Between undominated candidates every pair is incomparable. -/
theorem incomparablePairs_eq :
    (orderedPairs (nondominatedCandidates candidates)).filter (fun pair =>
      ¬ candidateDominates pair.1 pair.2 && ¬ candidateDominates pair.2 pair.1) =
        orderedPairs (nondominatedCandidates candidates) := by
  rw [List.filter_eq_self]
  intro ⟨left, right⟩ listed
  obtain ⟨leftMember, rightMember, -⟩ := (mem_orderedPairs (nondominatedCandidates_ascending distinct)).mp listed
  obtain ⟨leftListed, leftUndominated⟩ := (mem_nondominatedCandidates distinct).mp leftMember
  obtain ⟨rightListed, rightUndominated⟩ := (mem_nondominatedCandidates distinct).mp rightMember
  simp only [Bool.and_eq_true, decide_eq_true_eq]
  exact ⟨rightUndominated left leftListed, leftUndominated right rightListed⟩

/-- Every candidate is undominated or dominated by an undominated one. -/
theorem undominated_or_dominated {item : CapabilitySuccessorCandidate} (member : item ∈ candidates) :
    ∃ best ∈ nondominatedCandidates candidates, best = item ∨ candidateDominates best item = true := by
  obtain ⟨best, bestMember, undominated, atLeast⟩ := @exists_undominated _
    (fun left right => candidateDominates left right = true) candidateDominates_irrefl candidateDominates_trans _ _ member
  exact ⟨best, (mem_nondominatedCandidates distinct).mpr ⟨bestMember, undominated⟩, atLeast⟩

/-- The frontier that the source builds from candidates of one anchor and limitation. -/
def selectionFrontier (frontierId : String) (first : CapabilitySuccessorCandidate)
    (candidates : List CapabilitySuccessorCandidate) : CapabilityFrontier where
  id := frontierId
  anchorId := first.anchorId
  limitationId := first.limitationId
  candidateIds := (candidates.insertionSort (fun left right => left.id ≤ right.id)).map (·.id)
  nondominatedCandidateIds := (nondominatedCandidates candidates).map (·.id)
  incomparablePairs := (orderedPairs (nondominatedCandidates candidates)).map (fun pair => (pair.1.id, pair.2.id))
  selectedDiscriminatorCandidateId := (costMinima (selectableCandidates candidates)).head?.map (·.id)
  status := if (costMinima (selectableCandidates candidates)).head?.isSome then .ready else .unknown

theorem selectionFrontier_validated (given : candidates ≠ []) (frontierId : String)
    (first : CapabilitySuccessorCandidate) :
    (selectionFrontier frontierId first candidates).validateFrontier = .ok (selectionFrontier frontierId first candidates) := by
  obtain ⟨some, rest, starts⟩ := List.exists_cons_of_ne_nil given
  have member : some ∈ candidates := starts ▸ List.mem_cons_self
  obtain ⟨best, bestMember, -⟩ := undominated_or_dominated distinct member
  have sortedMember : best ∈ candidates.insertionSort (fun left right => left.id ≤ right.id) :=
    (List.mem_filter.mp bestMember).1
  unfold CapabilityFrontier.validateFrontier selectionFrontier
  simp only [require_bind_eq_ok]
  refine ⟨List.ne_nil_of_mem (List.mem_map_of_mem sortedMember), List.pairwise_map.mpr (insertionSort_ascending distinct),
    List.ne_nil_of_mem (List.mem_map_of_mem bestMember), List.pairwise_map.mpr (nondominatedCandidates_ascending distinct),
    List.map_subset _ (List.filter_subset_self _), ?_, ?_, rfl⟩
  · intro ready
    cases chosen : (costMinima (selectableCandidates candidates)).head? <;> simp [chosen] at ready ⊢
  · intro unknown
    cases chosen : (costMinima (selectableCandidates candidates)).head? <;> simp [chosen] at unknown ⊢

theorem selectionFrontier_isSelection (given : candidates ≠ []) (frontierId : String)
    (first : CapabilitySuccessorCandidate) :
    (selectionFrontier frontierId first candidates).IsSelectionFrom candidates := by
  have validated := selectionFrontier_validated distinct given frontierId first
  have nonempty : (selectionFrontier frontierId first candidates).nondominatedCandidateIds ≠ [] := by
    simp only [CapabilityFrontier.validateFrontier, require_bind_eq_ok] at validated
    exact validated.2.2.1
  refine ⟨nonempty, ?_, ?_, ?_, ?_, ?_, validated⟩
  · intro identity
    simp only [selectionFrontier, List.mem_map, mem_nondominatedCandidates distinct]
    constructor
    · intro ⟨item, ⟨member, undominated⟩, same⟩
      exact ⟨item, member, same, undominated⟩
    · intro ⟨item, member, same, undominated⟩
      exact ⟨item, ⟨member, undominated⟩, same⟩
  · intro item member outside
    obtain ⟨best, bestMember, atLeast⟩ := undominated_or_dominated distinct member
    have bestListed := ((mem_nondominatedCandidates distinct).mp bestMember).1
    rcases atLeast with rfl | dominates
    · exact absurd (List.mem_map_of_mem bestMember) outside
    · exact ⟨best, bestListed, List.mem_map_of_mem bestMember, dominates⟩
  · intro left right
    simp only [selectionFrontier, List.mem_map, Prod.mk.injEq, Prod.exists]
    constructor
    · intro ⟨one, other, listed, sameLeft, sameRight⟩
      obtain ⟨oneMember, otherMember, below⟩ :=
        (mem_orderedPairs (nondominatedCandidates_ascending distinct)).mp listed
      subst sameLeft sameRight
      exact ⟨⟨one, oneMember, rfl⟩, ⟨other, otherMember, rfl⟩, below⟩
    · intro ⟨⟨one, oneMember, sameLeft⟩, ⟨other, otherMember, sameRight⟩, below⟩
      subst sameLeft sameRight
      exact ⟨one, other, (mem_orderedPairs (nondominatedCandidates_ascending distinct)).mpr
        ⟨oneMember, otherMember, below⟩, rfl, rfl⟩
  · intro identity
    simp only [selectionFrontier, Option.map_eq_some_iff, selected_eq_some distinct]
    constructor
    · intro ⟨item, ⟨cheapest, lowest⟩, same⟩
      exact ⟨item, same, cheapest, lowest⟩
    · intro ⟨item, same, cheapest, lowest⟩
      exact ⟨item, ⟨cheapest, lowest⟩, same⟩
  · have some_iff : (costMinima (selectableCandidates candidates)).head?.isSome ↔ ∃ item, Cheapest candidates item := by
      rw [List.isSome_head?]
      constructor
      · intro found
        obtain ⟨item, member⟩ := List.exists_mem_of_ne_nil _ found
        exact ⟨item, (mem_costMinima distinct).mp member⟩
      · intro ⟨item, cheapest⟩
        exact List.ne_nil_of_mem ((mem_costMinima distinct).mpr cheapest)
    simp only [selectionFrontier, ← some_iff]
    cases (costMinima (selectableCandidates candidates)).head? <;> simp

theorem deriveCapabilityFrontier_eq (given : candidates ≠ [])
    (together : ∀ item ∈ candidates, ∀ other ∈ candidates,
      item.anchorId = other.anchorId ∧ item.limitationId = other.limitationId) (frontierId : String)
    {first : CapabilitySuccessorCandidate} (member : first ∈ candidates) :
    deriveCapabilityFrontier frontierId candidates = .ok (selectionFrontier frontierId first candidates) := by
  have sorted : candidates.insertionSort (fun left right => left.id ≤ right.id) ≠ [] :=
    List.ne_nil_of_mem ((List.mem_insertionSort _).mpr member)
  obtain ⟨head, rest, starts⟩ := List.exists_cons_of_ne_nil sorted
  have headMember : head ∈ candidates := by
    rw [← List.mem_insertionSort (fun left right => left.id ≤ right.id), starts]
    exact List.mem_cons_self
  have samePins : selectionFrontier frontierId head candidates = selectionFrontier frontierId first candidates := by
    obtain ⟨anchor, limitation⟩ := together head headMember first member
    simp only [selectionFrontier, anchor, limitation]
  have validated := selectionFrontier_validated distinct given frontierId head
  have pairs := incomparablePairs_eq distinct
  rw [← samePins]
  unfold deriveCapabilityFrontier
  simp only [found_bind_eq_ok, require_bind_eq_ok]
  refine ⟨head, by rw [starts]; rfl, ?_, ?_, ?_⟩
  · intro item listed
    obtain ⟨anchor, limitation⟩ := together item ((List.mem_insertionSort _).mp listed) head headMember
    rw [anchor, limitation]
  · exact ((List.perm_insertionSort _ _).map _).nodup_iff.mpr distinct
  · unfold nondominatedCandidates at pairs
    rw [pairs]
    exact validated

/-- Dominance is a strict partial order, and the frontier of candidates of one anchor and limitation is exactly
their undominated set with the discriminator that the source describes, whatever the order of the list. -/
theorem deriveCapabilityFrontier_exact (given : candidates ≠ [])
    (together : ∀ item ∈ candidates, ∀ other ∈ candidates,
      item.anchorId = other.anchorId ∧ item.limitationId = other.limitationId) (frontierId : String) :
    (∀ candidate, ¬ candidateDominates candidate candidate = true) ∧
      (∀ first second third, candidateDominates first second = true → candidateDominates second third = true →
        candidateDominates first third = true) ∧
      ∃ frontier, deriveCapabilityFrontier frontierId candidates = .ok frontier ∧
        frontier.IsSelectionFrom candidates ∧
        ∀ others, others.Perm candidates → deriveCapabilityFrontier frontierId others = .ok frontier := by
  refine ⟨candidateDominates_irrefl, fun _ _ _ => candidateDominates_trans, ?_⟩
  obtain ⟨first, rest, starts⟩ := List.exists_cons_of_ne_nil given
  have member : first ∈ candidates := starts ▸ List.mem_cons_self
  have derived := deriveCapabilityFrontier_eq distinct given together frontierId member
  refine ⟨_, derived, selectionFrontier_isSelection distinct given frontierId first, ?_⟩
  intro others reordered
  have sameOrder := insertionSort_eq_of_distinct reordered distinct
  unfold deriveCapabilityFrontier at derived ⊢
  rw [sameOrder]
  exact derived

end

namespace Worked

/-- A reversible successor with one estimated cost. -/
def alternative (id : String) (preserved : List String) (hours : Nat)
    (canonical : preserved ≠ [] ∧ CanonicalIds preserved := by decide) : CapabilitySuccessorCandidate where
  id := id
  anchorId := "anchor"
  limitationId := "limitation"
  kind := .implementation
  currentState := "current"
  desiredState := "desired"
  preservedCapabilityIds := preserved
  gainKinds := [.newMethod]
  discriminatorId := some "discriminator"
  evidenceMechanismIds := ["mechanism"]
  estimatedCosts := [⟨"hours", some hours⟩]
  reversible := true
  preserved_canonical := canonical
  disposed_canonical := canonical_nil
  gains_canonical := by decide
  mechanisms_canonical := given_singleton "mechanism"
  costs_canonical := ⟨by simp, by simp⟩
  preserved_not_disposed := by simp

/-- A cheap successor, a broad one, and one that is neither. -/
def alternatives : List CapabilitySuccessorCandidate :=
  [alternative "candidate-c" ["replay"] 3, alternative "candidate-a" ["replay", "search"] 2, alternative "candidate-b" ["replay"] 1]

theorem alternatives_frontier : ∃ frontier, deriveCapabilityFrontier "frontier" alternatives = .ok frontier ∧
    frontier.IsSelectionFrom alternatives ∧
    deriveCapabilityFrontier "frontier" alternatives.reverse = .ok frontier := by
  obtain ⟨-, -, frontier, derived, selection, unordered⟩ := @deriveCapabilityFrontier_exact alternatives (by decide)
    (by decide) (by decide) "frontier"
  exact ⟨frontier, derived, selection, unordered _ (List.reverse_perm _)⟩

example : (deriveCapabilityFrontier "frontier" alternatives).toOption.map
    (fun frontier => (frontier.nondominatedCandidateIds, frontier.selectedDiscriminatorCandidateId)) =
      some (["candidate-a", "candidate-b"], some "candidate-b") := by decide +kernel

end Worked

end RatchetingInquiry
