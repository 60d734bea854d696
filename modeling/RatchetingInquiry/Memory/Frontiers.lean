import RatchetingInquiry.Library.Canonical
import RatchetingInquiry.Library.Minimal
import RatchetingInquiry.Memory.CostOrder

/-! The derived recovery frontier is the Pareto frontier of the successful observations, one point for each
undominated cost vector, in canonical order; it depends on the set of observations alone. -/

namespace RatchetingInquiry

/-- What the collection of observations raises for a reused identity. -/
def observationConflict (observation : RecoveryObservation) : Failure :=
  .recoveryCompatibility ("recovery observation identity '" ++ observation.id ++ "' has conflicting contents")

theorem deduplicateObservations_eq (observations : List RecoveryObservation) :
    deduplicateObservations observations = canonicalList RecoveryObservation.id observationConflict observations := by
  unfold deduplicateObservations canonicalList
  congr 2
  funext seen observation
  unfold collect
  cases seen.find? (fun prior => prior.id = observation.id) <;> rfl

/-- The points of the successful observations, in the order given. -/
def successfulPoints (observations : List RecoveryObservation) : List RecoveryFrontierPoint :=
  (observations.filter (·.competenceEstablished)).map
    (fun observation => { observationId := observation.id, costs := observation.costs })

theorem mem_successfulPoints {observations : List RecoveryObservation} {point : RecoveryFrontierPoint} :
    point ∈ successfulPoints observations ↔ ∃ observation ∈ observations, observation.competenceEstablished = true ∧
      point = { observationId := observation.id, costs := observation.costs } := by
  unfold successfulPoints
  rw [List.mem_map]
  constructor
  · intro ⟨observation, member, same⟩
    obtain ⟨listed, successful⟩ := List.mem_filter.mp member
    exact ⟨observation, listed, successful, same.symm⟩
  · intro ⟨observation, listed, successful, same⟩
    exact ⟨observation, List.mem_filter.mpr ⟨listed, successful⟩, same.symm⟩

section
variable {points : List RecoveryFrontierPoint} {axes : List CostAxis}
  (overAxes : ∀ point ∈ points, point.costs.axisSignature = axes)
include overAxes

/-- One point for each vector: a pass that keeps a point unless a kept one has its vector. -/
theorem uniquePoints_eq : uniquePoints points =
    (minimalSplit (fun kept point => decide (kept.costs.values = point.costs.values)) points).1 := by
  unfold uniquePoints
  induction points using List.reverseRecOn with
  | nil => rfl
  | append_singleton points last ih =>
    have before := ih fun point member => overAxes point (List.mem_append_left _ member)
    rw [List.foldl_append, List.foldl_cons, List.foldl_nil, before, minimalSplit_snoc]
    have sameTests : (minimalSplit (fun kept point => decide (kept.costs.values = point.costs.values)) points).1.any
          (fun prior => costRelation last.costs prior.costs = .equal) =
        (minimalSplit (fun kept point => decide (kept.costs.values = point.costs.values)) points).1.any
          (fun kept => decide (kept.costs.values = last.costs.values)) := by
      rw [Bool.eq_iff_iff, List.any_eq_true, List.any_eq_true]
      apply exists_congr
      intro kept
      apply and_congr_right
      intro member
      have listed := (minimalSplit_sublist _ points).subset member
      have sameAxes : last.costs.axisSignature = kept.costs.axisSignature :=
        (overAxes last (by simp)).trans (overAxes kept (List.mem_append_left _ listed)).symm
      rw [decide_eq_true_eq, decide_eq_true_eq, costRelation_eq_equal sameAxes, eq_comm]
    unfold keepMinimal
    rw [sameTests]
    split <;> rfl

/-- Every point has a kept one with its vector. -/
theorem uniquePoints_covers {point : RecoveryFrontierPoint} (member : point ∈ points) :
    ∃ kept ∈ uniquePoints points, kept.costs.values = point.costs.values := by
  rw [uniquePoints_eq overAxes]
  obtain ⟨kept, listed, same⟩ := @minimalSplit_covers _
    (fun kept point : RecoveryFrontierPoint => decide (kept.costs.values = point.costs.values)) (by simp) points point
      member
  exact ⟨kept, listed, by simpa using same⟩

variable (ordered : points.Pairwise (fun left right => left.observationId < right.observationId))
include ordered

omit overAxes in
theorem toldApart_of_ordered : ToldApart RecoveryFrontierPoint.observationId points := by
  apply ToldApart.of_nodup
  exact List.pairwise_map.mpr (ordered.imp fun below => below.ne)

/-- A point is kept when it has the lowest identity among those with its vector. -/
theorem mem_uniquePoints {point : RecoveryFrontierPoint} : point ∈ uniquePoints points ↔
    point ∈ points ∧ ∀ other ∈ points, other.costs.values = point.costs.values →
      point.observationId ≤ other.observationId := by
  rw [uniquePoints_eq overAxes, mem_minimalSplit (by simp) (by intro _ _ _; simp; exact Eq.trans)
    (fun left right : RecoveryFrontierPoint => left.observationId < right.observationId) (fun _ => lt_irrefl _)
    (fun below => not_lt_of_gt below) ordered]
  simp only [decide_eq_false_iff_not]
  constructor
  · intro ⟨member, first⟩
    refine ⟨member, ?_⟩
    intro other listed same
    by_contra lower
    exact first other listed (lt_of_not_ge lower) same
  · intro ⟨member, lowest⟩
    refine ⟨member, ?_⟩
    intro other listed earlier same
    exact absurd (lowest other listed same) (not_le_of_gt earlier)

/-- A kept point stays in the frontier when no point is strictly better. -/
theorem mem_nondominatedPoints {point : RecoveryFrontierPoint} :
    point ∈ nondominatedPoints (uniquePoints points) ↔ point ∈ uniquePoints points ∧
      ∀ other ∈ points, ¬ StrictlyBetter other.costs.values point.costs.values := by
  have listed : ∀ kept ∈ uniquePoints points, kept ∈ points := fun kept member =>
    ((mem_uniquePoints overAxes ordered).mp member).1
  unfold nondominatedPoints
  rw [List.mem_filter]
  apply and_congr_right
  intro kept
  have sameAxes : ∀ other ∈ points, other.costs.axisSignature = point.costs.axisSignature := fun other member =>
    (overAxes other member).trans (overAxes point (listed point kept)).symm
  simp only [decide_eq_true_eq, List.any_eq_true, Bool.and_eq_true, decide_eq_true_eq, not_exists, not_and]
  constructor
  · intro undominated other member better
    obtain ⟨representative, representativeKept, same⟩ := uniquePoints_covers overAxes member
    have representativeBetter : StrictlyBetter representative.costs.values point.costs.values := same ▸ better
    refine undominated representative representativeKept ?_
      ((costRelation_eq_leftStrictlyBetter (sameAxes _ (listed _ representativeKept))).mpr representativeBetter)
    intro sameId
    have samePoint : representative = point := toldApart_of_ordered ordered representative
      (listed _ representativeKept) point (listed _ kept) sameId
    exact StrictlyBetter.irrefl _ (samePoint ▸ representativeBetter)
  · intro undominated other otherKept _ better
    exact undominated other (listed other otherKept)
      ((costRelation_eq_leftStrictlyBetter (sameAxes _ (listed _ otherKept))).mp better)

end

/-- What an accepted frontier looks like over the exact rationals. -/
structure RecoveryFrontier.Canonical (frontier : RecoveryFrontier) : Prop where
  over_axes : ∀ point ∈ frontier.points, point.costs.axisSignature = frontier.pins.budget.axisSignature
  ordered : frontier.points.Pairwise (fun left right => left.place ≤ right.place)
  incomparable : frontier.points.Pairwise (fun left right =>
    ¬ NoWorse left.costs.values right.costs.values ∧ ¬ NoWorse right.costs.values left.costs.values)

theorem sortedPoints_eq_self {points : List RecoveryFrontierPoint} {axes : List CostAxis}
    (overAxes : ∀ point ∈ points, point.costs.axisSignature = axes) :
    sortedPoints points = points ↔ points.Pairwise (fun left right => left.place ≤ right.place) := by
  have total : Std.Total (fun left right : RecoveryFrontierPoint => left.place ≤ right.place) :=
    ⟨fun left right => le_total left.place right.place⟩
  have transitive : IsTrans RecoveryFrontierPoint (fun left right => left.place ≤ right.place) :=
    ⟨fun _ _ _ first second => le_trans first second⟩
  rw [sortedPoints_eq overAxes]
  constructor
  · intro sorted
    rw [← sorted]
    exact List.pairwise_insertionSort _ _
  · exact List.Pairwise.insertionSort_eq

/-- The checks of a frontier over one list of axes, whatever their arithmetic, in terms of the rationals. -/
theorem checkRecoveryFrontier_iff {frontier : RecoveryFrontier} :
    (checkRecoveryFrontier frontier).1 = true ↔ frontier.Canonical := by
  by_cases overAxes : ∀ point ∈ frontier.points, point.costs.axisSignature = frontier.pins.budget.axisSignature
  · have incomparable_iff : frontier.points.Pairwise
          (fun left right => costRelation left.costs right.costs = .incomparable) ↔
        frontier.points.Pairwise (fun left right =>
          ¬ NoWorse left.costs.values right.costs.values ∧ ¬ NoWorse right.costs.values left.costs.values) := by
      apply List.Pairwise.iff_of_mem
      intro left right leftMember rightMember
      exact costRelation_eq_incomparable ((overAxes left leftMember).trans (overAxes right rightMember).symm)
    have sorted_iff := sortedPoints_eq_self overAxes
    have noneOff : frontier.points.any
        (fun point => point.costs.axisSignature ≠ frontier.pins.budget.axisSignature) = false := by
      simpa [List.any_eq_false] using overAxes
    unfold checkRecoveryFrontier
    simp only [noneOff, ne_eq, sorted_iff, incomparable_iff, Bool.false_eq_true, if_false]
    constructor
    · intro accepted
      split at accepted
      next => simp at accepted
      next sorted =>
        split at accepted
        next => simp at accepted
        next apart => exact ⟨overAxes, not_not.mp sorted, not_not.mp apart⟩
    · intro canonical
      simp [canonical.ordered, canonical.incomparable]
  · constructor
    · intro accepted
      have someOff : frontier.points.any
          (fun point => point.costs.axisSignature ≠ frontier.pins.budget.axisSignature) = true := by
        simpa using overAxes
      unfold checkRecoveryFrontier at accepted
      rw [if_pos someOff] at accepted
      simp at accepted
    · intro canonical
      exact absurd canonical.over_axes overAxes

/-- The points of a frontier that is derived from observations in identity order. -/
def derivedPoints (deduplicated : List RecoveryObservation) : List RecoveryFrontierPoint :=
  sortedPoints (nondominatedPoints (uniquePoints (successfulPoints deduplicated)))

/-- The frontier is the Pareto frontier of the successful observations. -/
structure RecoveryFrontier.IsParetoFrontierOf (frontier : RecoveryFrontier) (observations : List RecoveryObservation) :
    Prop where
  exact_points : ∀ point, point ∈ frontier.points ↔ ∃ observation ∈ observations,
    observation.competenceEstablished = true ∧
      point = { observationId := observation.id, costs := observation.costs } ∧
      (∀ other ∈ observations, other.competenceEstablished = true →
        ¬ StrictlyBetter other.costs.values observation.costs.values) ∧
      (∀ other ∈ observations, other.competenceEstablished = true →
        other.costs.values = observation.costs.values → observation.id ≤ other.id)
  one_for_each_vector : (frontier.points.map (·.costs.values)).Nodup
  covers : ∀ observation ∈ observations, observation.competenceEstablished = true →
    ∃ point ∈ frontier.points, NoWorse point.costs.values observation.costs.values
  canonical_order : frontier.points.Pairwise (fun left right => left.place ≤ right.place)
  accepted : (checkRecoveryFrontier frontier).1 = true

section
variable {deduplicated : List RecoveryObservation} {axes : List CostAxis}
  (overAxes : ∀ observation ∈ deduplicated, observation.costs.axisSignature = axes)
  (ordered : deduplicated.Pairwise (fun left right => left.id < right.id))

include overAxes in
theorem successfulPoints_overAxes : ∀ point ∈ successfulPoints deduplicated, point.costs.axisSignature = axes := by
  intro point member
  obtain ⟨observation, listed, -, rfl⟩ := mem_successfulPoints.mp member
  exact overAxes observation listed

include ordered in
theorem successfulPoints_ordered : (successfulPoints deduplicated).Pairwise
    (fun left right => left.observationId < right.observationId) :=
  List.pairwise_map.mpr (ordered.filter _)

include overAxes ordered

theorem mem_derivedPoints {point : RecoveryFrontierPoint} : point ∈ derivedPoints deduplicated ↔
    point ∈ successfulPoints deduplicated ∧
      (∀ other ∈ successfulPoints deduplicated, ¬ StrictlyBetter other.costs.values point.costs.values) ∧
      ∀ other ∈ successfulPoints deduplicated, other.costs.values = point.costs.values →
        point.observationId ≤ other.observationId := by
  have pointAxes := successfulPoints_overAxes overAxes
  have pointOrder := successfulPoints_ordered ordered
  unfold derivedPoints sortedPoints
  rw [List.mem_insertionSort, mem_nondominatedPoints pointAxes pointOrder, mem_uniquePoints pointAxes pointOrder]
  tauto

/-- Every successful point has a derived one that is no worse. -/
theorem derivedPoints_cover {point : RecoveryFrontierPoint} (member : point ∈ successfulPoints deduplicated) :
    ∃ kept ∈ derivedPoints deduplicated, NoWorse kept.costs.values point.costs.values := by
  have pointAxes := successfulPoints_overAxes overAxes
  have pointOrder := successfulPoints_ordered ordered
  obtain ⟨best, bestMember, undominated, atLeast⟩ := @exists_undominated _
    (fun left right : RecoveryFrontierPoint => StrictlyBetter left.costs.values right.costs.values)
    (fun _ => StrictlyBetter.irrefl _) StrictlyBetter.trans _ _ member
  obtain ⟨kept, keptUnique, same⟩ := uniquePoints_covers pointAxes bestMember
  obtain ⟨keptMember, lowest⟩ := (mem_uniquePoints pointAxes pointOrder).mp keptUnique
  refine ⟨kept, (mem_derivedPoints overAxes ordered).mpr ⟨keptMember, ?_, lowest⟩, ?_⟩
  · rw [same]
    exact undominated
  · rw [same]
    rcases atLeast with rfl | better
    · exact NoWorse.refl _
    · exact better.1

theorem derivedPoints_values_nodup : ((derivedPoints deduplicated).map (·.costs.values)).Nodup := by
  have pointAxes := successfulPoints_overAxes overAxes
  have pointOrder := successfulPoints_ordered ordered
  have distinct : (derivedPoints deduplicated).Nodup := by
    unfold derivedPoints sortedPoints
    rw [(List.perm_insertionSort _ _).nodup_iff]
    refine List.Nodup.filter _ ?_
    rw [uniquePoints_eq pointAxes]
    exact (pointOrder.imp fun below => fun same => absurd (same ▸ below) (lt_irrefl _)).sublist (minimalSplit_sublist _ _)
  refine distinct.map_on ?_
  intro first firstMember second secondMember same
  obtain ⟨firstListed, -, firstLowest⟩ := (mem_derivedPoints overAxes ordered).mp firstMember
  obtain ⟨secondListed, -, secondLowest⟩ := (mem_derivedPoints overAxes ordered).mp secondMember
  exact toldApart_of_ordered pointOrder first firstListed second secondListed
    (le_antisymm (firstLowest second secondListed same.symm) (secondLowest first firstListed same))

theorem derivedPoints_ids_nodup : ((derivedPoints deduplicated).map (·.observationId)).Nodup := by
  have distinct : (derivedPoints deduplicated).Nodup := List.Nodup.of_map _ (derivedPoints_values_nodup overAxes ordered)
  refine distinct.map_on ?_
  intro first firstMember second secondMember same
  have firstListed := ((mem_derivedPoints overAxes ordered).mp firstMember).1
  have secondListed := ((mem_derivedPoints overAxes ordered).mp secondMember).1
  exact toldApart_of_ordered (successfulPoints_ordered ordered) first firstListed second secondListed same

theorem derivedPoints_canonical {branch : RecoveryBranch} {pins : RecoveryPins} {sources : List String}
    (budgetAxes : axes = pins.budget.axisSignature) :
    ({ branch := branch, pins := pins, sourceObservationIds := sources, points := derivedPoints deduplicated } :
      RecoveryFrontier).Canonical := by
  have pointAxes := successfulPoints_overAxes overAxes
  have keptAxes : ∀ point ∈ derivedPoints deduplicated, point.costs.axisSignature = axes := fun point member =>
    pointAxes point ((mem_derivedPoints overAxes ordered).mp member).1
  refine ⟨fun point member => (keptAxes point member).trans budgetAxes, ?_, ?_⟩
  · have total : Std.Total (fun left right : RecoveryFrontierPoint => left.place ≤ right.place) :=
      ⟨fun left right => le_total left.place right.place⟩
    have transitive : IsTrans RecoveryFrontierPoint (fun left right => left.place ≤ right.place) :=
      ⟨fun _ _ _ first second => le_trans first second⟩
    have unsortedAxes : ∀ point ∈ nondominatedPoints (uniquePoints (successfulPoints deduplicated)),
        point.costs.axisSignature = axes := fun point member => keptAxes point ((List.mem_insertionSort _).mpr member)
    change (sortedPoints _).Pairwise _
    rw [sortedPoints_eq unsortedAxes]
    exact List.pairwise_insertionSort _ _
  · have different := List.pairwise_map.mp (derivedPoints_values_nodup overAxes ordered)
    refine different.imp_of_mem ?_
    intro left right leftMember rightMember unequal
    obtain ⟨leftListed, leftBest, -⟩ := (mem_derivedPoints overAxes ordered).mp leftMember
    obtain ⟨rightListed, rightBest, -⟩ := (mem_derivedPoints overAxes ordered).mp rightMember
    constructor
    · intro noWorse
      exact rightBest left leftListed ⟨noWorse, unequal⟩
    · intro noWorse
      exact leftBest right rightListed ⟨noWorse, fun same => unequal same.symm⟩

end

section
variable {branch : RecoveryBranch} {pins : RecoveryPins} {observations : List RecoveryObservation}
  (branches : ∀ observation ∈ observations, observation.branch = branch)
  (samePins : ∀ observation ∈ observations, observation.pins = pins)
include branches samePins

/-- The observations are deduplicated, checked, and reduced to a frontier that its validator accepts. -/
theorem deriveRecoveryFrontier_of_canonical {deduplicated : List RecoveryObservation}
    (canonical : canonicalList RecoveryObservation.id observationConflict observations = .ok deduplicated) :
    deriveRecoveryFrontier branch pins observations = .ok {
      branch := branch
      pins := pins
      sourceObservationIds := deduplicated.map RecoveryObservation.id
      points := derivedPoints deduplicated } := by
  obtain ⟨-, members, ordered⟩ := canonicalList_eq_ok.mp canonical
  have overAxes : ∀ observation ∈ deduplicated, observation.costs.axisSignature = pins.budget.axisSignature := by
    intro observation member
    rw [observation.axes_match, samePins observation ((members observation).mp member)]
  have sourcesAscending : (deduplicated.map RecoveryObservation.id).Pairwise (· < ·) := List.pairwise_map.mpr ordered
  have sourced : (derivedPoints deduplicated).map (·.observationId) ⊆ deduplicated.map RecoveryObservation.id := by
    intro identity member
    obtain ⟨point, kept, rfl⟩ := List.mem_map.mp member
    obtain ⟨observation, listed, -, rfl⟩ := mem_successfulPoints.mp ((mem_derivedPoints overAxes ordered).mp kept).1
    exact List.mem_map_of_mem listed
  unfold deriveRecoveryFrontier
  rw [bind_eq_ok]
  refine ⟨deduplicated, (deduplicateObservations_eq observations).trans canonical, ?_⟩
  rw [unit_bind_eq_ok, forM_eq_ok]
  refine ⟨?_, ?_⟩
  · intro observation member
    have listed := (members observation).mp member
    rw [require_bind_eq_ok, require_bind_eq_ok, require_eq_ok]
    exact ⟨branches observation listed, samePins observation listed, overAxes observation member⟩
  unfold RecoveryFrontier.validateFrontier
  simp only [require_bind_eq_ok]
  exact ⟨sourcesAscending.imp ne_of_lt, List.Pairwise.insertionSort_eq (sourcesAscending.imp le_of_lt),
    derivedPoints_ids_nodup overAxes ordered, sourced, rfl⟩

/-- The derived frontier is exactly the Pareto frontier of the successful observations, whatever their order and
repetitions. -/
theorem deriveRecoveryFrontier_exact (apart : ToldApart RecoveryObservation.id observations) :
    ∃ frontier, deriveRecoveryFrontier branch pins observations = .ok frontier ∧
      frontier.IsParetoFrontierOf observations ∧
      ∀ others : List RecoveryObservation, (∀ observation, observation ∈ others ↔ observation ∈ observations) →
        deriveRecoveryFrontier branch pins others = .ok frontier := by
  obtain ⟨deduplicated, canonical⟩ := @exists_canonicalList _ _ _ _ _ _ observationConflict _ apart
  obtain ⟨-, members, ordered⟩ := canonicalList_eq_ok.mp canonical
  have overAxes : ∀ observation ∈ deduplicated, observation.costs.axisSignature = pins.budget.axisSignature := by
    intro observation member
    rw [observation.axes_match, samePins observation ((members observation).mp member)]
  refine ⟨_, deriveRecoveryFrontier_of_canonical branches samePins canonical, ⟨?_, ?_, ?_, ?_, ?_⟩, ?_⟩
  · intro point
    rw [mem_derivedPoints overAxes ordered, mem_successfulPoints]
    constructor
    · intro ⟨⟨observation, listed, successful, same⟩, undominated, lowest⟩
      subst same
      refine ⟨observation, (members observation).mp listed, successful, rfl, ?_, ?_⟩
      · intro other otherListed otherSuccessful
        exact undominated _ (mem_successfulPoints.mpr ⟨other, (members other).mpr otherListed, otherSuccessful, rfl⟩)
      · intro other otherListed otherSuccessful
        exact lowest _ (mem_successfulPoints.mpr ⟨other, (members other).mpr otherListed, otherSuccessful, rfl⟩)
    · intro ⟨observation, listed, successful, same, undominated, lowest⟩
      subst same
      refine ⟨⟨observation, (members observation).mpr listed, successful, rfl⟩, ?_, ?_⟩
      · intro other otherMember
        obtain ⟨source, sourceListed, sourceSuccessful, rfl⟩ := mem_successfulPoints.mp otherMember
        exact undominated source ((members source).mp sourceListed) sourceSuccessful
      · intro other otherMember
        obtain ⟨source, sourceListed, sourceSuccessful, rfl⟩ := mem_successfulPoints.mp otherMember
        exact lowest source ((members source).mp sourceListed) sourceSuccessful
  · exact derivedPoints_values_nodup overAxes ordered
  · intro observation listed successful
    exact derivedPoints_cover overAxes ordered
      (mem_successfulPoints.mpr ⟨observation, (members observation).mpr listed, successful, rfl⟩)
  · exact (derivedPoints_canonical overAxes ordered rfl).ordered
  · exact checkRecoveryFrontier_iff.mpr (derivedPoints_canonical overAxes ordered rfl)
  · intro others sameMembers
    refine deriveRecoveryFrontier_of_canonical ?_ ?_ (canonicalList_congr sameMembers canonical)
    · intro observation listed
      exact branches observation ((sameMembers observation).mp listed)
    · intro observation listed
      exact samePins observation ((sameMembers observation).mp listed)

end

namespace Worked

/-- Costs on two axes. -/
def effort (minutes tokens : Nat) : CostVector where
  coordinates :=
    [⟨⟨"minutes", "minute"⟩, minutes, 1, by decide, by simp⟩, ⟨⟨"tokens", "token"⟩, tokens, 1, by decide, by simp⟩]
  axes_named := by simp
  axes_canonical := (by decide : CanonicalIds ["minutes", "tokens"])

def effortPins : RecoveryPins where
  scopeFingerprint := "scope"
  targetCompetenceId := "competence"
  finiteUniverseHash := "universe"
  bindingRevision := "binding"
  protectedHorizonId := "horizon"
  evaluatorId := "evaluator"
  evaluatorVersion := "1"
  evidenceAccessId := "access"
  evidenceAccessVersion := "1"
  budgetId := "budget"
  budgetVersion := "1"
  budget := effort 9 9
  recoveryProtocolId := "protocol"
  recoveryProtocolVersion := "1"
  comparisonPolicyId := "comparison"
  comparisonPolicyVersion := "1"

/-- A baseline recovery with its measured costs. -/
def measured (id : String) (minutes tokens : Nat) : RecoveryObservation where
  id := id
  branch := .baseline
  reacquisitionRequestId := "request"
  childInquiryId := "child"
  childPrefixSequence := 1
  childPrefixDigest := "prefix"
  retentionPackageId := none
  pins := effortPins
  costs := effort minutes tokens
  logicalProbeIds := ["probe"]
  measurementCheck := ⟨"evidence", "verdict"⟩
  competenceEstablished := true
  competenceCheck := some ⟨"evidence", "verdict"⟩
  axes_match := rfl
  competence_checked := by simp

/-- Two recoveries of one cost, one that trades minutes for tokens, and a dominated one. -/
def efforts : List RecoveryObservation :=
  [measured "run-c" 2 1, measured "run-b" 1 2, measured "run-d" 2 2, measured "run-a" 1 2, measured "run-c" 2 1]

theorem efforts_frontier : ∃ frontier, deriveRecoveryFrontier .baseline effortPins efforts = .ok frontier ∧
    frontier.IsParetoFrontierOf efforts ∧
    deriveRecoveryFrontier .baseline effortPins efforts.reverse = .ok frontier := by
  obtain ⟨frontier, derived, exact_frontier, unordered⟩ := @deriveRecoveryFrontier_exact .baseline effortPins efforts
    (by decide) (by decide) (by unfold ToldApart; decide)
  exact ⟨frontier, derived, exact_frontier, unordered _ (by simp)⟩

example : (deriveRecoveryFrontier .baseline effortPins efforts).toOption.map (·.points.map (·.observationId)) =
    some ["run-a", "run-c"] := by decide +kernel

end Worked

end RatchetingInquiry
