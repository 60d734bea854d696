import Mathlib.Data.List.Pairwise
import RatchetingInquiry.Memory.Frontiers

/-! Comparisons of two recovery frontiers. The builder and the independent checker decide the same outcome, and a
scan that stops at the first covering point misses no strictly better one, because a frontier is an antichain.
The flag for incomparability is set before the cover is found, so it can survive a complete cover. -/

namespace RatchetingInquiry

/-- Both implementations find the same witness and see the same incomparability. -/
theorem findWitness_eq (baseline : CostVector) (saw : Bool) (retained : List RecoveryFrontierPoint) :
    findWitness baseline saw retained = ((scanRetained baseline retained).1, saw || (scanRetained baseline retained).2) := by
  induction retained generalizing saw with
  | nil => simp [findWitness, scanRetained]
  | cons point rest ih =>
    have related := vectorRelation_eq point.costs baseline
    unfold findWitness scanRetained
    rw [← related]
    cases vectorRelation point.costs baseline with
    | retainedBetter => simp [VectorRelation.costRelation]
    | equal => simp [VectorRelation.costRelation]
    | baselineBetter => simp [VectorRelation.costRelation, ih]
    | incomparable => simp [VectorRelation.costRelation, ih]

/-- The coverage of a baseline point by the first retained one that covers it. -/
def coverageOf (retained : List RecoveryFrontierPoint) (point : RecoveryFrontierPoint) : Option FrontierCoverage :=
  (scanRetained point.costs retained).1.map (fun (covering, strict) => {
    baselineObservationId := point.observationId
    retainedObservationId := covering.observationId
    strict := strict })

/-- An incomparable retained point comes before the one that covers the baseline point. -/
def sawIncomparable (retained : List RecoveryFrontierPoint) (point : RecoveryFrontierPoint) : Bool :=
  (scanRetained point.costs retained).2

theorem expectedCoverage_eq (baseline retained : List RecoveryFrontierPoint) :
    expectedCoverage baseline retained =
      (baseline.filterMap (coverageOf retained), baseline.any (sawIncomparable retained)) := by
  have folded : ∀ (points : List RecoveryFrontierPoint) (start : List FrontierCoverage × Bool),
      points.foldl (fun before point =>
          (before.1 ++ ((findWitness point.costs before.2 retained).1.map (fun found =>
              ({ baselineObservationId := point.observationId
                 retainedObservationId := found.1.observationId
                 strict := found.2 } : FrontierCoverage))).toList,
            (findWitness point.costs before.2 retained).2)) start =
        (start.1 ++ points.filterMap (coverageOf retained), start.2 || points.any (sawIncomparable retained)) := by
    intro points
    induction points with
    | nil => simp
    | cons point rest ih =>
      intro start
      rw [List.foldl_cons, ih]
      simp only [findWitness_eq, List.filterMap_cons, List.any_cons, coverageOf, sawIncomparable, Bool.or_assoc]
      cases (scanRetained point.costs retained).1 <;> simp [coverageOf]
  have whole := folded baseline ([], false)
  simp only [List.nil_append, Bool.false_or] at whole
  exact whole

theorem frontierOutcome_eq (baseline retained : List RecoveryFrontierPoint) :
    frontierOutcome baseline retained =
      if (baseline ≠ [] ∧ (baseline.filterMap (coverageOf retained)).length = baseline.length) ∧
          (baseline.filterMap (coverageOf retained)).any (·.strict) then
        (.strictAdvantage, baseline.filterMap (coverageOf retained))
      else if baseline.any (sawIncomparable retained) then (.incomparable, [])
      else (.noAdvantage, []) := by
  unfold frontierOutcome
  simp only [List.filterMap_map, List.any_map]
  rfl

/-- The checker expects what the builder builds. -/
theorem expectedOutcome_eq (baseline retained : List RecoveryFrontierPoint) :
    expectedOutcome baseline retained = frontierOutcome baseline retained := by
  rw [frontierOutcome_eq]
  unfold expectedOutcome
  rw [expectedCoverage_eq]

/-- The checker accepts the frontiers that the builder accepts. -/
theorem checkFrontier_iff (frontier : RecoveryFrontier) :
    (checkFrontier frontier).1 = (checkRecoveryFrontier frontier).1 := by
  have incomparable_iff : ∀ left right : RecoveryFrontierPoint,
      vectorRelation left.costs right.costs = .incomparable ↔ costRelation left.costs right.costs = .incomparable := by
    intro left right
    rw [← vectorRelation_eq]
    cases vectorRelation left.costs right.costs <;> simp [VectorRelation.costRelation]
  unfold checkFrontier checkRecoveryFrontier sortedPoints
  simp only [pointOrder_eq, incomparable_iff]
  split
  next => rfl
  next =>
    split
    next => rfl
    next => split <;> rfl

section
variable {retained : List RecoveryFrontierPoint} {point : RecoveryFrontierPoint}
  (sameAxes : ∀ other ∈ retained, other.costs.axisSignature = point.costs.axisSignature)
include sameAxes

/-- A baseline point is covered exactly when some retained point is no worse. -/
theorem coverageOf_isSome_iff :
    (coverageOf retained point).isSome ↔ ∃ other ∈ retained, NoWorse other.costs.values point.costs.values := by
  unfold coverageOf
  rw [Option.isSome_map]
  induction retained with
  | nil => simp [scanRetained]
  | cons first rest ih =>
    have later := ih fun other member => sameAxes other (List.mem_cons_of_mem _ member)
    have covers := noWorse_iff (sameAxes first List.mem_cons_self)
    simp only [List.exists_mem_cons_iff, covers]
    unfold scanRetained
    cases related : costRelation first.costs point.costs with
    | leftStrictlyBetter => simp
    | equal => simp
    | rightStrictlyBetter => simpa using later
    | incomparable => simpa using later

/-- A strict cover is a strictly better point. -/
theorem coverageOf_strict {coverage : FrontierCoverage} (covered : coverageOf retained point = some coverage)
    (strict : coverage.strict = true) : ∃ other ∈ retained, StrictlyBetter other.costs.values point.costs.values := by
  unfold coverageOf at covered
  induction retained with
  | nil => simp [scanRetained] at covered
  | cons first rest ih =>
    unfold scanRetained at covered
    cases related : costRelation first.costs point.costs with
    | leftStrictlyBetter =>
      exact ⟨first, List.mem_cons_self, (costRelation_eq_leftStrictlyBetter (sameAxes first List.mem_cons_self)).mp related⟩
    | equal =>
      rw [related] at covered
      simp only [Option.map_some, Option.some.injEq] at covered
      simp [← covered] at strict
    | rightStrictlyBetter =>
      rw [related] at covered
      obtain ⟨other, member, better⟩ := ih (fun other member => sameAxes other (List.mem_cons_of_mem _ member)) covered
      exact ⟨other, List.mem_cons_of_mem _ member, better⟩
    | incomparable =>
      rw [related] at covered
      obtain ⟨other, member, better⟩ := ih (fun other member => sameAxes other (List.mem_cons_of_mem _ member)) covered
      exact ⟨other, List.mem_cons_of_mem _ member, better⟩

variable (antichain : retained.Pairwise (fun left right =>
  ¬ NoWorse left.costs.values right.costs.values ∧ ¬ NoWorse right.costs.values left.costs.values))
include antichain

/-- A strictly better point is never hidden by an equal one that comes before it. -/
theorem coverageOf_strict_of_better {other : RecoveryFrontierPoint} (member : other ∈ retained)
    (better : StrictlyBetter other.costs.values point.costs.values) :
    ∃ coverage, coverageOf retained point = some coverage ∧ coverage.strict = true := by
  unfold coverageOf
  induction retained with
  | nil => simp at member
  | cons first rest ih =>
    have firstAxes := sameAxes first List.mem_cons_self
    obtain ⟨apart, restAntichain⟩ := List.pairwise_cons.mp antichain
    have later : other ∈ rest → ∃ coverage, (scanRetained point.costs rest).1.map (fun (covering, strict) =>
        ({ baselineObservationId := point.observationId
           retainedObservationId := covering.observationId
           strict := strict } : FrontierCoverage)) = some coverage ∧ coverage.strict = true :=
      fun listed => ih (fun other member => sameAxes other (List.mem_cons_of_mem _ member)) restAntichain listed
    unfold scanRetained
    cases related : costRelation first.costs point.costs with
    | leftStrictlyBetter => exact ⟨_, rfl, rfl⟩
    | equal =>
      -- an equal point in front would be comparable to the better one
      have same := (costRelation_eq_equal firstAxes).mp related
      rcases List.mem_cons.mp member with rfl | listed
      · exact absurd same better.2
      · exact absurd (same ▸ better.1) (apart other listed).2
    | rightStrictlyBetter =>
      rcases List.mem_cons.mp member with rfl | listed
      · rw [(costRelation_eq_leftStrictlyBetter firstAxes).mpr better] at related
        simp at related
      · exact later listed
    | incomparable =>
      rcases List.mem_cons.mp member with rfl | listed
      · rw [(costRelation_eq_leftStrictlyBetter firstAxes).mpr better] at related
        simp at related
      · exact later listed

omit antichain in
/-- Nothing incomparable is seen when the first retained point has the vector. -/
theorem sawIncomparable_of_first {first : RecoveryFrontierPoint} {rest : List RecoveryFrontierPoint}
    (starts : retained = first :: rest) (same : first.costs.values = point.costs.values) :
    sawIncomparable retained point = false := by
  subst starts
  unfold sawIncomparable scanRetained
  rw [(costRelation_eq_equal (sameAxes first List.mem_cons_self)).mpr same]

/-- The first retained point is incomparable to a baseline point whose vector a later one has. -/
theorem sawIncomparable_of_later {first other : RecoveryFrontierPoint} {rest : List RecoveryFrontierPoint}
    (starts : retained = first :: rest) (later : other ∈ rest) (same : other.costs.values = point.costs.values) :
    sawIncomparable retained point = true := by
  subst starts
  have apart := (List.pairwise_cons.mp antichain).1 other later
  have related : costRelation first.costs point.costs = .incomparable :=
    (costRelation_eq_incomparable (sameAxes first List.mem_cons_self)).mpr (same ▸ apart)
  unfold sawIncomparable scanRetained
  rw [related]

end

theorem scanRetained_mem {baseline : CostVector} {retained : List RecoveryFrontierPoint}
    {covering : RecoveryFrontierPoint} {strict : Bool}
    (found : (scanRetained baseline retained).1 = some (covering, strict)) : covering ∈ retained := by
  induction retained with
  | nil => simp [scanRetained] at found
  | cons first rest ih =>
    unfold scanRetained at found
    cases related : costRelation first.costs baseline with
    | leftStrictlyBetter =>
      rw [related] at found
      simp only [Option.some.injEq, Prod.mk.injEq] at found
      exact found.1 ▸ List.mem_cons_self
    | equal =>
      rw [related] at found
      simp only [Option.some.injEq, Prod.mk.injEq] at found
      exact found.1 ▸ List.mem_cons_self
    | rightStrictlyBetter =>
      rw [related] at found
      exact List.mem_cons_of_mem _ (ih found)
    | incomparable =>
      rw [related] at found
      exact List.mem_cons_of_mem _ (ih found)

/-- A coverage names its baseline point and one of the retained points. -/
theorem coverageOf_names {retained : List RecoveryFrontierPoint} {point : RecoveryFrontierPoint}
    {coverage : FrontierCoverage} (covered : coverageOf retained point = some coverage) :
    coverage.baselineObservationId = point.observationId ∧
      coverage.retainedObservationId ∈ retained.map (·.observationId) := by
  unfold coverageOf at covered
  obtain ⟨⟨covering, strict⟩, found, rfl⟩ := Option.map_eq_some_iff.mp covered
  exact ⟨rfl, List.mem_map_of_mem (scanRetained_mem found)⟩

theorem coverage_ids_nodup {baseline retained : List RecoveryFrontierPoint}
    (distinct : (baseline.map (·.observationId)).Nodup) :
    ((baseline.filterMap (coverageOf retained)).map FrontierCoverage.baselineObservationId).Nodup := by
  refine distinct.sublist ?_
  induction baseline with
  | nil => simp
  | cons point rest ih =>
    have later := ih (List.nodup_cons.mp distinct).2
    cases covered : coverageOf retained point with
    | none =>
      rw [List.filterMap_cons_none covered]
      exact later.cons _
    | some coverage =>
      rw [List.filterMap_cons_some covered, List.map_cons, List.map_cons, (coverageOf_names covered).1]
      exact later.cons_cons _

section
variable {baseline retained : RecoveryFrontier} (samePins : baseline.pins = retained.pins)
  (baselineAccepted : (checkRecoveryFrontier baseline).1 = true)
  (retainedAccepted : (checkRecoveryFrontier retained).1 = true)

include samePins baselineAccepted retainedAccepted in
theorem points_over_same_axes {point : RecoveryFrontierPoint} (member : point ∈ baseline.points) :
    ∀ other ∈ retained.points, other.costs.axisSignature = point.costs.axisSignature := by
  intro other otherMember
  have pointAxes := (checkRecoveryFrontier_iff.mp baselineAccepted).over_axes point member
  have otherAxes := (checkRecoveryFrontier_iff.mp retainedAccepted).over_axes other otherMember
  rw [otherAxes, pointAxes, samePins]

/-- Every baseline point is weakly dominated by a retained one. -/
def RecoveryFrontier.CoveredBy (baseline retained : RecoveryFrontier) : Prop :=
  ∀ point ∈ baseline.points, ∃ other ∈ retained.points, NoWorse other.costs.values point.costs.values

/-- Some baseline point is strictly dominated by a retained one. -/
def RecoveryFrontier.ImprovedBy (baseline retained : RecoveryFrontier) : Prop :=
  ∃ point ∈ baseline.points, ∃ other ∈ retained.points, StrictlyBetter other.costs.values point.costs.values

include samePins baselineAccepted retainedAccepted

theorem frontierOutcome_cases :
    (baseline.points ≠ [] ∧ baseline.CoveredBy retained ∧ baseline.ImprovedBy retained ∧
        frontierOutcome baseline.points retained.points =
          (.strictAdvantage, baseline.points.filterMap (coverageOf retained.points))) ∨
      (¬ (baseline.points ≠ [] ∧ baseline.CoveredBy retained ∧ baseline.ImprovedBy retained) ∧
        ((∃ point ∈ baseline.points, sawIncomparable retained.points point = true) ∧
            frontierOutcome baseline.points retained.points = (.incomparable, []) ∨
          (∀ point ∈ baseline.points, sawIncomparable retained.points point = false) ∧
            frontierOutcome baseline.points retained.points = (.noAdvantage, []))) := by
  have sameAxes := fun point member => @points_over_same_axes baseline retained samePins baselineAccepted
    retainedAccepted point member
  have antichain := (checkRecoveryFrontier_iff.mp retainedAccepted).incomparable
  have covered_iff : (baseline.points.filterMap (coverageOf retained.points)).length = baseline.points.length ↔
      baseline.CoveredBy retained := by
    rw [List.filterMap_length_eq_length]
    unfold RecoveryFrontier.CoveredBy
    constructor
    · intro covered point member
      exact (coverageOf_isSome_iff (sameAxes point member)).mp (covered point member)
    · intro covered point member
      exact (coverageOf_isSome_iff (sameAxes point member)).mpr (covered point member)
  have improved_iff : (baseline.points.filterMap (coverageOf retained.points)).any (·.strict) = true ↔
      baseline.ImprovedBy retained := by
    rw [List.any_eq_true]
    constructor
    · intro ⟨coverage, listed, strict⟩
      obtain ⟨point, member, covered⟩ := List.mem_filterMap.mp listed
      exact ⟨point, member, coverageOf_strict (sameAxes point member) covered strict⟩
    · intro ⟨point, member, other, otherMember, better⟩
      obtain ⟨coverage, covered, strict⟩ := coverageOf_strict_of_better (sameAxes point member) antichain otherMember
        better
      exact ⟨coverage, List.mem_filterMap.mpr ⟨point, member, covered⟩, strict⟩
  have advantage_iff : (baseline.points ≠ [] ∧
        (baseline.points.filterMap (coverageOf retained.points)).length = baseline.points.length) ∧
          (baseline.points.filterMap (coverageOf retained.points)).any (·.strict) = true ↔
      baseline.points ≠ [] ∧ baseline.CoveredBy retained ∧ baseline.ImprovedBy retained := by
    rw [covered_iff, improved_iff, and_assoc]
  rw [frontierOutcome_eq]
  by_cases advantage : baseline.points ≠ [] ∧ baseline.CoveredBy retained ∧ baseline.ImprovedBy retained
  · left
    rw [if_pos (advantage_iff.mpr advantage)]
    exact ⟨advantage.1, advantage.2.1, advantage.2.2, rfl⟩
  · right
    rw [if_neg (mt advantage_iff.mp advantage)]
    refine ⟨advantage, ?_⟩
    by_cases seen : baseline.points.any (sawIncomparable retained.points) = true
    · left
      rw [if_pos seen]
      exact ⟨List.any_eq_true.mp seen, rfl⟩
    · right
      rw [if_neg seen]
      rw [Bool.not_eq_true, List.any_eq_false] at seen
      exact ⟨fun point member => by simpa using seen point member, rfl⟩

/-- The builder claims a strict advantage exactly when the baseline is not empty, covered, and improved somewhere. -/
theorem strictAdvantage_iff : (frontierOutcome baseline.points retained.points).1 = .strictAdvantage ↔
    baseline.points ≠ [] ∧ baseline.CoveredBy retained ∧ baseline.ImprovedBy retained := by
  rcases frontierOutcome_cases samePins baselineAccepted retainedAccepted with
    ⟨given, covered, improved, outcome⟩ | ⟨without, ⟨-, outcome⟩ | ⟨-, outcome⟩⟩
  · simp [outcome, given, covered, improved]
  · simp only [outcome, reduceCtorEq, false_iff]
    exact without
  · simp only [outcome, reduceCtorEq, false_iff]
    exact without

/-- A coverage that the builder reports passes the shape checks of a comparison. -/
theorem frontierOutcome_shape (distinct : (baseline.points.map (·.observationId)).Nodup) :
    ((frontierOutcome baseline.points retained.points).2.map FrontierCoverage.baselineObservationId).Nodup ∧
      ∀ item ∈ (frontierOutcome baseline.points retained.points).2,
        item.baselineObservationId ∈ baseline.points.map (·.observationId) ∧
          item.retainedObservationId ∈ retained.points.map (·.observationId) := by
  rcases frontierOutcome_cases samePins baselineAccepted retainedAccepted with
    ⟨-, -, -, outcome⟩ | ⟨-, ⟨-, outcome⟩ | ⟨-, outcome⟩⟩
  · rw [outcome]
    refine ⟨coverage_ids_nodup distinct, ?_⟩
    intro item listed
    obtain ⟨point, member, covered⟩ := List.mem_filterMap.mp listed
    obtain ⟨named, retainedNamed⟩ := coverageOf_names covered
    exact ⟨named ▸ List.mem_map_of_mem member, retainedNamed⟩
  · simp [outcome]
  · simp [outcome]

variable (baselineBranch : baseline.branch = .baseline) (retainedBranch : retained.branch = .retained)
include baselineBranch retainedBranch

/-- The checker accepts exactly the outcome and the coverage that the builder builds. -/
theorem checkRecoveryComparison_iff {comparison : RecoveryComparison} (ofBaseline : comparison.baselineFrontier = baseline)
    (ofRetained : comparison.retainedFrontier = retained) :
    (checkRecoveryComparison comparison).1 = true ↔
      (comparison.outcome, comparison.coverage) = frontierOutcome baseline.points retained.points := by
  have baselineChecked := (checkFrontier_iff baseline).trans baselineAccepted
  have retainedChecked := (checkFrontier_iff retained).trans retainedAccepted
  subst ofBaseline ofRetained
  unfold checkRecoveryComparison
  simp only [baselineBranch, retainedBranch, samePins, baselineChecked, retainedChecked, expectedOutcome_eq, ne_eq,
    not_true_eq_false, if_false]
  by_cases sameOutcome : comparison.outcome =
      (frontierOutcome comparison.baselineFrontier.points comparison.retainedFrontier.points).1
  · by_cases sameCoverage : comparison.coverage =
        (frontierOutcome comparison.baselineFrontier.points comparison.retainedFrontier.points).2
    · simp [sameOutcome, sameCoverage]
    · simp [← sameOutcome, sameCoverage, Prod.ext_iff]
  · simp [sameOutcome, Prod.ext_iff]

/-- The comparison that the builder builds. -/
theorem compareRecoveryFrontiers_eq (distinct : (baseline.points.map (·.observationId)).Nodup) (comparisonId : String)
    (comparisonCheck : CheckReference) :
    compareRecoveryFrontiers comparisonId baseline retained comparisonCheck = .ok {
      id := comparisonId
      baselineFrontier := baseline
      retainedFrontier := retained
      outcome := (frontierOutcome baseline.points retained.points).1
      coverage := (frontierOutcome baseline.points retained.points).2
      comparisonCheck := comparisonCheck } := by
  have evaluated : evaluateFrontiers baseline retained = .ok (frontierOutcome baseline.points retained.points) := by
    unfold evaluateFrontiers
    simp only [unit_bind_eq_ok, forM_eq_ok, require_eq_ok, List.forall_mem_cons,
      List.not_mem_nil, false_implies, implies_true, and_true]
    exact ⟨baselineBranch, retainedBranch, samePins, ⟨baselineAccepted, retainedAccepted⟩, rfl⟩
  obtain ⟨apart, named⟩ := frontierOutcome_shape samePins baselineAccepted retainedAccepted distinct
  have accepted : (checkRecoveryComparison {
      id := comparisonId
      baselineFrontier := baseline
      retainedFrontier := retained
      outcome := (frontierOutcome baseline.points retained.points).1
      coverage := (frontierOutcome baseline.points retained.points).2
      comparisonCheck := comparisonCheck }).1 = true := by
    apply (checkRecoveryComparison_iff samePins baselineAccepted retainedAccepted baselineBranch retainedBranch rfl rfl).mpr
    rfl
  unfold compareRecoveryFrontiers
  rw [bind_eq_ok]
  refine ⟨_, evaluated, ?_⟩
  unfold RecoveryComparison.validateComparisonShape
  simp only [require_bind_eq_ok]
  exact ⟨baselineBranch, retainedBranch, apart, named, accepted, rfl⟩

end

/-- Every cost vector of the first frontier is one of the second. -/
def RecoveryFrontier.RepeatedIn (frontier other : RecoveryFrontier) : Prop :=
  ∀ point ∈ frontier.points, ∃ same ∈ other.points, same.costs.values = point.costs.values

/-- Every point of the first frontier has the cost vector of the second one's first point. -/
def RecoveryFrontier.AtFirstOf (frontier other : RecoveryFrontier) : Prop :=
  ∀ point ∈ frontier.points, ∃ first ∈ other.points.head?, first.costs.values = point.costs.values

section
variable {baseline retained : RecoveryFrontier} (baselineBranch : baseline.branch = .baseline)
  (retainedBranch : retained.branch = .retained) (samePins : baseline.pins = retained.pins)
  (validated : baseline.validateFrontier = .ok baseline)
  (baselineAccepted : (checkRecoveryFrontier baseline).1 = true)
  (retainedAccepted : (checkRecoveryFrontier retained).1 = true)

theorem validateFrontier_distinct {frontier : RecoveryFrontier} (validated : frontier.validateFrontier = .ok frontier) :
    (frontier.points.map (·.observationId)).Nodup := by
  simp only [RecoveryFrontier.validateFrontier, require_bind_eq_ok] at validated
  exact validated.2.2.1

include baselineBranch retainedBranch samePins validated baselineAccepted retainedAccepted

/-- The builder returns a comparison, the checker accepts exactly its outcome and coverage, and it claims a strict
advantage exactly when every baseline point is weakly dominated and one of them strictly. -/
theorem builder_and_checker_agree (comparisonId : String) (comparisonCheck : CheckReference) :
    ∃ built, compareRecoveryFrontiers comparisonId baseline retained comparisonCheck = .ok built ∧
      (∀ comparison : RecoveryComparison, comparison.baselineFrontier = baseline →
        comparison.retainedFrontier = retained →
        ((checkRecoveryComparison comparison).1 = true ↔
          comparison.outcome = built.outcome ∧ comparison.coverage = built.coverage)) ∧
      (built.outcome = .strictAdvantage ↔
        baseline.points ≠ [] ∧ baseline.CoveredBy retained ∧ baseline.ImprovedBy retained) := by
  have built := compareRecoveryFrontiers_eq samePins baselineAccepted retainedAccepted baselineBranch retainedBranch
    (validateFrontier_distinct validated) comparisonId comparisonCheck
  refine ⟨_, built, ?_, strictAdvantage_iff samePins baselineAccepted retainedAccepted⟩
  intro comparison ofBaseline ofRetained
  rw [checkRecoveryComparison_iff samePins baselineAccepted retainedAccepted baselineBranch retainedBranch ofBaseline
    ofRetained, Prod.ext_iff]

omit baselineBranch retainedBranch samePins validated baselineAccepted in
/-- A frontier whose vectors are all repeated is not improved. -/
theorem not_improved_of_repeated (repeated : baseline.RepeatedIn retained) : ¬ baseline.ImprovedBy retained := by
  intro ⟨point, member, other, otherMember, better⟩
  obtain ⟨same, sameMember, equal⟩ := repeated point member
  have different : other ≠ same := by
    intro one
    subst one
    exact better.2 equal
  have antichain := (checkRecoveryFrontier_iff.mp retainedAccepted).incomparable
  have symmetric : Std.Symm (fun left right : RecoveryFrontierPoint =>
      ¬ NoWorse left.costs.values right.costs.values ∧ ¬ NoWorse right.costs.values left.costs.values) :=
    ⟨fun _ _ both => ⟨both.2, both.1⟩⟩
  have apart := antichain.forall otherMember sameMember different
  exact apart.1 (equal ▸ better.1)

omit baselineBranch retainedBranch validated in
/-- Among repeated vectors incomparability is seen exactly when one of them is not the first retained one. -/
theorem sawIncomparable_iff_of_repeated (repeated : baseline.RepeatedIn retained) :
    (∀ point ∈ baseline.points, sawIncomparable retained.points point = false) ↔ baseline.AtFirstOf retained := by
  have antichain := (checkRecoveryFrontier_iff.mp retainedAccepted).incomparable
  constructor
  · intro unseen point member
    have sameAxes := points_over_same_axes samePins baselineAccepted retainedAccepted member
    obtain ⟨same, sameMember, equal⟩ := repeated point member
    obtain ⟨first, rest, starts⟩ := List.exists_cons_of_ne_nil (List.ne_nil_of_mem sameMember)
    rw [starts] at sameMember
    rcases List.mem_cons.mp sameMember with rfl | later
    · exact ⟨same, by simp [starts], equal⟩
    · have seen := sawIncomparable_of_later sameAxes antichain starts later equal
      rw [unseen point member] at seen
      simp at seen
  · intro atFirst point member
    have sameAxes := points_over_same_axes samePins baselineAccepted retainedAccepted member
    obtain ⟨first, firstIs, equal⟩ := atFirst point member
    obtain ⟨rest, starts⟩ := List.head?_eq_some_iff.mp firstIs
    exact sawIncomparable_of_first sameAxes starts equal

/-- Equal frontiers show no advantage, and incomparability is reported only for an uncovered point, exactly when
repeated baseline vectors are all the first retained one. -/
theorem equal_frontiers_show_no_advantage_iff (comparisonId : String) (comparisonCheck : CheckReference) :
    ∃ built, compareRecoveryFrontiers comparisonId baseline retained comparisonCheck = .ok built ∧
      (((baseline.RepeatedIn retained → retained.RepeatedIn baseline → built.outcome = .noAdvantage) ∧
          (built.outcome = .incomparable → ∃ point ∈ baseline.points, ∀ other ∈ retained.points,
            ¬ NoWorse other.costs.values point.costs.values)) ↔
        (baseline.RepeatedIn retained → baseline.AtFirstOf retained)) := by
  have built := compareRecoveryFrontiers_eq samePins baselineAccepted retainedAccepted baselineBranch retainedBranch
    (validateFrontier_distinct validated) comparisonId comparisonCheck
  refine ⟨_, built, ?_⟩
  have unimproved := @not_improved_of_repeated baseline retained retainedAccepted
  have seen_iff := sawIncomparable_iff_of_repeated samePins baselineAccepted retainedAccepted
  constructor
  · intro ⟨_, onlyUncovered⟩ repeated
    rw [← seen_iff repeated]
    intro point member
    by_contra seen
    rcases frontierOutcome_cases samePins baselineAccepted retainedAccepted with
      ⟨-, -, improved, -⟩ | ⟨-, ⟨-, outcome⟩ | ⟨unseen, -⟩⟩
    · exact unimproved repeated improved
    · -- every baseline point has a retained point of its own vector
      obtain ⟨uncovered, uncoveredMember, worse⟩ := onlyUncovered (by rw [outcome])
      obtain ⟨same, sameMember, equal⟩ := repeated uncovered uncoveredMember
      exact worse same sameMember (equal ▸ NoWorse.refl _)
    · exact seen (unseen point member)
  · intro atFirst
    rcases frontierOutcome_cases samePins baselineAccepted retainedAccepted with
      ⟨-, -, improved, outcome⟩ | ⟨without, ⟨seen, outcome⟩ | ⟨-, outcome⟩⟩
    · rw [outcome]
      exact ⟨fun repeated => absurd improved (unimproved repeated), by simp⟩
    · obtain ⟨point, member, flagged⟩ := seen
      have unrepeated : ¬ baseline.RepeatedIn retained := by
        intro repeated
        have unseen := (seen_iff repeated).mpr (atFirst repeated) point member
        rw [flagged] at unseen
        simp at unseen
      refine ⟨fun repeated => absurd repeated unrepeated, fun _ => ?_⟩
      by_contra covered
      simp only [not_exists, not_and, not_forall, not_not] at covered
      apply unrepeated
      intro other otherMember
      obtain ⟨cover, coverMember, noWorse⟩ := covered other otherMember
      rcases noWorse.eq_or_strictlyBetter with equal | better
      · exact ⟨cover, coverMember, equal⟩
      · have allCovered : baseline.CoveredBy retained := by
          intro one oneMember
          obtain ⟨cover, coverMember, noWorse⟩ := covered one oneMember
          exact ⟨cover, coverMember, noWorse⟩
        exact absurd ⟨List.ne_nil_of_mem member, allCovered, other, otherMember, cover, coverMember, better⟩ without
    · rw [outcome]
      exact ⟨fun _ _ => rfl, by simp⟩

end

namespace Worked

/-- A frontier of points over the shared pins. -/
def effortFrontier (branch : RecoveryBranch) (points : List RecoveryFrontierPoint) : RecoveryFrontier where
  branch := branch
  pins := effortPins
  sourceObservationIds := points.map (·.observationId)
  points := points

/-- Two recoveries without material, and one with it that dominates both. -/
def slowBaseline : RecoveryFrontier := effortFrontier .baseline [⟨"run-a", effort 2 4⟩, ⟨"run-b", effort 3 3⟩]

def quickRetained : RecoveryFrontier := effortFrontier .retained [⟨"run-x", effort 2 3⟩]

theorem quick_advantage : ∃ built,
    compareRecoveryFrontiers "comparison" slowBaseline quickRetained ⟨"evidence", "verdict"⟩ = .ok built ∧
      built.outcome = .strictAdvantage := by
  obtain ⟨built, compared, -, advantage⟩ := @builder_and_checker_agree slowBaseline quickRetained rfl rfl rfl
    (by decide +kernel) (by decide +kernel) (by decide +kernel) "comparison" ⟨"evidence", "verdict"⟩
  have better : ∀ point ∈ slowBaseline.points, StrictlyBetter (effort 2 3).values point.costs.values := by
    intro point member
    have related : ∀ point ∈ slowBaseline.points, (effort 2 3).axisSignature = point.costs.axisSignature ∧
        costRelation (effort 2 3) point.costs = .leftStrictlyBetter := by decide +kernel
    obtain ⟨sameAxes, strictly⟩ := related point member
    exact (costRelation_eq_leftStrictlyBetter sameAxes).mp strictly
  have covering : ⟨"run-x", effort 2 3⟩ ∈ quickRetained.points := List.mem_cons_self
  refine ⟨built, compared, advantage.mpr ⟨by decide, ?_, ?_⟩⟩
  · intro point member
    exact ⟨_, covering, (better point member).1⟩
  · exact ⟨_, List.mem_cons_self, _, covering, better _ List.mem_cons_self⟩

/-- The same two recoveries with and without material. -/
def tradeOff (branch : RecoveryBranch) : RecoveryFrontier :=
  effortFrontier branch [⟨"run-a", effort 1 2⟩, ⟨"run-b", effort 2 1⟩]

/-- They are reported as incomparable although each is covered by its equal. -/
theorem tradeOff_incomparable :
    (tradeOff .baseline).validateFrontier = .ok (tradeOff .baseline) ∧
      (tradeOff .retained).validateFrontier = .ok (tradeOff .retained) ∧
      (checkRecoveryFrontier (tradeOff .baseline)).1 = true ∧ (checkRecoveryFrontier (tradeOff .retained)).1 = true ∧
      (tradeOff .baseline).points = (tradeOff .retained).points ∧
      (compareRecoveryFrontiers "comparison" (tradeOff .baseline) (tradeOff .retained)
        ⟨"evidence", "verdict"⟩).toOption.map (·.outcome) = some .incomparable := by
  decide +kernel

/-- Without material one of the two recoveries is quicker. -/
def slowerTrade : RecoveryFrontier := effortFrontier .retained [⟨"run-x", effort 1 3⟩, ⟨"run-y", effort 2 1⟩]

theorem slowerTrade_compared :
    (checkRecoveryFrontier (tradeOff .baseline)).1 = true ∧ (checkRecoveryFrontier slowerTrade).1 = true ∧
      (tradeOff .baseline).validateFrontier = .ok (tradeOff .baseline) ∧
      (compareRecoveryFrontiers "comparison" (tradeOff .baseline) slowerTrade ⟨"evidence", "verdict"⟩).map
        (·.outcome) = .ok .incomparable := by
  decide +kernel

/-- One recovery that is as costly with material as without shows no advantage, and of two the one that is not made
as quickly with material leaves the frontiers incomparable. -/
theorem single_no_advantage : (∃ built,
    compareRecoveryFrontiers "comparison" (effortFrontier .baseline [⟨"run-a", effort 1 2⟩])
        (effortFrontier .retained [⟨"run-x", effort 1 2⟩]) ⟨"evidence", "verdict"⟩ = .ok built ∧
      built.outcome = .noAdvantage) ∧
    ∃ built, compareRecoveryFrontiers "comparison" (tradeOff .baseline) slowerTrade ⟨"evidence", "verdict"⟩ = .ok built ∧
      built.outcome = .incomparable ∧ ∃ point ∈ (tradeOff .baseline).points, ∀ other ∈ slowerTrade.points,
        ¬ NoWorse other.costs.values point.costs.values := by
  constructor
  · obtain ⟨built, compared, shown⟩ := @equal_frontiers_show_no_advantage_iff
      (effortFrontier .baseline [⟨"run-a", effort 1 2⟩]) (effortFrontier .retained [⟨"run-x", effort 1 2⟩]) rfl rfl rfl
      (by decide +kernel) (by decide +kernel) (by decide +kernel) "comparison" ⟨"evidence", "verdict"⟩
    have single : ∀ {id : String} {point : RecoveryFrontierPoint}, point ∈ [⟨id, effort 1 2⟩] →
        point.costs.values = (effort 1 2).values := by
      intro id point member
      rw [List.mem_singleton.mp member]
    have atFirst := shown.mpr fun _ point member => ⟨_, rfl, (single member).symm⟩
    refine ⟨built, compared, atFirst.1 ?_ ?_⟩
    · intro point member
      exact ⟨_, List.mem_cons_self, (single member).symm⟩
    · intro point member
      exact ⟨_, List.mem_cons_self, (single member).symm⟩
  · obtain ⟨checked, alsoChecked, validated, outcome⟩ := slowerTrade_compared
    obtain ⟨built, compared, shown⟩ := @equal_frontiers_show_no_advantage_iff (tradeOff .baseline) slowerTrade rfl rfl rfl
      validated checked alsoChecked "comparison" ⟨"evidence", "verdict"⟩
    have incomparable : built.outcome = .incomparable := by
      rw [compared] at outcome
      exact Except.ok.inj outcome
    -- The first recovery without material has no like with it.
    have unrepeated : ¬ (tradeOff .baseline).RepeatedIn slowerTrade := by
      intro repeated
      obtain ⟨other, member, same⟩ := repeated _ List.mem_cons_self
      rcases List.mem_pair.mp member with rfl | rfl
      · exact absurd same (by decide +kernel)
      · exact absurd same (by decide +kernel)
    have shows := shown.mpr fun repeated => absurd repeated unrepeated
    exact ⟨built, compared, incomparable, shows.2 incomparable⟩

end Worked

end RatchetingInquiry
