import RatchetingInquiry.Memory.Models

/-! The independent checker of a recovery comparison. It repeats the integer arithmetic and the coverage loop of
the builder and calls none of it. A comparison of vectors over different axes raises in the source; every vector
is checked to use the axes of the budget before any two are compared. -/

namespace RatchetingInquiry

inductive VectorRelation where
  | retainedBetter | equal | baselineBetter | incomparable
deriving DecidableEq

/-- Whether neither vector is worse on one more axis. -/
def noWorseOnAxis (noWorse : Bool × Bool) (costs : CostCoordinate × CostCoordinate) : Bool × Bool :=
  let retainedScaled := costs.1.numerator * costs.2.denominator
  let baselineScaled := costs.2.numerator * costs.1.denominator
  (if retainedScaled > baselineScaled then false else noWorse.1,
    if baselineScaled > retainedScaled then false else noWorse.2)

/-- `_vector_relation`. -/
def vectorRelation (retained baseline : CostVector) : VectorRelation :=
  match (retained.coordinates.zip baseline.coordinates).foldl noWorseOnAxis (true, true) with
  | (true, true) => .equal
  | (true, false) => .retainedBetter
  | (false, true) => .baselineBetter
  | (false, false) => .incomparable

/-- The order of two coordinate lists on the first axis where they differ, and of the identities without one. -/
def pointOrderFrom (identities : Ordering) : List (CostCoordinate × CostCoordinate) → Ordering
  | [] => identities
  | (left, right) :: rest =>
    let leftScaled := left.numerator * right.denominator
    let rightScaled := right.numerator * left.denominator
    if leftScaled ≠ rightScaled then if leftScaled < rightScaled then .lt else .gt
    else pointOrderFrom identities rest

/-- `_point_order`. -/
def pointOrder (left right : RecoveryFrontierPoint) : Ordering :=
  pointOrderFrom (compare left.observationId right.observationId)
    (left.costs.coordinates.zip right.costs.coordinates)

/-- `_check_frontier`. -/
def checkFrontier (frontier : RecoveryFrontier) : Bool × String :=
  if frontier.points.any (fun point => point.costs.axisSignature ≠ frontier.pins.budget.axisSignature) then
    (false, "independent checker found frontier axes outside the pinned budget")
  else if frontier.points.insertionSort (fun left right => pointOrder left right ≠ .gt) ≠ frontier.points then
    (false, "independent checker found noncanonical frontier ordering")
  else if ¬ frontier.points.Pairwise (fun left right => vectorRelation left.costs right.costs = .incomparable) then
    (false, "independent checker found equal or dominated frontier points")
  else (true, "frontier is canonical and pairwise nondominated")

/-- The first retained point that covers a baseline point, strictly or not, and whether an incomparable point was
seen on the way to it. -/
def findWitness (baseline : CostVector) (sawIncomparable : Bool) :
    List RecoveryFrontierPoint → Option (RecoveryFrontierPoint × Bool) × Bool
  | [] => (none, sawIncomparable)
  | retained :: rest =>
    let relation := vectorRelation retained.costs baseline
    let saw := relation = .incomparable || sawIncomparable
    if relation = .retainedBetter ∨ relation = .equal then (some (retained, relation = .retainedBetter), saw)
    else findWitness baseline saw rest

/-- The coverage loop of the checker. -/
def expectedCoverage (baseline retained : List RecoveryFrontierPoint) : List FrontierCoverage × Bool :=
  baseline.foldl (fun (expected, sawIncomparable) point =>
    let (witness, saw) := findWitness point.costs sawIncomparable retained
    (expected ++ (witness.map (fun (covering, strict) => {
      baselineObservationId := point.observationId
      retainedObservationId := covering.observationId
      strict := strict })).toList, saw)) ([], false)

/-- The outcome that the checker expects, and its coverage. -/
def expectedOutcome (baseline retained : List RecoveryFrontierPoint) :
    RecoveryComparisonOutcome × List FrontierCoverage :=
  let (expected, sawIncomparable) := expectedCoverage baseline retained
  let complete := baseline ≠ [] ∧ expected.length = baseline.length
  if complete ∧ expected.any (·.strict) then (.strictAdvantage, expected)
  else if sawIncomparable then (.incomparable, [])
  else (.noAdvantage, [])

/-- `check_recovery_comparison`. The standing is a literal, so its check never fails. -/
def checkRecoveryComparison (comparison : RecoveryComparison) : Bool × String :=
  let baseline := comparison.baselineFrontier
  let retained := comparison.retainedFrontier
  if baseline.branch ≠ .baseline then (false, "independent checker found the wrong baseline branch")
  else if retained.branch ≠ .retained then (false, "independent checker found the wrong retained branch")
  else if baseline.pins ≠ retained.pins then (false, "independent checker found mismatched recovery pins")
  else if ¬ (checkFrontier baseline).1 then checkFrontier baseline
  else if ¬ (checkFrontier retained).1 then checkFrontier retained
  else
    let (outcome, coverage) := expectedOutcome baseline.points retained.points
    if comparison.outcome ≠ outcome then
      (false, "independent checker found a contradictory comparison outcome")
    else if comparison.coverage ≠ coverage then
      (false, "independent checker found contradictory frontier coverage")
    else (true, "independent integer checker validated the provisional comparison")

end RatchetingInquiry
