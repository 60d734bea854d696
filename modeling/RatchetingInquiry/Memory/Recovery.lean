import RatchetingInquiry.Library.Guard
import RatchetingInquiry.Memory.Checks

/-! Exact Pareto recovery arithmetic. -/

namespace RatchetingInquiry

inductive CostRelation where
  | leftStrictlyBetter | rightStrictlyBetter | equal | incomparable
deriving DecidableEq

/-- Order of two costs on one axis, by integer cross multiplication only. -/
def compareCostCoordinates (left right : CostCoordinate) : Ordering :=
  compare (left.numerator * right.denominator) (right.numerator * left.denominator)

/-- `compare_cost_vectors`, the exact Pareto relation, without its check that the axes are the same, which each of its
callers has made before. -/
def costRelation (left right : CostVector) : CostRelation :=
  let directions := List.zipWith compareCostCoordinates left.coordinates right.coordinates
  let leftNoWorse := directions.all (fun direction => direction ≠ .gt)
  let rightNoWorse := directions.all (fun direction => direction ≠ .lt)
  if leftNoWorse && rightNoWorse then .equal
  else if leftNoWorse then .leftStrictlyBetter
  else if rightNoWorse then .rightStrictlyBetter
  else .incomparable

/-- The first axis on which two vectors differ decides their order. -/
def compareVectorsLexicographically (left right : CostVector) : Ordering :=
  (List.zipWith compareCostCoordinates left.coordinates right.coordinates).foldr Ordering.then .eq

def comparePoints (left right : RecoveryFrontierPoint) : Ordering :=
  (compareVectorsLexicographically left.costs right.costs).then (compare left.observationId right.observationId)

def sortedPoints (points : List RecoveryFrontierPoint) : List RecoveryFrontierPoint :=
  points.insertionSort (fun left right => comparePoints left right ≠ .gt)

/-- One observation for each identity, in identity order. -/
def deduplicateObservations (observations : List RecoveryObservation) :
    Except Failure (List RecoveryObservation) := do
  let unique ← observations.foldlM (fun seen observation =>
    match seen.find? (fun prior => prior.id = observation.id) with
    | some prior =>
      if prior ≠ observation then
        throw (.recoveryCompatibility
          ("recovery observation identity '" ++ observation.id ++ "' has conflicting contents"))
      else return seen
    | none => return seen ++ [observation]) ([] : List RecoveryObservation)
  return unique.insertionSort (fun left right => left.id ≤ right.id)

/-- The first point of each cost vector, in the order given. -/
def uniquePoints (points : List RecoveryFrontierPoint) : List RecoveryFrontierPoint :=
  points.foldl (fun unique point =>
    if unique.any (fun prior => costRelation point.costs prior.costs = .equal) then unique
    else unique ++ [point]) []

/-- The points that no other point strictly dominates. -/
def nondominatedPoints (points : List RecoveryFrontierPoint) : List RecoveryFrontierPoint :=
  points.filter (fun point => ¬ points.any (fun other =>
    other.observationId ≠ point.observationId && costRelation other.costs point.costs = .leftStrictlyBetter))

/-- `RecoveryFrontier.validate_frontier`, run whenever a frontier is built. -/
def RecoveryFrontier.validateFrontier (frontier : RecoveryFrontier) : Except Failure RecoveryFrontier := do
  require frontier.sourceObservationIds.Nodup (.validation "frontier source observations must be unique")
  require (frontier.sourceObservationIds.insertionSort (· ≤ ·) = frontier.sourceObservationIds)
    (.validation "frontier source observations must use canonical order")
  require (frontier.points.map (·.observationId)).Nodup (.validation "frontier points must be deduplicated")
  require (frontier.points.map (·.observationId) ⊆ frontier.sourceObservationIds)
    (.validation "frontier points must refer to source observations")
  return frontier

/-- Derive the stable nondominated set of successful observations. Every vector is checked to use the
axes of the budget before any two are compared. -/
def deriveRecoveryFrontier (branch : RecoveryBranch) (pins : RecoveryPins)
    (observations : List RecoveryObservation) : Except Failure RecoveryFrontier := do
  let deduplicated ← deduplicateObservations observations
  deduplicated.forM fun observation => do
    require (observation.branch = branch)
      (.recoveryCompatibility "frontier observations have different branches")
    require (observation.pins = pins)
      (.recoveryCompatibility "frontier observations have different recovery pins")
    require (observation.costs.axisSignature = pins.budget.axisSignature)
      (.recoveryCompatibility "frontier observation axes differ from budget axes")
  let successful := (deduplicated.filter (·.competenceEstablished)).map
    (fun observation => { observationId := observation.id, costs := observation.costs })
  RecoveryFrontier.validateFrontier {
    branch := branch
    pins := pins
    sourceObservationIds := deduplicated.map RecoveryObservation.id
    points := sortedPoints (nondominatedPoints (uniquePoints successful)) }

/-- Check canonical point order, axes and pairwise nondominance. -/
def checkRecoveryFrontier (frontier : RecoveryFrontier) : Bool × String :=
  if frontier.points.any (fun point => point.costs.axisSignature ≠ frontier.pins.budget.axisSignature) then
    (false, "frontier point axes differ from pinned budget axes")
  else if sortedPoints frontier.points ≠ frontier.points then
    (false, "frontier points are not in canonical exact order")
  else if ¬ frontier.points.Pairwise (fun left right => costRelation left.costs right.costs = .incomparable) then
    (false, "frontier contains equal or dominated points")
  else (true, "frontier points are exact, canonical, and pairwise nondominated")

/-- Scan the retained points for the first that weakly dominates a baseline point, and note whether an
incomparable one came before it. -/
def scanRetained (baseline : CostVector) : List RecoveryFrontierPoint → Option (RecoveryFrontierPoint × Bool) × Bool
  | [] => (none, false)
  | point :: rest =>
    match costRelation point.costs baseline with
    | .leftStrictlyBetter => (some (point, true), false)
    | .equal => (some (point, false), false)
    | .incomparable => ((scanRetained baseline rest).1, true)
    | .rightStrictlyBetter => scanRetained baseline rest

/-- Coverage of the baseline points and the outcome that it decides. -/
def frontierOutcome (baseline retained : List RecoveryFrontierPoint) :
    RecoveryComparisonOutcome × List FrontierCoverage :=
  let scans := baseline.map (fun point => (point, scanRetained point.costs retained))
  let coverage := scans.filterMap (fun (point, scan) => scan.1.map (fun (covering, strict) => {
    baselineObservationId := point.observationId
    retainedObservationId := covering.observationId
    strict := strict }))
  let complete := baseline ≠ [] ∧ coverage.length = baseline.length
  if complete ∧ coverage.any (·.strict) then (.strictAdvantage, coverage)
  else if scans.any (fun (_, scan) => scan.2) then (.incomparable, [])
  else (.noAdvantage, [])

/-- `_evaluate_frontiers`. -/
def evaluateFrontiers (baseline retained : RecoveryFrontier) :
    Except Failure (RecoveryComparisonOutcome × List FrontierCoverage) := do
  require (baseline.branch = .baseline) (.recoveryCompatibility "baseline frontier has the wrong branch")
  require (retained.branch = .retained) (.recoveryCompatibility "retained frontier has the wrong branch")
  require (baseline.pins = retained.pins)
    (.recoveryCompatibility "recovery frontier pins do not match exactly")
  [baseline, retained].forM fun frontier =>
    require (checkRecoveryFrontier frontier).1 (.recoveryCompatibility (checkRecoveryFrontier frontier).2)
  return frontierOutcome baseline.points retained.points

/-- `RecoveryComparison.validate_comparison_shape`, run whenever a comparison is built. -/
def RecoveryComparison.validateComparisonShape (comparison : RecoveryComparison) :
    Except Failure RecoveryComparison := do
  require (comparison.baselineFrontier.branch = .baseline)
    (.validation "comparison baseline frontier has the wrong branch")
  require (comparison.retainedFrontier.branch = .retained)
    (.validation "comparison retained frontier has the wrong branch")
  require (comparison.coverage.map FrontierCoverage.baselineObservationId).Nodup
    (.validation "each baseline frontier point may have one coverage witness")
  require (∀ item ∈ comparison.coverage,
      item.baselineObservationId ∈ comparison.baselineFrontier.points.map (·.observationId) ∧
      item.retainedObservationId ∈ comparison.retainedFrontier.points.map (·.observationId))
    (.validation "comparison coverage must refer to its frontier points")
  require (checkRecoveryComparison comparison).1 (.validation (checkRecoveryComparison comparison).2)
  return comparison

/-- Build a provisional comparison after an independent check has been referenced. -/
def compareRecoveryFrontiers (comparisonId : String) (baseline retained : RecoveryFrontier)
    (comparisonCheck : CheckReference) : Except Failure RecoveryComparison := do
  let (outcome, coverage) ← evaluateFrontiers baseline retained
  RecoveryComparison.validateComparisonShape {
    id := comparisonId
    baselineFrontier := baseline
    retainedFrontier := retained
    outcome := outcome
    coverage := coverage
    comparisonCheck := comparisonCheck }

end RatchetingInquiry
