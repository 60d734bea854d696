import Mathlib.Algebra.Order.Field.Rat
import Mathlib.Algebra.Order.Field.Basic
import RatchetingInquiry.Library.Pareto
import RatchetingInquiry.Memory.Recovery

/-! The exact rationals behind the integer cross multiplication. Over the same axes the relation of two cost
vectors is the Pareto relation of their rationals, for the builder and for the checker, and the canonical order
of points is the lexicographic one. -/

namespace RatchetingInquiry

/-- The exact rational that a coordinate stands for. -/
def CostCoordinate.value (coordinate : CostCoordinate) : ℚ := coordinate.numerator / coordinate.denominator

/-- The exact rationals of a vector, in axis order. -/
def CostVector.values (vector : CostVector) : List ℚ := vector.coordinates.map CostCoordinate.value

/-- The place of a point in the canonical order. -/
def RecoveryFrontierPoint.place (point : RecoveryFrontierPoint) : List ℚ ×ₗ String :=
  toLex (point.costs.values, point.observationId)

theorem compareCostCoordinates_eq (left right : CostCoordinate) :
    compareCostCoordinates left right = compare left.value right.value := by
  have leftPositive : (0 : ℚ) < left.denominator := by exact_mod_cast left.denominator_positive
  have rightPositive : (0 : ℚ) < right.denominator := by exact_mod_cast right.denominator_positive
  have below_iff : left.value < right.value ↔
      left.numerator * right.denominator < right.numerator * left.denominator := by
    unfold CostCoordinate.value
    rw [div_lt_div_iff₀ leftPositive rightPositive]
    exact_mod_cast Iff.rfl
  have above_iff : right.value < left.value ↔
      right.numerator * left.denominator < left.numerator * right.denominator := by
    unfold CostCoordinate.value
    rw [div_lt_div_iff₀ rightPositive leftPositive]
    exact_mod_cast Iff.rfl
  unfold compareCostCoordinates
  rcases lt_trichotomy left.value right.value with below | same | above
  · rw [compare_lt_iff_lt.mpr below, compare_lt_iff_lt]
    exact below_iff.mp below
  · rw [compare_eq_iff_eq.mpr same, compare_eq_iff_eq]
    have notBelow := mt below_iff.mpr (not_lt_of_ge same.ge)
    have notAbove := mt above_iff.mpr (not_lt_of_ge same.le)
    omega
  · rw [compare_gt_iff_gt.mpr above, compare_gt_iff_gt]
    exact above_iff.mp above

theorem directions_eq (left right : CostVector) :
    List.zipWith compareCostCoordinates left.coordinates right.coordinates =
      List.zipWith compare left.values right.values := by
  have sameComparison : compareCostCoordinates = fun left right => compare left.value right.value := by
    funext left right
    exact compareCostCoordinates_eq left right
  unfold CostVector.values
  rw [List.zipWith_map, sameComparison]

section
variable {left right : CostVector} (sameAxes : left.axisSignature = right.axisSignature)
include sameAxes

theorem values_length_eq : left.values.length = right.values.length := by
  have counted := congrArg List.length sameAxes
  simpa only [CostVector.axisSignature, CostVector.values, List.length_map] using counted

/-- The relation of two vectors over the same axes is the Pareto relation of their rationals. -/
theorem costRelation_cases :
    (costRelation left right = .equal ∧ NoWorse left.values right.values ∧ NoWorse right.values left.values) ∨
      (costRelation left right = .leftStrictlyBetter ∧ NoWorse left.values right.values ∧
        ¬ NoWorse right.values left.values) ∨
      (costRelation left right = .rightStrictlyBetter ∧ ¬ NoWorse left.values right.values ∧
        NoWorse right.values left.values) ∨
      (costRelation left right = .incomparable ∧ ¬ NoWorse left.values right.values ∧
        ¬ NoWorse right.values left.values) := by
  have leftNoWorse := zipWith_compare_ne_gt (values_length_eq sameAxes)
  have rightNoWorse := zipWith_compare_ne_lt (values_length_eq sameAxes)
  unfold costRelation
  rw [directions_eq, ← leftNoWorse, ← rightNoWorse]
  dsimp only
  generalize (List.zipWith compare left.values right.values).all (fun direction => direction ≠ .gt) = notAbove
  generalize (List.zipWith compare left.values right.values).all (fun direction => direction ≠ .lt) = notBelow
  cases notAbove <;> cases notBelow <;> simp

theorem costRelation_eq_equal : costRelation left right = .equal ↔ left.values = right.values := by
  constructor
  · intro related
    rcases costRelation_cases sameAxes with ⟨-, below, above⟩ | ⟨other, -⟩ | ⟨other, -⟩ | ⟨other, -⟩
    · exact below.antisymm above
    all_goals simp [related] at other
  · intro same
    have below : NoWorse left.values right.values := same ▸ NoWorse.refl _
    have above : NoWorse right.values left.values := same ▸ NoWorse.refl _
    rcases costRelation_cases sameAxes with ⟨related, -⟩ | ⟨-, -, worse⟩ | ⟨-, worse, -⟩ | ⟨-, worse, -⟩
    · exact related
    · exact absurd above worse
    · exact absurd below worse
    · exact absurd below worse

theorem costRelation_eq_leftStrictlyBetter :
    costRelation left right = .leftStrictlyBetter ↔ StrictlyBetter left.values right.values := by
  constructor
  · intro related
    rcases costRelation_cases sameAxes with ⟨other, -⟩ | ⟨-, below, worse⟩ | ⟨other, -⟩ | ⟨other, -⟩
    · simp [related] at other
    · exact ⟨below, fun same => worse (same ▸ NoWorse.refl _)⟩
    all_goals simp [related] at other
  · intro ⟨below, different⟩
    rcases costRelation_cases sameAxes with ⟨-, -, above⟩ | ⟨related, -⟩ | ⟨-, worse, -⟩ | ⟨-, worse, -⟩
    · exact absurd (below.antisymm above) different
    · exact related
    · exact absurd below worse
    · exact absurd below worse

theorem costRelation_eq_incomparable : costRelation left right = .incomparable ↔
    ¬ NoWorse left.values right.values ∧ ¬ NoWorse right.values left.values := by
  constructor
  · intro related
    rcases costRelation_cases sameAxes with ⟨other, -⟩ | ⟨other, -⟩ | ⟨other, -⟩ | ⟨-, apart⟩
    · simp [related] at other
    · simp [related] at other
    · simp [related] at other
    · exact apart
  · intro ⟨notBelow, notAbove⟩
    rcases costRelation_cases sameAxes with ⟨-, below, -⟩ | ⟨-, below, -⟩ | ⟨-, -, above⟩ | ⟨related, -⟩
    · exact absurd below notBelow
    · exact absurd below notBelow
    · exact absurd above notAbove
    · exact related

/-- A vector is weakly dominated exactly when the relation is one of the two covering ones. -/
theorem noWorse_iff : NoWorse left.values right.values ↔
    costRelation left right = .leftStrictlyBetter ∨ costRelation left right = .equal := by
  rw [costRelation_eq_leftStrictlyBetter sameAxes, costRelation_eq_equal sameAxes]
  constructor
  · intro noWorse
    exact noWorse.eq_or_strictlyBetter.symm
  · intro covers
    rcases covers with better | same
    · exact better.1
    · exact same ▸ NoWorse.refl _

end

/-- The canonical order of points over the same axes is that of their places. -/
theorem comparePoints_ne_gt {left right : RecoveryFrontierPoint}
    (sameAxes : left.costs.axisSignature = right.costs.axisSignature) :
    comparePoints left right ≠ .gt ↔ left.place ≤ right.place := by
  have below := foldr_then_eq_lt (values_length_eq sameAxes)
  have same := foldr_then_eq_eq (values_length_eq sameAxes)
  have identities : compare left.observationId right.observationId ≠ .gt ↔ left.observationId ≤ right.observationId :=
    compare_le_iff_le
  unfold RecoveryFrontierPoint.place comparePoints compareVectorsLexicographically
  rw [Prod.Lex.toLex_le_toLex, directions_eq, ← below, ← same, ← identities]
  cases (List.zipWith compare left.costs.values right.costs.values).foldr Ordering.then .eq <;> simp [Ordering.then]

/-- Points over the same axes are sorted by their places. -/
theorem sortedPoints_eq {points : List RecoveryFrontierPoint} {axes : List CostAxis}
    (overAxes : ∀ point ∈ points, point.costs.axisSignature = axes) :
    sortedPoints points = points.insertionSort (fun left right => left.place ≤ right.place) := by
  have same := List.map_insertionSort (fun left right => comparePoints left right ≠ .gt)
    (fun left right : RecoveryFrontierPoint => left.place ≤ right.place) id points (by
      intro left leftMember right rightMember
      exact comparePoints_ne_gt ((overAxes left leftMember).trans (overAxes right rightMember).symm))
  simpa only [List.map_id, sortedPoints] using same

/-- Whether neither vector is worse on any axis, as the two implementations compute it. -/
theorem foldl_noWorseOnAxis (noWorse : Bool × Bool) (pairs : List (CostCoordinate × CostCoordinate)) :
    pairs.foldl noWorseOnAxis noWorse =
      (noWorse.1 && pairs.all (fun pair => compareCostCoordinates pair.1 pair.2 ≠ .gt),
        noWorse.2 && pairs.all (fun pair => compareCostCoordinates pair.1 pair.2 ≠ .lt)) := by
  induction pairs generalizing noWorse with
  | nil => simp
  | cons pair rest ih =>
    rw [List.foldl_cons, ih]
    unfold noWorseOnAxis compareCostCoordinates
    rcases lt_trichotomy (pair.1.numerator * pair.2.denominator) (pair.2.numerator * pair.1.denominator) with
      below | same | above
    · simp [compare_lt_iff_lt.mpr below, below, not_lt_of_gt below]
    · simp [same]
    · simp [compare_gt_iff_gt.mpr above, above, not_lt_of_gt above]

/-- The relation of the builder that one of the checker stands for. -/
def VectorRelation.costRelation : VectorRelation → CostRelation
  | .retainedBetter => .leftStrictlyBetter
  | .equal => .equal
  | .baselineBetter => .rightStrictlyBetter
  | .incomparable => .incomparable

theorem zipWith_eq_map_zip (left right : List CostCoordinate) :
    List.zipWith compareCostCoordinates left right =
      (left.zip right).map (fun pair => compareCostCoordinates pair.1 pair.2) :=
  (List.map_zip_eq_zipWith (f := fun pair => compareCostCoordinates pair.1 pair.2)).symm

/-- Both implementations relate vectors alike. -/
theorem vectorRelation_eq (left right : CostVector) :
    (vectorRelation left right).costRelation = costRelation left right := by
  unfold vectorRelation costRelation
  rw [foldl_noWorseOnAxis, zipWith_eq_map_zip]
  simp only [List.all_map, Function.comp_def, Bool.true_and]
  generalize (left.coordinates.zip right.coordinates).all
    (fun pair => compareCostCoordinates pair.1 pair.2 ≠ .gt) = notAbove
  generalize (left.coordinates.zip right.coordinates).all
    (fun pair => compareCostCoordinates pair.1 pair.2 ≠ .lt) = notBelow
  cases notAbove <;> cases notBelow <;> rfl

theorem pointOrderFrom_eq (identities : Ordering) (pairs : List (CostCoordinate × CostCoordinate)) :
    pointOrderFrom identities pairs =
      ((pairs.map (fun pair => compareCostCoordinates pair.1 pair.2)).foldr Ordering.then .eq).then identities := by
  induction pairs with
  | nil => rfl
  | cons pair rest ih =>
    unfold pointOrderFrom
    rw [List.map_cons, List.foldr_cons, ih]
    unfold compareCostCoordinates
    rcases lt_trichotomy (pair.1.numerator * pair.2.denominator) (pair.2.numerator * pair.1.denominator) with
      below | same | above
    · simp [compare_lt_iff_lt.mpr below, below, below.ne]
    · simp [same]
    · simp [compare_gt_iff_gt.mpr above, above.ne', not_lt_of_gt above]

/-- Both implementations order points alike. -/
theorem pointOrder_eq (left right : RecoveryFrontierPoint) : pointOrder left right = comparePoints left right := by
  unfold pointOrder comparePoints compareVectorsLexicographically
  rw [pointOrderFrom_eq, zipWith_eq_map_zip]

end RatchetingInquiry
