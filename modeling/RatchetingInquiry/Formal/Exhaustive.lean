import Mathlib.Algebra.Order.BigOperators.GroupWithZero.List
import Mathlib.Algebra.Order.Ring.Nat
import RatchetingInquiry.Core.Run

/-! Independent exhaustive semantics for bounded formulas: the only source of hard unsatisfiability. The assignments
are tried in order until one satisfies the formula, and on a formula that uses each symbol at its sort the verdict
is the truth about all assignments. -/

namespace RatchetingInquiry

inductive AttackProfile where
  | necessity | sufficiency | prerequisite | localization | generalization | actualization
deriving DecidableEq

inductive ExhaustiveVerdict where
  | sat | unsat | unknown
deriving DecidableEq

structure ExhaustiveResult where
  verdict : ExhaustiveVerdict
  universeId : String
  universeRevision : String
  universeFingerprint : String
  closedWorld : Bool
  assignmentsChecked : Nat
  witness : Option Assignment := none
  reason : Option String := none
  sat_witnessed : verdict = .sat → witness.isSome := by simp
  only_sat_witnessed : verdict ≠ .sat → witness = none := by simp
  unknown_reasoned : verdict = .unknown → reason.isSome := by simp
deriving DecidableEq

def ExhaustiveResult.hardUnsatEligible (result : ExhaustiveResult) : Bool :=
  result.verdict = .unsat && result.closedWorld

/-- Evaluate the assignments in order until one satisfies the formula, counting them. -/
def searchAssignments (formula : Formula) : Nat → List Assignment → Except Failure (Nat × Option Assignment)
  | checked, [] => return (checked, none)
  | checked, assignment :: rest => do
    if ← evaluate formula assignment.asEnvironment then return (checked + 1, some assignment)
    else searchAssignments formula (checked + 1) rest

/-- The symbols of the formula that the universe does not bind. -/
def missingSymbols (formula : Formula) (finiteUniverse : FiniteUniverse) : List String :=
  (formulaSymbols formula).filter (fun symbol => symbol ∉ finiteUniverse.domains.map (·.symbol))

section
variable [Fingerprints]

def exhaustiveCheck (formula : Formula) (finiteUniverse : FiniteUniverse) (maxAssignments : Int) :
    Except Failure ExhaustiveResult := do
  require (¬ maxAssignments < 1) (.validation "max_assignments must be positive")
  if finiteUniverse.assignmentCount > maxAssignments then
    return {
      verdict := .unknown
      universeId := finiteUniverse.id
      universeRevision := finiteUniverse.revision
      universeFingerprint := finiteUniverse.fingerprint
      closedWorld := finiteUniverse.closedWorld
      assignmentsChecked := 0
      reason := some "assignment_budget_exceeded" }
  let missing := missingSymbols formula finiteUniverse
  if missing ≠ [] then
    return {
      verdict := .unknown
      universeId := finiteUniverse.id
      universeRevision := finiteUniverse.revision
      universeFingerprint := finiteUniverse.fingerprint
      closedWorld := finiteUniverse.closedWorld
      assignmentsChecked := 0
      reason := some ("unbound_symbols:" ++ String.intercalate "," (missing.dedup.insertionSort (· ≤ ·))) }
  match ← searchAssignments formula 0 (enumerateAssignments finiteUniverse) with
  | (checked, some assignment) => return {
      verdict := .sat
      universeId := finiteUniverse.id
      universeRevision := finiteUniverse.revision
      universeFingerprint := finiteUniverse.fingerprint
      closedWorld := finiteUniverse.closedWorld
      assignmentsChecked := checked
      witness := some assignment }
  | (checked, none) => return {
      verdict := .unsat
      universeId := finiteUniverse.id
      universeRevision := finiteUniverse.revision
      universeFingerprint := finiteUniverse.fingerprint
      closedWorld := finiteUniverse.closedWorld
      assignmentsChecked := checked }

/-- Search the exact counterexample shape that an attack profile requires. -/
def implicationAttack (profile : AttackProfile) (proposedCondition protectedConsequence : Formula)
    (finiteUniverse : FiniteUniverse) (maxAssignments : Int) : Except Failure ExhaustiveResult :=
  let counterexample : Formula := match profile with
    | .necessity | .prerequisite => .and [protectedConsequence, .not proposedCondition]
    | .sufficiency | .generalization | .actualization => .and [proposedCondition, .not protectedConsequence]
    | .localization => .and [proposedCondition, .not protectedConsequence]
  exhaustiveCheck counterexample finiteUniverse maxAssignments

end

section
variable {formula : Formula} {finiteUniverse : FiniteUniverse}

theorem missingSymbols_eq_nil_iff : missingSymbols formula finiteUniverse = [] ↔
    ∀ symbol ∈ formulaSymbols formula, symbol ∈ finiteUniverse.domains.map (·.symbol) := by
  unfold missingSymbols
  rw [List.filter_eq_nil_iff]
  simp

theorem sorts_isSome_iff {symbol : String} :
    (finiteUniverse.sorts symbol).isSome ↔ symbol ∈ finiteUniverse.domains.map (·.symbol) := by
  unfold FiniteUniverse.sorts domainBySymbol
  rw [Option.isSome_map, indexBy_isSome_iff]

theorem missingSymbols_of_wellSorted (sorted : formula.WellSorted finiteUniverse.sorts) :
    missingSymbols formula finiteUniverse = [] := by
  rw [missingSymbols_eq_nil_iff]
  intro symbol used
  exact sorts_isSome_iff.mp (sorted.bound symbol used)

/-- There is an assignment, because no domain is empty. -/
theorem assignmentCount_pos : 0 < finiteUniverse.assignmentCount := by
  unfold FiniteUniverse.assignmentCount
  apply List.prod_pos
  intro size member
  obtain ⟨domain, _, rfl⟩ := List.mem_map.mp member
  exact List.length_pos_iff.mpr domain.values_given

/-- The search ends at the first assignment that satisfies the formula, or behind the last one. -/
theorem searchAssignments_ok (sorted : formula.WellSorted finiteUniverse.sorts) {assignments : List Assignment}
    (assigned : ∀ assignment ∈ assignments, finiteUniverse.Assigns assignment) (checked : Nat) :
    (∃ earlier witness later, assignments = earlier ++ witness :: later ∧
      (∀ assignment ∈ earlier, ¬ formula.Holds assignment.asEnvironment) ∧ formula.Holds witness.asEnvironment ∧
      searchAssignments formula checked assignments = .ok (checked + earlier.length + 1, some witness)) ∨
    ((∀ assignment ∈ assignments, ¬ formula.Holds assignment.asEnvironment) ∧
      searchAssignments formula checked assignments = .ok (checked + assignments.length, none)) := by
  induction assignments generalizing checked with
  | nil => exact .inr ⟨by simp, rfl⟩
  | cons first rest ih =>
    obtain ⟨value, evaluated, truth⟩ := evaluate_assigned sorted (assigned first List.mem_cons_self)
    unfold searchAssignments
    rw [evaluated]
    cases value with
    | true => exact .inl ⟨[], first, rest, rfl, by simp, truth.mp rfl, rfl⟩
    | false =>
      have refuted : ¬ formula.Holds first.asEnvironment := by simp [← truth]
      rcases ih (fun assignment member => assigned assignment (List.mem_cons_of_mem _ member)) (checked + 1) with
        ⟨earlier, witness, later, split, unsatisfied, satisfied, found⟩ | ⟨unsatisfied, exhausted⟩
      · refine .inl ⟨first :: earlier, witness, later, by rw [split]; rfl, ?_, satisfied, ?_⟩
        · exact List.forall_mem_cons.mpr ⟨refuted, unsatisfied⟩
        · rw [List.length_cons, show checked + (earlier.length + 1) + 1 = checked + 1 + earlier.length + 1 by omega]
          exact found
      · refine .inr ⟨List.forall_mem_cons.mpr ⟨refuted, unsatisfied⟩, ?_⟩
        rw [List.length_cons, show checked + (rest.length + 1) = checked + 1 + rest.length by omega]
        exact exhausted

end

/-- The verdict is satisfiable exactly if some assignment of the universe satisfies the formula; then the witness is the
first one that does and the count is its position. Otherwise all assignments were checked. -/
structure ExhaustiveResult.ExactFor (result : ExhaustiveResult) (formula : Formula) (finiteUniverse : FiniteUniverse) :
    Prop where
  satisfiable : result.verdict = .sat ↔
    ∃ assignment, finiteUniverse.Assigns assignment ∧ formula.Holds assignment.asEnvironment
  first : result.verdict = .sat → ∃ earlier witness later,
    enumerateAssignments finiteUniverse = earlier ++ witness :: later ∧ result.witness = some witness ∧
      finiteUniverse.Assigns witness ∧ formula.Holds witness.asEnvironment ∧
      (∀ assignment ∈ earlier, ¬ formula.Holds assignment.asEnvironment) ∧
      result.assignmentsChecked = earlier.length + 1
  exhausted : result.verdict ≠ .sat → result.verdict = .unsat ∧
    result.assignmentsChecked = (finiteUniverse.domains.map (·.values.length)).prod

/-- The implication that an attack profile tries to refute on an assignment. -/
def AttackProfile.Implication (profile : AttackProfile) (proposedCondition protectedConsequence : Formula)
    (assignment : Assignment) : Prop :=
  if profile = .necessity ∨ profile = .prerequisite then
    protectedConsequence.Holds assignment.asEnvironment → proposedCondition.Holds assignment.asEnvironment
  else proposedCondition.Holds assignment.asEnvironment → protectedConsequence.Holds assignment.asEnvironment

section
variable [Fingerprints] {finiteUniverse : FiniteUniverse} {maxAssignments : Int}
  (within : finiteUniverse.assignmentCount ≤ maxAssignments)
include within

theorem exhaustiveCheck_exactFor {formula : Formula} (sorted : formula.WellSorted finiteUniverse.sorts) :
    ∃ result, exhaustiveCheck formula finiteUniverse maxAssignments = .ok result ∧
      result.ExactFor formula finiteUniverse := by
  have positive : ¬ maxAssignments < 1 := by
    have := @assignmentCount_pos finiteUniverse
    omega
  have affordable : ¬ finiteUniverse.assignmentCount > maxAssignments := by omega
  have assigned : ∀ assignment ∈ enumerateAssignments finiteUniverse, finiteUniverse.Assigns assignment :=
    fun _ member => mem_enumerateAssignments.mp member
  unfold exhaustiveCheck
  simp only [require, positive, not_false_eq_true, if_true, affordable, if_false, missingSymbols_of_wellSorted sorted]
  rcases searchAssignments_ok sorted assigned 0 with
    ⟨earlier, witness, later, split, unsatisfied, satisfied, found⟩ | ⟨unsatisfied, exhausted⟩
  · have member : witness ∈ enumerateAssignments finiteUniverse := by simp [split]
    rw [found]
    refine ⟨_, rfl, ?_, ?_, ?_⟩
    · exact iff_of_true rfl ⟨witness, assigned witness member, satisfied⟩
    · intro _
      refine ⟨earlier, witness, later, split, rfl, assigned witness member, satisfied, unsatisfied, ?_⟩
      exact congrArg (· + 1) (Nat.zero_add _)
    · intro different
      exact absurd rfl different
  · rw [exhausted]
    refine ⟨_, rfl, ?_, ?_, ?_⟩
    · refine iff_of_false (by simp) ?_
      intro ⟨assignment, assigns, satisfied⟩
      exact unsatisfied assignment (mem_enumerateAssignments.mpr assigns) satisfied
    · intro same
      simp at same
    · intro _
      refine ⟨rfl, ?_⟩
      rw [Nat.zero_add]
      exact length_enumerateAssignments

omit [Fingerprints] within in
/-- The conjunction of a formula and the negation of another is well-sorted when both are. -/
theorem counterexample_wellSorted {assumed refuted : Formula} {sorts : String → Option ScalarSort}
    (assumedSorted : assumed.WellSorted sorts) (refutedSorted : refuted.WellSorted sorts) :
    (Formula.and [assumed, .not refuted]).WellSorted sorts := by
  simp [Formula.WellSorted, assumedSorted, refutedSorted]

theorem refutation_unsat_iff {assumed refuted : Formula} (assumedSorted : assumed.WellSorted finiteUniverse.sorts)
    (refutedSorted : refuted.WellSorted finiteUniverse.sorts) :
    ∃ result, exhaustiveCheck (.and [assumed, .not refuted]) finiteUniverse maxAssignments = .ok result ∧
      (result.verdict = .unsat ↔ ∀ assignment, finiteUniverse.Assigns assignment →
        assumed.Holds assignment.asEnvironment → refuted.Holds assignment.asEnvironment) := by
  obtain ⟨result, checked, exactly⟩ := exhaustiveCheck_exactFor within
    (counterexample_wellSorted assumedSorted refutedSorted)
  refine ⟨result, checked, ?_⟩
  have refutes : ∀ environment, (Formula.and [assumed, .not refuted]).Holds environment ↔
      assumed.Holds environment ∧ ¬ refuted.Holds environment := by
    intro environment
    simp [Formula.Holds]
  have negative : result.verdict = .unsat ↔ result.verdict ≠ .sat := by
    constructor
    · intro unsat
      rw [unsat]
      decide
    · intro different
      exact (exactly.exhausted different).1
  rw [negative, ne_eq, exactly.satisfiable]
  simp only [refutes, not_exists, not_and, not_not]

/-- Within the budget the check is exact on formulas that use each symbol at its sort, and an attack fails exactly if the
attacked implication holds on the whole universe. -/
theorem exhaustive_search_exact :
    (∀ formula : Formula, formula.WellSorted finiteUniverse.sorts →
      ∃ result, exhaustiveCheck formula finiteUniverse maxAssignments = .ok result ∧
        result.ExactFor formula finiteUniverse) ∧
    ∀ (profile : AttackProfile) (proposedCondition protectedConsequence : Formula),
      proposedCondition.WellSorted finiteUniverse.sorts → protectedConsequence.WellSorted finiteUniverse.sorts →
        ∃ result,
          implicationAttack profile proposedCondition protectedConsequence finiteUniverse maxAssignments = .ok result ∧
            (result.verdict = .unsat ↔ ∀ assignment, finiteUniverse.Assigns assignment →
              profile.Implication proposedCondition protectedConsequence assignment) := by
  constructor
  · intro formula sorted
    exact exhaustiveCheck_exactFor within sorted
  · intro profile proposedCondition protectedConsequence conditionSorted consequenceSorted
    cases profile with
    | necessity | prerequisite => exact refutation_unsat_iff within consequenceSorted conditionSorted
    | sufficiency | localization | generalization | actualization =>
      exact refutation_unsat_iff within conditionSorted consequenceSorted

end

namespace Worked

/-- The reference circuit: a lamp behind a switch, with two sources of power. -/
def circuitUniverse : FiniteUniverse where
  id := "reference-circuit"
  revision := "1"
  domains := [
    { symbol := "backup_power", values := [.bool false, .bool true] },
    { symbol := "main_power", values := [.bool false, .bool true] },
    { symbol := "switch_closed", values := [.bool false, .bool true] }]
  closedWorld := true

def availablePower : Formula := .or [.symbol "main_power", .symbol "backup_power"]

def lampOn : Formula := .and [.symbol "switch_closed", availablePower]

theorem circuit_symbol_sorted {name : String} (named : name ∈ ["backup_power", "main_power", "switch_closed"]) :
    (Formula.symbol name).WellSorted circuitUniverse.sorts := by
  simp only [List.mem_cons, List.not_mem_nil, or_false] at named
  unfold Formula.WellSorted
  rcases named with rfl | rfl | rfl <;> decide +kernel

theorem lampOn_wellSorted : lampOn.WellSorted circuitUniverse.sorts := by
  have main := @circuit_symbol_sorted "main_power" (by simp)
  have backup := @circuit_symbol_sorted "backup_power" (by simp)
  have closed := @circuit_symbol_sorted "switch_closed" (by simp)
  simp [lampOn, availablePower, Formula.WellSorted] at main backup closed ⊢
  exact ⟨closed, main, backup⟩

/-- The attack on the necessity of a closed switch fails. -/
theorem switch_closed_necessary : ∃ result,
    implicationAttack .necessity (.symbol "switch_closed") lampOn circuitUniverse 4096 = .ok result ∧
      result.verdict = .unsat := by
  obtain ⟨_, attacks⟩ := @exhaustive_search_exact _ circuitUniverse 4096 (by decide)
  obtain ⟨result, attacked, unsat⟩ := attacks .necessity (.symbol "switch_closed") lampOn
    (circuit_symbol_sorted (by simp)) lampOn_wellSorted
  refine ⟨result, attacked, unsat.mpr ?_⟩
  intro assignment _
  unfold AttackProfile.Implication lampOn
  simp only [true_or, if_true, Formula.Holds]
  intro lit
  simpa [Formula.Holds] using lit (.symbol "switch_closed") (by simp)

end Worked

end RatchetingInquiry
