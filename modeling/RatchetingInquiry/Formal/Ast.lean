import RatchetingInquiry.Core.Model

/-! A Boolean and finite-enum expression language without code: its direct interpreter, and the truth tables that the
interpreter computes on the environments that bind each symbol as the formula uses it. -/

namespace RatchetingInquiry

inductive Scalar where
  | bool (value : Bool)
  | str (value : String)
deriving DecidableEq

abbrev Environment := String → Option Scalar

/-- Empty names, values and operand lists, which the source excludes, are not excluded here. -/
inductive Formula where
  | boolLiteral (value : Bool)
  | symbol (name : String)
  | enumEquals (symbol value : String)
  | not (operand : Formula)
  | and (operands : List Formula)
  | or (operands : List Formula)
  | implies (antecedent consequent : Formula)
  | equivalence (left right : Formula)

mutual

/-- Interpret a formula directly. Conjunctions, disjunctions and implications stop at the first operand that decides
them, and what stands behind it is never looked at. -/
def evaluate : Formula → Environment → Except Failure Bool
  | .boolLiteral value, _ => return value
  | .symbol name, environment =>
    match environment name with
    | some (.bool value) => return value
    | _ => throw (.validation ("'" ++ name ++ "' is absent or not Boolean"))
  | .enumEquals symbol value, environment =>
    match environment symbol with
    | some (.str bound) => return bound = value
    | _ => throw (.validation ("'" ++ symbol ++ "' is absent or not a finite enum"))
  | .not operand, environment => do return !(← evaluate operand environment)
  | .and operands, environment => evaluateAll operands environment
  | .or operands, environment => evaluateAny operands environment
  | .implies antecedent consequent, environment => do
    if ← evaluate antecedent environment then evaluate consequent environment else return true
  | .equivalence left right, environment => do
    let first ← evaluate left environment
    let second ← evaluate right environment
    return first = second

/-- `all` over the operands. -/
def evaluateAll : List Formula → Environment → Except Failure Bool
  | [], _ => return true
  | operand :: rest, environment => do
    if ← evaluate operand environment then evaluateAll rest environment else return false

/-- `any` over the operands. -/
def evaluateAny : List Formula → Environment → Except Failure Bool
  | [], _ => return false
  | operand :: rest, environment => do
    if ← evaluate operand environment then return true else evaluateAny rest environment

end

mutual

def formulaSymbols : Formula → List String
  | .boolLiteral _ => []
  | .symbol name => [name]
  | .enumEquals symbol _ => [symbol]
  | .not operand => formulaSymbols operand
  | .and operands | .or operands => operandSymbols operands
  | .implies antecedent consequent => formulaSymbols antecedent ++ formulaSymbols consequent
  | .equivalence left right => formulaSymbols left ++ formulaSymbols right

def operandSymbols : List Formula → List String
  | [] => []
  | operand :: rest => formulaSymbols operand ++ operandSymbols rest

end

/-- The truth tables. -/
def Formula.Holds : Formula → Environment → Prop
  | .boolLiteral value, _ => value = true
  | .symbol name, environment => environment name = some (.bool true)
  | .enumEquals name value, environment => environment name = some (.str value)
  | .not operand, environment => ¬ operand.Holds environment
  | .and operands, environment => ∀ operand, (_ : operand ∈ operands) → operand.Holds environment
  | .or operands, environment => ∃ operand, ∃ _ : operand ∈ operands, operand.Holds environment
  | .implies antecedent consequent, environment => antecedent.Holds environment → consequent.Holds environment
  | .equivalence left right, environment => left.Holds environment ↔ right.Holds environment

inductive ScalarSort where
  | boolean | enum
deriving DecidableEq

def Scalar.sort : Scalar → ScalarSort
  | .bool _ => .boolean
  | .str _ => .enum

/-- Every symbol is used at the sort that it is given. -/
def Formula.WellSorted : Formula → (String → Option ScalarSort) → Prop
  | .boolLiteral _, _ => True
  | .symbol name, sorts => sorts name = some .boolean
  | .enumEquals name _, sorts => sorts name = some .enum
  | .not operand, sorts => operand.WellSorted sorts
  | .and operands, sorts | .or operands, sorts => ∀ operand, (_ : operand ∈ operands) → operand.WellSorted sorts
  | .implies left right, sorts | .equivalence left right, sorts => left.WellSorted sorts ∧ right.WellSorted sorts

/-- Induction over a formula and all operands of its conjunctions and disjunctions. -/
@[elab_as_elim, induction_eliminator]
theorem Formula.operandInduction {motive : Formula → Prop} (boolLiteral : ∀ value, motive (.boolLiteral value))
    (symbol : ∀ name, motive (.symbol name)) (enumEquals : ∀ symbol value, motive (.enumEquals symbol value))
    (not : ∀ operand, motive operand → motive (.not operand))
    (and : ∀ operands, (∀ operand ∈ operands, motive operand) → motive (.and operands))
    (or : ∀ operands, (∀ operand ∈ operands, motive operand) → motive (.or operands))
    (implies : ∀ antecedent consequent, motive antecedent → motive consequent → motive (.implies antecedent consequent))
    (equivalence : ∀ left right, motive left → motive right → motive (.equivalence left right))
    (formula : Formula) : motive formula := by
  refine @Formula.rec motive (fun operands => ∀ operand ∈ operands, motive operand) boolLiteral symbol enumEquals not
    and or implies equivalence (by simp) ?_ formula
  intro first rest one others operand member
  rcases List.mem_cons.mp member with rfl | later
  · exact one
  · exact others operand later

theorem mem_operandSymbols {operands : List Formula} {symbol : String} :
    symbol ∈ operandSymbols operands ↔ ∃ operand ∈ operands, symbol ∈ formulaSymbols operand := by
  induction operands with
  | nil => simp [operandSymbols]
  | cons first rest ih => rw [operandSymbols, List.mem_append, ih, List.exists_mem_cons_iff]

theorem Formula.WellSorted.bound {formula : Formula} {sorts : String → Option ScalarSort}
    (sorted : formula.WellSorted sorts) : ∀ symbol ∈ formulaSymbols formula, (sorts symbol).isSome := by
  intro symbol used
  induction formula with
  | boolLiteral value => simp [formulaSymbols] at used
  | symbol name =>
    simp only [formulaSymbols, List.mem_singleton] at used
    simp only [Formula.WellSorted] at sorted
    simp [used, sorted]
  | enumEquals name value =>
    simp only [formulaSymbols, List.mem_singleton] at used
    simp only [Formula.WellSorted] at sorted
    simp [used, sorted]
  | not operand ih =>
    simp only [formulaSymbols] at used
    simp only [Formula.WellSorted] at sorted
    exact ih sorted used
  | and operands ih | or operands ih =>
    simp only [formulaSymbols, mem_operandSymbols] at used
    simp only [Formula.WellSorted] at sorted
    obtain ⟨operand, member, used⟩ := used
    exact ih operand member (sorted operand member) used
  | implies left right first second | equivalence left right first second =>
    simp only [formulaSymbols, List.mem_append] at used
    simp only [Formula.WellSorted] at sorted
    rcases used with inLeft | inRight
    · exact first sorted.1 inLeft
    · exact second sorted.2 inRight

section
variable {environment : Environment}

theorem evaluateAll_holds {operands : List Formula}
    (each : ∀ operand ∈ operands, ∃ value, evaluate operand environment = .ok value ∧
      (value = true ↔ operand.Holds environment)) :
    ∃ value, evaluateAll operands environment = .ok value ∧
      (value = true ↔ ∀ operand ∈ operands, operand.Holds environment) := by
  induction operands with
  | nil => exact ⟨true, rfl, by simp⟩
  | cons first rest ih =>
    obtain ⟨value, evaluated, truth⟩ := each first List.mem_cons_self
    obtain ⟨others, later, truths⟩ := ih fun operand member => each operand (List.mem_cons_of_mem _ member)
    unfold evaluateAll
    rw [evaluated]
    cases value with
    | false => exact ⟨false, rfl, by simp [← truth]⟩
    | true => exact ⟨others, later, by simp [truths, ← truth]⟩

theorem evaluateAny_holds {operands : List Formula}
    (each : ∀ operand ∈ operands, ∃ value, evaluate operand environment = .ok value ∧
      (value = true ↔ operand.Holds environment)) :
    ∃ value, evaluateAny operands environment = .ok value ∧
      (value = true ↔ ∃ operand ∈ operands, operand.Holds environment) := by
  induction operands with
  | nil => exact ⟨false, rfl, by simp⟩
  | cons first rest ih =>
    obtain ⟨value, evaluated, truth⟩ := each first List.mem_cons_self
    obtain ⟨others, later, truths⟩ := ih fun operand member => each operand (List.mem_cons_of_mem _ member)
    unfold evaluateAny
    rw [evaluated]
    cases value with
    | true => exact ⟨true, rfl, by simp [← truth]⟩
    | false => exact ⟨others, later, by simp [truths, ← truth]⟩

/-- On an environment that binds each symbol at its sort the interpreter computes the truth tables. -/
theorem evaluate_holds {formula : Formula}
    (sorted : formula.WellSorted (fun symbol => (environment symbol).map Scalar.sort)) :
    ∃ value, evaluate formula environment = .ok value ∧ (value = true ↔ formula.Holds environment) := by
  induction formula with
  | boolLiteral value => exact ⟨value, by simp [evaluate, pure, Except.pure], by simp [Formula.Holds]⟩
  | symbol name =>
    simp only [Formula.WellSorted, Option.map_eq_some_iff] at sorted
    obtain ⟨bound, looked, sort⟩ := sorted
    cases bound with
    | str text => simp [Scalar.sort] at sort
    | bool value =>
      refine ⟨value, ?_, ?_⟩
      · simp [evaluate, looked, pure, Except.pure]
      · simp [Formula.Holds, looked]
  | enumEquals symbol value =>
    simp only [Formula.WellSorted, Option.map_eq_some_iff] at sorted
    obtain ⟨bound, looked, sort⟩ := sorted
    cases bound with
    | bool flag => simp [Scalar.sort] at sort
    | str text =>
      refine ⟨text = value, ?_, ?_⟩
      · simp [evaluate, looked, pure, Except.pure]
      · simp [Formula.Holds, looked]
  | not operand ih =>
    simp only [Formula.WellSorted] at sorted
    obtain ⟨value, evaluated, truth⟩ := ih sorted
    refine ⟨!value, ?_, ?_⟩
    · simp [evaluate, evaluated, bind, Except.bind, pure, Except.pure]
    · simp [Formula.Holds, ← truth]
  | and operands ih =>
    simp only [Formula.WellSorted] at sorted
    simp only [evaluate, Formula.Holds]
    exact evaluateAll_holds fun operand member => ih operand member (sorted operand member)
  | or operands ih =>
    simp only [Formula.WellSorted] at sorted
    simp only [evaluate, Formula.Holds, exists_prop]
    exact evaluateAny_holds fun operand member => ih operand member (sorted operand member)
  | implies antecedent consequent first second =>
    simp only [Formula.WellSorted] at sorted
    obtain ⟨assumed, antecedentEvaluated, antecedentTruth⟩ := first sorted.1
    obtain ⟨concluded, consequentEvaluated, consequentTruth⟩ := second sorted.2
    simp only [evaluate, Formula.Holds, antecedentEvaluated, bind, Except.bind]
    cases assumed with
    | false => exact ⟨true, rfl, by simp [← antecedentTruth]⟩
    | true => exact ⟨concluded, by simpa using consequentEvaluated, by simp [← antecedentTruth, consequentTruth]⟩
  | equivalence left right first second =>
    simp only [Formula.WellSorted] at sorted
    obtain ⟨one, leftEvaluated, leftTruth⟩ := first sorted.1
    obtain ⟨other, rightEvaluated, rightTruth⟩ := second sorted.2
    refine ⟨one = other, ?_, ?_⟩
    · simp [evaluate, leftEvaluated, rightEvaluated, bind, Except.bind, pure, Except.pure]
    · rw [decide_eq_true_eq, Bool.eq_iff_iff, leftTruth, rightTruth, Formula.Holds]

end

end RatchetingInquiry
