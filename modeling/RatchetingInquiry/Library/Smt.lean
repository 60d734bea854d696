import Mathlib.Data.List.Basic

/-! Terms over Boolean and integer constants, as the constructors of a solver build them, with their standard
meaning in an interpretation of the constants. -/

namespace RatchetingInquiry

inductive IntTerm where
  | const (name : String)
  | val (value : Int)
deriving DecidableEq

inductive BoolTerm where
  | const (name : String)
  | val (value : Bool)
  | not (operand : BoolTerm)
  | and (operands : List BoolTerm)
  | or (operands : List BoolTerm)
  | implies (antecedent consequent : BoolTerm)
  | equal (left right : BoolTerm)
  | equalInt (left right : IntTerm)

/-- A value for every constant; a partial model is completed to one. -/
structure Interpretation where
  bool : String → Bool
  int : String → Int

def IntTerm.eval (interpretation : Interpretation) : IntTerm → Int
  | .const name => interpretation.int name
  | .val value => value

def BoolTerm.Holds (interpretation : Interpretation) : BoolTerm → Prop
  | .const name => interpretation.bool name = true
  | .val value => value = true
  | .not operand => ¬ operand.Holds interpretation
  | .and operands => ∀ operand, (_ : operand ∈ operands) → operand.Holds interpretation
  | .or operands => ∃ operand, ∃ _ : operand ∈ operands, operand.Holds interpretation
  | .implies antecedent consequent => antecedent.Holds interpretation → consequent.Holds interpretation
  | .equal left right => left.Holds interpretation ↔ right.Holds interpretation
  | .equalInt left right => left.eval interpretation = right.eval interpretation

/-- The disjunction of all indices below a bound says that the constant is one of them. -/
theorem BoolTerm.holds_index {interpretation : Interpretation} {name : String} {bound : Nat} :
    (BoolTerm.or ((List.range bound).map (fun index => .equalInt (.const name) (.val index)))).Holds interpretation ↔
      ∃ index < bound, interpretation.int name = (index : Nat) := by
  simp [BoolTerm.Holds, IntTerm.eval]

end RatchetingInquiry
