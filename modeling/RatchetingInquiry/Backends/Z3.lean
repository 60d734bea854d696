import RatchetingInquiry.Formal.Universe
import RatchetingInquiry.Library.Smt

/-! The translation of the finite formula language to the terms of a solver, and of a model back to an assignment.
A Boolean domain becomes a Boolean constant, an enum domain an integer constant that ranges over the indices of its
values. -/

namespace RatchetingInquiry

mutual

/-- Refuse a formula that uses a symbol the universe does not bind, or binds at the other sort. -/
def validateBinding : Formula → (String → Option FiniteDomain) → Except Failure Unit
  | .boolLiteral _, _ => return
  | .symbol name, domains =>
    match domains name with
    | none => throw (.validation ("unbound_symbol:" ++ name))
    | some domain => require (domain.values.all (fun value => value.sort = .boolean))
        (.validation ("boolean_symbol_bound_to_enum:" ++ name))
  | .enumEquals symbol _, domains =>
    match domains symbol with
    | none => throw (.validation ("unbound_symbol:" ++ symbol))
    | some domain => require (domain.values.all (fun value => value.sort = .enum))
        (.validation ("enum_equality_bound_to_boolean:" ++ symbol))
  | .not operand, domains => validateBinding operand domains
  | .and operands, domains | .or operands, domains => validateBindings operands domains
  | .implies antecedent consequent, domains => do
    validateBinding antecedent domains
    validateBinding consequent domains
  | .equivalence left right, domains => do
    validateBinding left domains
    validateBinding right domains

def validateBindings : List Formula → (String → Option FiniteDomain) → Except Failure Unit
  | [], _ => return
  | operand :: rest, domains => do
    validateBinding operand domains
    validateBindings rest domains

end

/-- A constant of the solver. -/
inductive Z3Variable where
  | bool (name : String)
  | int (name : String)
deriving DecidableEq

mutual

/-- The term of a formula. A constant at the other sort is what the constructors of the solver refuse; a validated
formula has none. -/
def translateNode : Formula → (String → Option FiniteDomain) → (String → Option Z3Variable) → Except Failure BoolTerm
  | .boolLiteral value, _, _ => return .val value
  | .symbol name, _, constants => do
    match ← found (constants name) (.keyError name) with
    | .bool constant => return .const constant
    | .int _ => throw (.runtime "Value cannot be converted into a Z3 Boolean value")
  | .enumEquals symbol value, domains, constants => do
    let domain ← found (domains symbol) (.keyError symbol)
    if .str value ∉ domain.values then return .val false
    match ← found (constants symbol) (.keyError symbol) with
    | .int constant => return .equalInt (.const constant) (.val (domain.values.idxOf (.str value)))
    | .bool _ => throw (.runtime "sort mismatch")
  | .not operand, domains, constants => do return .not (← translateNode operand domains constants)
  | .and operands, domains, constants => do return .and (← translateNodes operands domains constants)
  | .or operands, domains, constants => do return .or (← translateNodes operands domains constants)
  | .implies antecedent consequent, domains, constants => do
    return .implies (← translateNode antecedent domains constants) (← translateNode consequent domains constants)
  | .equivalence left right, domains, constants => do
    return .equal (← translateNode left domains constants) (← translateNode right domains constants)

def translateNodes : List Formula → (String → Option FiniteDomain) → (String → Option Z3Variable) →
    Except Failure (List BoolTerm)
  | [], _, _ => return []
  | operand :: rest, domains, constants => do
    return (← translateNode operand domains constants) :: (← translateNodes rest domains constants)

end

structure Translation where
  expression : BoolTerm
  constraints : List BoolTerm
  constants : List (String × Z3Variable)

/-- The constant of a domain. -/
def domainVariable (domain : FiniteDomain) : Z3Variable :=
  if domain.values.all (fun value => value.sort = .boolean) then .bool domain.symbol else .int domain.symbol

/-- A Boolean domain of one value fixes its constant; an enum domain bounds its constant. -/
def domainConstraints (domain : FiniteDomain) : List BoolTerm :=
  if domain.values.all (fun value => value.sort = .boolean) then
    match domain.values with
    | [value] => [if value = .bool true then .const domain.symbol else .not (.const domain.symbol)]
    | _ => []
  else [.or ((List.range domain.values.length).map (fun index => .equalInt (.const domain.symbol) (.val index)))]

def translate (formula : Formula) (finiteUniverse : FiniteUniverse) : Except Failure Translation := do
  validateBinding formula (domainBySymbol finiteUniverse)
  let constants := finiteUniverse.domains.map (fun domain => (domain.symbol, domainVariable domain))
  let expression ← translateNode formula (domainBySymbol finiteUniverse)
    (fun symbol => (indexBy Prod.fst constants symbol).map Prod.snd)
  return {
    expression := expression
    constraints := finiteUniverse.domains.flatMap domainConstraints
    constants := constants }

/-- The value that a model gives to a domain. A Boolean domain is read as whether its constant is true, an enum domain
by the index in its constant. -/
def extractValue (model : Interpretation) (z3Variable : Z3Variable) (domain : FiniteDomain) : Except Failure Scalar :=
  if domain.values.all (fun value => value.sort = .boolean) then
    match z3Variable with
    | .bool name => return .bool (model.bool name)
    | .int _ => return .bool false
  else
    match z3Variable with
    | .bool _ => throw (.attributeError "as_long")
    | .int name => do
      let index := model.int name
      require (¬ (index < 0 ∨ index ≥ domain.values.length))
        (.validation ("model enum value outside domain:" ++ domain.symbol))
      match ← found domain.values[index.toNat]? (.indexError "tuple index out of range") with
      | .str value => return .str value
      | .bool _ => throw (.runtime "validated enum domain unexpectedly contained a non-string")

def extractAssignment (model : Interpretation) (translation : Translation) (finiteUniverse : FiniteUniverse) :
    Except Failure Assignment := do
  let values ← finiteUniverse.domains.mapM (fun domain => do
    let z3Variable ← found ((indexBy Prod.fst translation.constants domain.symbol).map Prod.snd) (.keyError domain.symbol)
    let value ← extractValue model z3Variable domain
    return ({ symbol := domain.symbol, value := value } : AssignmentValue))
  return { values := values }

end RatchetingInquiry
