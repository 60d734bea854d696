import RatchetingInquiry.Backends.Z3
import RatchetingInquiry.Formal.Exhaustive

/-! The two backends side by side. They refuse different formulas: the translation looks at the sort of every symbol,
the exhaustive check only at whether each symbol is bound. On the formulas that the translation accepts, the models of
the translated terms are the assignments that satisfy the formula. -/

namespace RatchetingInquiry

theorem FiniteDomain.all_boolean_iff {domain : FiniteDomain} :
    domain.values.all (fun value => value.sort = .boolean) = true ↔ domain.sort = .boolean := by
  unfold FiniteDomain.sort
  split
  next boolean => simpa using boolean
  next other => simp [other]

theorem FiniteDomain.not_all_boolean {domain : FiniteDomain} (enum : domain.sort = .enum) :
    ¬ domain.values.all (fun value => value.sort = .boolean) = true := by
  rw [FiniteDomain.all_boolean_iff, enum]
  decide

theorem FiniteDomain.all_enum_iff {domain : FiniteDomain} :
    domain.values.all (fun value => value.sort = .enum) = true ↔ domain.sort = .enum := by
  rw [List.all_eq_true]
  simp only [decide_eq_true_eq]
  constructor
  · intro all
    obtain ⟨value, member⟩ := List.exists_mem_of_ne_nil _ domain.values_given
    rw [← FiniteDomain.sort_of_mem member, all value member]
  · intro enum value member
    rw [FiniteDomain.sort_of_mem member, enum]

section
variable {finiteUniverse : FiniteUniverse}

theorem validateBindings_eq_ok {operands : List Formula} {domains : String → Option FiniteDomain} :
    validateBindings operands domains = .ok () ↔ ∀ operand ∈ operands, validateBinding operand domains = .ok () := by
  induction operands with
  | nil => simp [validateBindings, pure, Except.pure]
  | cons first rest ih =>
    rw [validateBindings, unit_bind_eq_ok, ih, List.forall_mem_cons]

/-- The translation accepts exactly the formulas that use each symbol at its sort. -/
theorem validateBinding_eq_ok {formula : Formula} :
    validateBinding formula (domainBySymbol finiteUniverse) = .ok () ↔ formula.WellSorted finiteUniverse.sorts := by
  induction formula with
  | boolLiteral value => simp [validateBinding, Formula.WellSorted, pure, Except.pure]
  | symbol name =>
    simp only [validateBinding, Formula.WellSorted, FiniteUniverse.sorts]
    cases domainBySymbol finiteUniverse name with
    | none => simp [throw, throwThe, MonadExceptOf.throw]
    | some domain => simp only [require_eq_ok, FiniteDomain.all_boolean_iff, Option.map_some, Option.some.injEq]
  | enumEquals name value =>
    simp only [validateBinding, Formula.WellSorted, FiniteUniverse.sorts]
    cases domainBySymbol finiteUniverse name with
    | none => simp [throw, throwThe, MonadExceptOf.throw]
    | some domain => simp only [require_eq_ok, FiniteDomain.all_enum_iff, Option.map_some, Option.some.injEq]
  | not operand ih => simpa only [validateBinding, Formula.WellSorted] using ih
  | and operands ih | or operands ih =>
    simp only [validateBinding, Formula.WellSorted, validateBindings_eq_ok]
    constructor
    · intro each operand member
      exact (ih operand member).mp (each operand member)
    · intro each operand member
      exact (ih operand member).mpr (each operand member)
  | implies left right first second | equivalence left right first second =>
    simp only [validateBinding, Formula.WellSorted, unit_bind_eq_ok, first, second]

end

section
variable [Fingerprints]

/-- The exhaustive check answers that it does not know. -/
def AnswersUnknown (formula : Formula) (finiteUniverse : FiniteUniverse) (maxAssignments : Int) : Prop :=
  ∃ result, exhaustiveCheck formula finiteUniverse maxAssignments = .ok result ∧ result.verdict = .unknown ∧
    result.hardUnsatEligible = false

/-- A formula that the translation refuses is unknown to the exhaustive check exactly if a symbol is not bound: behind
that check a symbol of the wrong sort raises, or stays hidden behind an operand that decides the formula. -/
theorem refused_answers_unknown_iff {formula : Formula} {finiteUniverse : FiniteUniverse} {maxAssignments : Int}
    {refusal : Failure} (within : finiteUniverse.assignmentCount ≤ maxAssignments)
    (_ : validateBinding formula (domainBySymbol finiteUniverse) = .error refusal) :
    AnswersUnknown formula finiteUniverse maxAssignments ↔
      ∃ symbol ∈ formulaSymbols formula, symbol ∉ finiteUniverse.domains.map (·.symbol) := by
  have positive : ¬ maxAssignments < 1 := by
    have := @assignmentCount_pos finiteUniverse
    omega
  have affordable : ¬ finiteUniverse.assignmentCount > maxAssignments := by omega
  have unbound : missingSymbols formula finiteUniverse ≠ [] ↔
      ∃ symbol ∈ formulaSymbols formula, symbol ∉ finiteUniverse.domains.map (·.symbol) := by
    rw [ne_eq, missingSymbols_eq_nil_iff]
    simp
  unfold AnswersUnknown exhaustiveCheck
  simp only [require, positive, not_false_eq_true, if_true, affordable, if_false]
  rw [← unbound]
  by_cases missing : missingSymbols formula finiteUniverse = []
  · refine iff_of_false ?_ (by simpa using missing)
    intro claimed
    obtain ⟨result, checked, unknown, _⟩ := claimed
    simp only [missing, ne_eq, not_true_eq_false, if_false] at checked
    obtain ⟨_, _, rest⟩ := bind_eq_ok.mp checked
    obtain ⟨⟨count, witness⟩, _, finished⟩ := bind_eq_ok.mp rest
    cases witness <;> · cases finished; contradiction
  · refine iff_of_true ?_ missing
    simp only [missing, ne_eq, not_false_eq_true, if_true]
    exact ⟨_, rfl, rfl, rfl⟩

end

namespace Worked

/-- A formula over a symbol that the circuit does not bind. -/
theorem unbound_symbol_unknown : AnswersUnknown (.symbol "lamp_on") circuitUniverse 4096 :=
  (@refused_answers_unknown_iff _ (.symbol "lamp_on") circuitUniverse 4096 (.validation "unbound_symbol:lamp_on")
    (by decide) rfl).mpr ⟨"lamp_on", by simp [formulaSymbols], by decide⟩

/-- The sort of the symbol is never looked at, because the first operand decides the conjunction. -/
def hiddenMisuse : Formula := .and [.boolLiteral false, .symbol "mode"]

def modeUniverse : FiniteUniverse where
  id := "universe:mode"
  revision := "1"
  domains := [{ symbol := "mode", values := [.str "safe", .str "unsafe"] }]
  closedWorld := true
  revision_given := circuitUniverse.revision_given

/-- The translation refuses the formula, and the exhaustive check finds it hard unsatisfiable. -/
theorem hidden_misuse_unsat : ¬ ∀ (formula : Formula) (finiteUniverse : FiniteUniverse) (maxAssignments : Int)
    (refusal : Failure), finiteUniverse.assignmentCount ≤ maxAssignments →
      validateBinding formula (domainBySymbol finiteUniverse) = .error refusal →
        AnswersUnknown formula finiteUniverse maxAssignments := by
  intro agree
  obtain ⟨result, checked, unknown, _⟩ := agree hiddenMisuse modeUniverse 4096
    (.validation "boolean_symbol_bound_to_enum:mode") (by decide) rfl
  have unsat : (exhaustiveCheck hiddenMisuse modeUniverse 4096).map (fun result => (result.verdict, result.hardUnsatEligible)) =
      .ok (.unsat, true) := by rfl
  rw [checked] at unsat
  simp only [Except.map, Except.ok.injEq, Prod.mk.injEq, unknown, reduceCtorEq, false_and] at unsat

end Worked

/-- The value that the model gives to the domain: the truth of its constant, or the value at the index in it. -/
def Interpretation.Decodes (model : Interpretation) (domain : FiniteDomain) (value : Scalar) : Prop :=
  value ∈ domain.values ∧
    match domain.sort with
    | .boolean => value = .bool (model.bool domain.symbol)
    | .enum => ∃ index : Nat, model.int domain.symbol = index ∧ domain.values[index]? = some value

/-- A Boolean domain with two values has both. -/
theorem FiniteDomain.both_of_boolean {domain : FiniteDomain} (boolean : domain.sort = .boolean)
    (several : ∀ value, domain.values ≠ [value]) (flag : Bool) : .bool flag ∈ domain.values := by
  have distinct := domain.values_distinct
  have sorts : ∀ value ∈ domain.values, ∃ flag, value = .bool flag := by
    intro value member
    have sort := (FiniteDomain.sort_of_mem member).trans boolean
    cases value with
    | bool flag => exact ⟨flag, rfl⟩
    | str text => simp [Scalar.sort] at sort
  have given := domain.values_given
  generalize domain.values = values at distinct sorts given several
  cases values with
  | nil => exact absurd rfl given
  | cons first others =>
    cases others with
    | nil => exact absurd rfl (several first)
    | cons second rest =>
      obtain ⟨one, rfl⟩ := sorts first (by simp)
      obtain ⟨other, rfl⟩ := sorts second (by simp)
      have different : one ≠ other := by
        intro same
        subst same
        simp at distinct
      cases one <;> cases other <;> cases flag <;> simp at different ⊢

/-- The constraints of a domain say that the model gives it one of its values. -/
theorem domainConstraints_hold_iff {model : Interpretation} {domain : FiniteDomain} :
    (∀ constraint ∈ domainConstraints domain, constraint.Holds model) ↔ ∃ value, model.Decodes domain value := by
  unfold domainConstraints Interpretation.Decodes
  cases sort : domain.sort with
  | boolean =>
    rw [if_pos (FiniteDomain.all_boolean_iff.mpr sort)]
    dsimp only
    split
    next value single =>
      have single_sort := (FiniteDomain.sort_of_mem (single ▸ List.mem_singleton_self value)).trans sort
      cases value with
      | str text => simp [Scalar.sort] at single_sort
      | bool flag =>
        cases flag <;> simp [single, BoolTerm.Holds]
    next several =>
      simp only [List.not_mem_nil, false_implies, implies_true, true_iff]
      exact ⟨_, FiniteDomain.both_of_boolean sort (fun value single => several value single) _, rfl⟩
  | enum =>
    rw [if_neg (FiniteDomain.not_all_boolean sort)]
    simp only [List.mem_singleton, forall_eq, BoolTerm.holds_index]
    constructor
    · intro indexed
      obtain ⟨index, below, held⟩ := indexed
      exact ⟨domain.values[index], List.getElem_mem below, index, held, List.getElem?_eq_getElem below⟩
    · intro decoded
      obtain ⟨value, _, index, held, found⟩ := decoded
      exact ⟨index, (List.getElem?_eq_some_iff.mp found).1, held⟩

/-- What the model gives to a domain is extracted. -/
theorem extractValue_eq_ok {model : Interpretation} {domain : FiniteDomain} {value : Scalar}
    (decodes : model.Decodes domain value) : extractValue model (domainVariable domain) domain = .ok value := by
  obtain ⟨member, held⟩ := decodes
  unfold extractValue domainVariable
  cases sort : domain.sort with
  | boolean =>
    rw [if_pos (FiniteDomain.all_boolean_iff.mpr sort), if_pos (FiniteDomain.all_boolean_iff.mpr sort)]
    rw [sort] at held
    rw [held]
    rfl
  | enum =>
    rw [if_neg (FiniteDomain.not_all_boolean sort), if_neg (FiniteDomain.not_all_boolean sort)]
    rw [sort] at held
    obtain ⟨index, holds, found⟩ := held
    have below := (List.getElem?_eq_some_iff.mp found).1
    have stringSort := (FiniteDomain.sort_of_mem member).trans sort
    have inside : ¬ ((index : Int) < 0 ∨ (index : Int) ≥ domain.values.length) := by omega
    simp only [holds, require, inside, not_false_eq_true, if_true, Int.toNat_natCast, found]
    cases value with
    | bool flag => simp [Scalar.sort] at stringSort
    | str text => rfl

section
variable {finiteUniverse : FiniteUniverse}

/-- The constant of a symbol, as the translation looks it up. -/
def constantOf (finiteUniverse : FiniteUniverse) (symbol : String) : Option Z3Variable :=
  (domainBySymbol finiteUniverse symbol).map domainVariable

theorem constantOf_eq (symbol : String) :
    (indexBy Prod.fst (finiteUniverse.domains.map (fun domain => (domain.symbol, domainVariable domain))) symbol).map
      Prod.snd = constantOf finiteUniverse symbol := by
  unfold constantOf domainBySymbol
  rw [indexBy_map_pair, Option.map_map]
  rfl

theorem domainBySymbol_of_mem {domain : FiniteDomain} (member : domain ∈ finiteUniverse.domains) :
    domainBySymbol finiteUniverse domain.symbol = some domain :=
  indexBy_of_mem (finiteUniverse.symbols_ordered.imp fun below => below.ne) member

/-- The environment binds every symbol to what the model gives to its domain. -/
def Interpretation.Agrees (model : Interpretation) (finiteUniverse : FiniteUniverse) (environment : Environment) : Prop :=
  ∀ domain ∈ finiteUniverse.domains, ∃ value, environment domain.symbol = some value ∧ model.Decodes domain value

/-- The terms of the operands exist and mean what the operands do. -/
theorem translateNodes_holds {operands : List Formula} {means : BoolTerm → Formula → Prop}
    (each : ∀ operand ∈ operands, ∃ term,
      translateNode operand (domainBySymbol finiteUniverse) (constantOf finiteUniverse) = .ok term ∧ means term operand) :
    ∃ terms, translateNodes operands (domainBySymbol finiteUniverse) (constantOf finiteUniverse) = .ok terms ∧
      List.Forall₂ means terms operands := by
  induction operands with
  | nil => exact ⟨[], rfl, .nil⟩
  | cons first rest ih =>
    obtain ⟨term, translated, same⟩ := each first List.mem_cons_self
    obtain ⟨terms, later, others⟩ := ih fun operand member => each operand (List.mem_cons_of_mem _ member)
    refine ⟨term :: terms, ?_, .cons same others⟩
    rw [translateNodes, translated, later]
    rfl

section
variable {model : Interpretation} {environment : Environment} {terms : List BoolTerm} {operands : List Formula}
  (same : List.Forall₂ (fun (term : BoolTerm) (operand : Formula) => term.Holds model ↔ operand.Holds environment)
    terms operands)
include same

theorem all_hold_iff : (∀ term ∈ terms, term.Holds model) ↔ ∀ operand ∈ operands, operand.Holds environment := by
  induction same with
  | nil => simp
  | cons first _ ih => rw [List.forall_mem_cons, List.forall_mem_cons, first, ih]

theorem any_holds_iff : (∃ term ∈ terms, term.Holds model) ↔ ∃ operand ∈ operands, operand.Holds environment := by
  induction same with
  | nil => simp
  | cons first _ ih => rw [List.exists_mem_cons_iff, List.exists_mem_cons_iff, first, ih]

end

/-- The term of a formula that uses each symbol at its sort holds in a model exactly if the formula holds in the
environments that agree with it. -/
theorem translateNode_holds {formula : Formula} (sorted : formula.WellSorted finiteUniverse.sorts) :
    ∃ term, translateNode formula (domainBySymbol finiteUniverse) (constantOf finiteUniverse) = .ok term ∧
      ∀ (model : Interpretation) (environment : Environment), model.Agrees finiteUniverse environment →
        (term.Holds model ↔ formula.Holds environment) := by
  induction formula with
  | boolLiteral value =>
    refine ⟨.val value, by simp [translateNode, pure, Except.pure], ?_⟩
    intro model environment _
    simp [BoolTerm.Holds, Formula.Holds]
  | symbol name =>
    simp only [Formula.WellSorted, FiniteUniverse.sorts, Option.map_eq_some_iff] at sorted
    obtain ⟨domain, looked, boolean⟩ := sorted
    obtain ⟨member, named⟩ := indexBy_some looked
    refine ⟨.const domain.symbol, ?_, ?_⟩
    · simp only [translateNode, constantOf, looked, Option.map_some, domainVariable,
        if_pos (FiniteDomain.all_boolean_iff.mpr boolean)]
      rfl
    · intro model environment agrees
      obtain ⟨value, bound, _, held⟩ := agrees domain member
      rw [boolean] at held
      simp [BoolTerm.Holds, Formula.Holds, ← named, bound, held]
  | enumEquals name text =>
    simp only [Formula.WellSorted, FiniteUniverse.sorts, Option.map_eq_some_iff] at sorted
    obtain ⟨domain, looked, enum⟩ := sorted
    obtain ⟨member, named⟩ := indexBy_some looked
    by_cases listed : .str text ∈ domain.values
    · refine ⟨.equalInt (.const domain.symbol) (.val (domain.values.idxOf (.str text))), ?_, ?_⟩
      · simp only [translateNode, constantOf, looked, Option.map_some, domainVariable,
          if_neg (FiniteDomain.not_all_boolean enum)]
        simp [found, listed, bind, Except.bind, pure, Except.pure]
      · intro model environment agrees
        obtain ⟨value, bound, _, held⟩ := agrees domain member
        rw [enum] at held
        obtain ⟨index, holds, valued⟩ := held
        obtain ⟨below, same⟩ := List.getElem?_eq_some_iff.mp valued
        simp only [BoolTerm.Holds, IntTerm.eval, Formula.Holds, ← named, bound, holds, Int.natCast_inj,
          Option.some.injEq]
        constructor
        · intro sameIndex
          subst sameIndex
          rw [← same, List.getElem_idxOf]
        · intro sameValue
          rw [← sameValue, ← same, domain.values_distinct.idxOf_getElem]
    · refine ⟨.val false, ?_, ?_⟩
      · simp [translateNode, looked, found, listed, bind, Except.bind, pure, Except.pure]
      · intro model environment agrees
        obtain ⟨value, bound, inside, _⟩ := agrees domain member
        simp only [BoolTerm.Holds, Formula.Holds, ← named, bound, Option.some.injEq, Bool.false_eq_true, false_iff]
        intro same
        exact listed (same ▸ inside)
  | not operand ih =>
    simp only [Formula.WellSorted] at sorted
    obtain ⟨term, translated, means⟩ := ih sorted
    refine ⟨.not term, by simp [translateNode, translated, bind, Except.bind, pure, Except.pure], ?_⟩
    intro model environment agrees
    rw [BoolTerm.Holds, Formula.Holds, means model environment agrees]
  | and operands ih =>
    simp only [Formula.WellSorted] at sorted
    obtain ⟨terms, translated, same⟩ := translateNodes_holds fun operand member => ih operand member (sorted operand member)
    refine ⟨.and terms, by simp [translateNode, translated, bind, Except.bind, pure, Except.pure], ?_⟩
    intro model environment agrees
    rw [BoolTerm.Holds, Formula.Holds]
    exact all_hold_iff (same.imp fun _ _ means => means model environment agrees)
  | or operands ih =>
    simp only [Formula.WellSorted] at sorted
    obtain ⟨terms, translated, same⟩ := translateNodes_holds fun operand member => ih operand member (sorted operand member)
    refine ⟨.or terms, by simp [translateNode, translated, bind, Except.bind, pure, Except.pure], ?_⟩
    intro model environment agrees
    rw [BoolTerm.Holds, Formula.Holds]
    simp only [exists_prop]
    exact any_holds_iff (same.imp fun _ _ means => means model environment agrees)
  | implies antecedent consequent first second =>
    simp only [Formula.WellSorted] at sorted
    obtain ⟨one, antecedentTranslated, antecedentMeans⟩ := first sorted.1
    obtain ⟨other, consequentTranslated, consequentMeans⟩ := second sorted.2
    refine ⟨.implies one other, by
      simp [translateNode, antecedentTranslated, consequentTranslated, bind, Except.bind, pure, Except.pure], ?_⟩
    intro model environment agrees
    rw [BoolTerm.Holds, Formula.Holds, antecedentMeans model environment agrees, consequentMeans model environment agrees]
  | equivalence left right first second =>
    simp only [Formula.WellSorted] at sorted
    obtain ⟨one, leftTranslated, leftMeans⟩ := first sorted.1
    obtain ⟨other, rightTranslated, rightMeans⟩ := second sorted.2
    refine ⟨.equal one other, by
      simp [translateNode, leftTranslated, rightTranslated, bind, Except.bind, pure, Except.pure], ?_⟩
    intro model environment agrees
    rw [BoolTerm.Holds, Formula.Holds, leftMeans model environment agrees, rightMeans model environment agrees]

/-- The model satisfies the expression and the constraints. -/
def Interpretation.Satisfies (model : Interpretation) (translation : Translation) : Prop :=
  translation.expression.Holds model ∧ ∀ constraint ∈ translation.constraints, constraint.Holds model

/-- A formula that is accepted is translated. -/
theorem exists_translation {formula : Formula} {term : BoolTerm}
    (accepted : validateBinding formula (domainBySymbol finiteUniverse) = .ok ())
    (translated : translateNode formula (domainBySymbol finiteUniverse) (constantOf finiteUniverse) = .ok term) :
    ∃ translation, translate formula finiteUniverse = .ok translation ∧ translation.expression = term ∧
      translation.constraints = finiteUniverse.domains.flatMap domainConstraints ∧
      translation.constants = finiteUniverse.domains.map (fun domain => (domain.symbol, domainVariable domain)) := by
  unfold translate
  rw [accepted]
  simp only [constantOf_eq, translated, bind, Except.bind, pure, Except.pure]
  exact ⟨_, rfl, rfl, rfl, rfl⟩

section
variable {model : Interpretation} {translation : Translation}
  (constants : translation.constants = finiteUniverse.domains.map (fun domain => (domain.symbol, domainVariable domain)))
  (decodes : ∀ domain ∈ finiteUniverse.domains, ∃ value, model.Decodes domain value)
include constants decodes

/-- What the model gives to the domains is extracted, one value for each domain in order. -/
theorem extractAssignment_decodes : ∃ assignment, extractAssignment model translation finiteUniverse = .ok assignment ∧
    List.Forall₂ (fun (domain : FiniteDomain) (item : AssignmentValue) =>
      item.symbol = domain.symbol ∧ model.Decodes domain item.value) finiteUniverse.domains assignment.values := by
  have stepped : ∀ domain ∈ finiteUniverse.domains, ∀ value, model.Decodes domain value →
      (do
        let z3Variable ← found ((indexBy Prod.fst translation.constants domain.symbol).map Prod.snd) (.keyError domain.symbol)
        let value ← extractValue model z3Variable domain
        return ({ symbol := domain.symbol, value := value } : AssignmentValue) : Except Failure AssignmentValue) =
      .ok { symbol := domain.symbol, value := value } := by
    intro domain member value decoded
    rw [constants, constantOf_eq, constantOf, domainBySymbol_of_mem member]
    simp only [found, Option.map_some, bind, Except.bind, extractValue_eq_ok decoded, pure, Except.pure]
  obtain ⟨items, extracted⟩ := @mapM_succeeds _ _ _ finiteUniverse.domains _ fun domain member => by
    obtain ⟨value, decoded⟩ := decodes domain member
    exact ⟨_, stepped domain member value decoded⟩
  refine ⟨{ values := items }, ?_, ?_⟩
  · unfold extractAssignment
    rw [extracted]
    rfl
  · have steps := mapM_eq_ok.mp extracted
    rw [List.forall₂_iff_get] at steps ⊢
    refine ⟨steps.1, ?_⟩
    intro position below inside
    have member := List.get_mem finiteUniverse.domains ⟨position, below⟩
    obtain ⟨value, decoded⟩ := decodes _ member
    have same := (stepped _ member value decoded).symm.trans (steps.2 position below inside)
    simp only [Except.ok.injEq] at same
    rw [← same]
    exact ⟨rfl, decoded⟩

end

/-- An assignment with one item for each domain binds the symbol of every domain. -/
theorem asEnvironment_of_forall₂ {describes : FiniteDomain → Scalar → Prop} {assignment : Assignment}
    (given : List.Forall₂ (fun (domain : FiniteDomain) (item : AssignmentValue) =>
      item.symbol = domain.symbol ∧ describes domain item.value) finiteUniverse.domains assignment.values)
    {domain : FiniteDomain} (member : domain ∈ finiteUniverse.domains) :
    ∃ value, assignment.asEnvironment domain.symbol = some value ∧ describes domain value := by
  have sameSymbols : assignment.values.map AssignmentValue.symbol = finiteUniverse.domains.map FiniteDomain.symbol := by
    have named := given.imp fun _ _ both => both.1
    generalize assignment.values = items at named
    generalize finiteUniverse.domains = domains at named
    induction named with
    | nil => rfl
    | cons first _ ih => rw [List.map_cons, List.map_cons, first, ih]
  have distinct : (assignment.values.map AssignmentValue.symbol).Nodup := by
    rw [sameSymbols]
    exact finiteUniverse.symbols_ordered.imp fun below => below.ne
  obtain ⟨position, below, rfl⟩ := List.getElem_of_mem member
  obtain ⟨sameLength, each⟩ := List.forall₂_iff_get.mp given
  obtain ⟨named, described⟩ := each position below (sameLength ▸ below)
  refine ⟨_, ?_, described⟩
  unfold Assignment.asEnvironment
  have looked := indexBy_of_mem distinct (List.get_mem assignment.values ⟨position, sameLength ▸ below⟩)
  rw [named] at looked
  exact congrArg (Option.map (·.value)) looked

/-- The model of an assignment: the truth of each Boolean symbol, and the index of each enum value. -/
def modelOf (finiteUniverse : FiniteUniverse) (environment : Environment) : Interpretation where
  bool := fun symbol => environment symbol = some (.bool true)
  int := fun symbol =>
    match domainBySymbol finiteUniverse symbol, environment symbol with
    | some domain, some value => domain.values.idxOf value
    | _, _ => 0

theorem modelOf_decodes {environment : Environment} {domain : FiniteDomain} {value : Scalar}
    (member : domain ∈ finiteUniverse.domains) (bound : environment domain.symbol = some value)
    (inside : value ∈ domain.values) : (modelOf finiteUniverse environment).Decodes domain value := by
  refine ⟨inside, ?_⟩
  have sort := FiniteDomain.sort_of_mem inside
  cases declared : domain.sort with
  | boolean =>
    rw [declared] at sort
    cases value with
    | str text => simp [Scalar.sort] at sort
    | bool flag => simp [modelOf, bound]
  | enum =>
    refine ⟨domain.values.idxOf value, ?_, ?_⟩
    · simp only [modelOf, domainBySymbol_of_mem member, bound]
    · rw [List.getElem?_eq_getElem (List.idxOf_lt_length_of_mem inside), List.getElem_idxOf]

/-- The terms of an accepted formula are satisfiable exactly if some assignment of the universe satisfies it, and what is
extracted from any of their models is such an assignment. -/
theorem translation_preserves_meaning {formula : Formula}
    (accepted : validateBinding formula (domainBySymbol finiteUniverse) = .ok ()) :
    ∃ translation, translate formula finiteUniverse = .ok translation ∧
      ((∃ model : Interpretation, model.Satisfies translation) ↔
        ∃ assignment, finiteUniverse.Assigns assignment ∧ evaluate formula assignment.asEnvironment = .ok true) ∧
      ∀ model : Interpretation, model.Satisfies translation →
        ∃ assignment, extractAssignment model translation finiteUniverse = .ok assignment ∧
          finiteUniverse.Assigns assignment ∧ evaluate formula assignment.asEnvironment = .ok true := by
  have sorted := validateBinding_eq_ok.mp accepted
  obtain ⟨term, translated, means⟩ := translateNode_holds sorted
  have evaluates : ∀ assignment, finiteUniverse.Assigns assignment →
      (evaluate formula assignment.asEnvironment = .ok true ↔ formula.Holds assignment.asEnvironment) := by
    intro assignment assigns
    obtain ⟨value, evaluated, truth⟩ := evaluate_assigned sorted assigns
    rw [evaluated, ← truth, Except.ok.injEq]
  obtain ⟨translation, built, expression, constraints, constants⟩ := exists_translation accepted translated
  have satisfies_iff : ∀ model : Interpretation, model.Satisfies translation ↔
      term.Holds model ∧ ∀ domain ∈ finiteUniverse.domains, ∃ value, model.Decodes domain value := by
    intro model
    unfold Interpretation.Satisfies
    rw [expression, constraints]
    simp only [List.mem_flatMap, forall_exists_index, and_imp, ← domainConstraints_hold_iff]
    apply and_congr_right
    intro _
    constructor
    · intro each domain member constraint listed
      exact each constraint domain member listed
    · intro each constraint domain member listed
      exact each domain member constraint listed
  have extracts : ∀ model : Interpretation, model.Satisfies translation →
      ∃ assignment, extractAssignment model translation finiteUniverse = .ok assignment ∧
        finiteUniverse.Assigns assignment ∧ evaluate formula assignment.asEnvironment = .ok true := by
    intro model satisfies
    obtain ⟨held, decodes⟩ := (satisfies_iff model).mp satisfies
    obtain ⟨assignment, extracted, decoded⟩ := extractAssignment_decodes constants decodes
    have assigns : finiteUniverse.Assigns assignment := decoded.imp fun _ _ both => ⟨both.1, both.2.1⟩
    have agrees : model.Agrees finiteUniverse assignment.asEnvironment :=
      fun _ member => asEnvironment_of_forall₂ decoded member
    exact ⟨assignment, extracted, assigns, (evaluates assignment assigns).mpr ((means model _ agrees).mp held)⟩
  refine ⟨translation, built, ?_, extracts⟩
  constructor
  · intro ⟨model, satisfies⟩
    obtain ⟨assignment, _, assigns, satisfied⟩ := extracts model satisfies
    exact ⟨assignment, assigns, satisfied⟩
  · intro ⟨assignment, assigns, satisfied⟩
    have agrees : (modelOf finiteUniverse assignment.asEnvironment).Agrees finiteUniverse assignment.asEnvironment := by
      intro domain member
      obtain ⟨value, bound, inside⟩ := asEnvironment_of_forall₂ assigns member
      exact ⟨value, bound, modelOf_decodes member bound inside⟩
    refine ⟨modelOf finiteUniverse assignment.asEnvironment, (satisfies_iff _).mpr ⟨?_, ?_⟩⟩
    · exact (means _ _ agrees).mpr ((evaluates assignment assigns).mp satisfied)
    · intro domain member
      obtain ⟨value, _, decodes⟩ := agrees domain member
      exact ⟨value, decodes⟩

end

namespace Worked

theorem switch_named : "switch_closed" ≠ "" := by decide

/-- A mode and a switch that is always closed. -/
def closedUniverse : FiniteUniverse where
  id := "universe:closed"
  revision := "1"
  domains := [
    { symbol := "mode", values := [.str "safe", .str "unsafe"] },
    { symbol := "switch_closed", values := [.bool true], symbol_given := switch_named }]
  closedWorld := true
  revision_given := circuitUniverse.revision_given

/-- The mode is unsafe, the switch is closed, and the mode is not one that the domain lacks. -/
def unsafeClosed : Formula :=
  .and [.enumEquals "mode" "unsafe", .symbol "switch_closed", .not (.enumEquals "mode" "not-in-domain")]

theorem unsafe_closed_satisfiable : ∃ translation, translate unsafeClosed closedUniverse = .ok translation ∧
    ∃ model : Interpretation, model.Satisfies translation := by
  obtain ⟨translation, translated, satisfiable, _⟩ := @translation_preserves_meaning closedUniverse unsafeClosed rfl
  refine ⟨translation, translated, satisfiable.mpr ⟨{ values := [⟨"mode", .str "unsafe"⟩, ⟨"switch_closed", .bool true⟩] }, ?_, rfl⟩⟩
  unfold FiniteUniverse.Assigns closedUniverse
  simp

end Worked

end RatchetingInquiry
