import RatchetingInquiry.Core.Model
import RatchetingInquiry.Library.Index
import RatchetingInquiry.Library.Pairs

/-! Finite exact reference bindings for unbounded history carriers. The checker works over a finite transition
presentation, not a bounded sample of histories: what it checks of one step holds after every word. -/

namespace RatchetingInquiry

inductive ExactFixtureVerdict where
  | valid | invalid
deriving DecidableEq

structure ExactFixtureResult where
  verdict : ExactFixtureVerdict
  factorization : Bool
  exactEquivalence : Bool
  continuationCompatible : Bool
  recursiveUpdate : Bool
  determinationDescent : Bool
  configurationEqual : Bool
  eventCountEqual : Bool
  counterexample : Option (String × String)
deriving DecidableEq

/-- The value of a mapping at a key. -/
def valueAt {κ ν : Type} [DecidableEq κ] (mapping : List (κ × ν)) (key : κ) : Option ν :=
  (indexBy Prod.fst mapping key).map Prod.snd

/-- A finite congruence presentation of a possibly unbounded history carrier. -/
structure FiniteTransitionPresentation where
  states : List String
  alphabet : List String
  initialState : String
  transition : List ((String × String) × String)
  quotient : List (String × String)
  configuration : List (String × String)
  consequences : List (String × List String)
  determinations : List (List String) := []

namespace FiniteTransitionPresentation

/-- A mapping has exactly the states as keys. -/
def OverStates {ν : Type} (presentation : FiniteTransitionPresentation) (mapping : List (String × ν)) : Prop :=
  mapping.map Prod.fst ⊆ presentation.states ∧ presentation.states ⊆ mapping.map Prod.fst

instance {ν : Type} (presentation : FiniteTransitionPresentation) (mapping : List (String × ν)) :
    Decidable (presentation.OverStates mapping) :=
  inferInstanceAs (Decidable (_ ∧ _))

def next (presentation : FiniteTransitionPresentation) (state symbol : String) : Option String :=
  valueAt presentation.transition (state, symbol)

/-- The presentation is total over exact state ids. -/
structure IsTotal (presentation : FiniteTransitionPresentation) : Prop where
  inhabited : presentation.states ≠ []
  initial : presentation.initialState ∈ presentation.states
  quotient_total : presentation.OverStates presentation.quotient
  configuration_total : presentation.OverStates presentation.configuration
  consequences_total : presentation.OverStates presentation.consequences
  transition_total : ∀ state ∈ presentation.states, ∀ symbol ∈ presentation.alphabet,
    (presentation.next state symbol).any (fun target => target ∈ presentation.states) = true

instance (presentation : FiniteTransitionPresentation) : Decidable presentation.IsTotal :=
  decidable_of_iff (presentation.states ≠ [] ∧ presentation.initialState ∈ presentation.states ∧
      presentation.OverStates presentation.quotient ∧ presentation.OverStates presentation.configuration ∧
      presentation.OverStates presentation.consequences ∧
      ∀ state ∈ presentation.states, ∀ symbol ∈ presentation.alphabet,
        (presentation.next state symbol).any (fun target => target ∈ presentation.states) = true)
    ⟨fun ⟨inhabited, initial, quotient, configuration, consequences, transition⟩ =>
      ⟨inhabited, initial, quotient, configuration, consequences, transition⟩,
    fun total => ⟨total.inhabited, total.initial, total.quotient_total, total.configuration_total,
      total.consequences_total, total.transition_total⟩⟩

def SameQuotient (presentation : FiniteTransitionPresentation) (left right : String) : Prop :=
  valueAt presentation.quotient left = valueAt presentation.quotient right

def SameConsequence (presentation : FiniteTransitionPresentation) (left right : String) : Prop :=
  valueAt presentation.consequences left = valueAt presentation.consequences right

/-- The quotients of the states that one symbol leads to are equal. -/
def SameSuccessor (presentation : FiniteTransitionPresentation) (left right symbol : String) : Prop :=
  (presentation.next left symbol).bind (valueAt presentation.quotient) =
    (presentation.next right symbol).bind (valueAt presentation.quotient)

instance (presentation : FiniteTransitionPresentation) (left right : String) :
    Decidable (presentation.SameQuotient left right) := inferInstanceAs (Decidable (_ = _))

instance (presentation : FiniteTransitionPresentation) (left right : String) :
    Decidable (presentation.SameConsequence left right) := inferInstanceAs (Decidable (_ = _))

instance (presentation : FiniteTransitionPresentation) (left right symbol : String) :
    Decidable (presentation.SameSuccessor left right symbol) := inferInstanceAs (Decidable (_ = _))

def factorization (presentation : FiniteTransitionPresentation) : Bool :=
  (pairs presentation.states).all (fun (left, right) =>
    ¬ presentation.SameQuotient left right ∨ presentation.SameConsequence left right)

def exactEquivalence (presentation : FiniteTransitionPresentation) : Bool :=
  (pairs presentation.states).all (fun (left, right) =>
    presentation.SameQuotient left right ↔ presentation.SameConsequence left right)

def continuationCompatible (presentation : FiniteTransitionPresentation) : Bool :=
  (pairs presentation.states).all (fun (left, right) => presentation.alphabet.all (fun symbol =>
    ¬ presentation.SameQuotient left right ∨ presentation.SameSuccessor left right symbol))

def determinationDescent (presentation : FiniteTransitionPresentation) : Bool :=
  presentation.determinations.all (fun determination => (pairs presentation.states).all (fun (left, right) =>
    ¬ presentation.SameQuotient left right ∨ (left ∈ determination ↔ right ∈ determination)))

def consequenceCounterexample (presentation : FiniteTransitionPresentation) : Option (String × String) :=
  (pairs presentation.states).find? (fun (left, right) =>
    presentation.SameQuotient left right ∧ ¬ presentation.SameConsequence left right)

def continuationCounterexample (presentation : FiniteTransitionPresentation) : Option (String × String) :=
  (pairs presentation.states).find? (fun (left, right) =>
    presentation.SameQuotient left right ∧
      presentation.alphabet.any (fun symbol => ¬ presentation.SameSuccessor left right symbol))

end FiniteTransitionPresentation

/-- Independently check factorization, coarseness, descent, and recurrence. -/
def validateFiniteTransitionQuotient (presentation : FiniteTransitionPresentation) :
    Except Failure ExactFixtureResult := do
  require presentation.IsTotal
    (.validation "finite transition presentation must be total over exact state IDs")
  let counterexample :=
    if presentation.consequenceCounterexample = none ∧ ¬ presentation.continuationCompatible then
      presentation.continuationCounterexample
    else presentation.consequenceCounterexample
  let valid := presentation.factorization ∧ presentation.continuationCompatible ∧ presentation.determinationDescent
  return {
    verdict := if valid then .valid else .invalid
    factorization := presentation.factorization
    exactEquivalence := presentation.exactEquivalence
    continuationCompatible := presentation.continuationCompatible
    recursiveUpdate := presentation.continuationCompatible
    determinationDescent := presentation.determinationDescent
    configurationEqual := (pairs presentation.states).any (fun (left, right) =>
      valueAt presentation.configuration left = valueAt presentation.configuration right)
    eventCountEqual := false
    counterexample := counterexample }

namespace FiniteTransitionPresentation

/-- The state that a word of symbols leads to. -/
def reach (presentation : FiniteTransitionPresentation) (state : String) (word : List String) : Option String :=
  word.foldlM presentation.next state

/-- Two states look the same: equal quotients, equal consequences, and the same determinations hold of both. -/
def Indistinguishable (presentation : FiniteTransitionPresentation) (left right : String) : Prop :=
  presentation.SameQuotient left right ∧ presentation.SameConsequence left right ∧
    ∀ determination ∈ presentation.determinations, left ∈ determination ↔ right ∈ determination

/-- Every word leads both states on, and to states that look the same. -/
def AgreesForever (presentation : FiniteTransitionPresentation) (left right : String) : Prop :=
  ∀ word ⊆ presentation.alphabet, ∃ leftEnd rightEnd, presentation.reach left word = some leftEnd ∧
    presentation.reach right word = some rightEnd ∧ presentation.Indistinguishable leftEnd rightEnd

variable {presentation : FiniteTransitionPresentation}

theorem IsTotal.next_state (total : presentation.IsTotal) {state symbol : String}
    (owned : state ∈ presentation.states) (spoken : symbol ∈ presentation.alphabet) :
    ∃ target ∈ presentation.states, presentation.next state symbol = some target := by
  have reached := total.transition_total state owned symbol spoken
  rw [Option.any_eq_true] at reached
  obtain ⟨target, hit, member⟩ := reached
  exact ⟨target, of_decide_eq_true member, hit⟩

theorem factorization_iff : presentation.factorization = true ↔
    ∀ left ∈ presentation.states, ∀ right ∈ presentation.states,
      presentation.SameQuotient left right → presentation.SameConsequence left right := by
  unfold factorization
  simp only [List.all_eq_true, decide_eq_true_eq, ← imp_iff_not_or]
  apply forall_pairs_iff_forall
    (P := fun left right => presentation.SameQuotient left right → presentation.SameConsequence left right)
  · exact fun state _ _ => rfl
  · exact fun left right agrees same => (agrees same.symm).symm

theorem continuationCompatible_iff : presentation.continuationCompatible = true ↔
    ∀ left ∈ presentation.states, ∀ right ∈ presentation.states, presentation.SameQuotient left right →
      ∀ symbol ∈ presentation.alphabet, presentation.SameSuccessor left right symbol := by
  unfold continuationCompatible
  simp only [List.all_eq_true, decide_eq_true_eq, ← imp_iff_not_or]
  rw [forall_pairs_iff_forall (P := fun left right => ∀ symbol ∈ presentation.alphabet,
    presentation.SameQuotient left right → presentation.SameSuccessor left right symbol)]
  · constructor
    · exact fun agrees left first right second same symbol spoken => agrees left first right second symbol spoken same
    · exact fun agrees left first right second symbol spoken same => agrees left first right second same symbol spoken
  · exact fun state _ symbol _ _ => rfl
  · exact fun left right agrees symbol spoken same => (agrees symbol spoken same.symm).symm

theorem determinationDescent_iff : presentation.determinationDescent = true ↔
    ∀ left ∈ presentation.states, ∀ right ∈ presentation.states, presentation.SameQuotient left right →
      ∀ determination ∈ presentation.determinations, left ∈ determination ↔ right ∈ determination := by
  unfold determinationDescent
  simp only [List.all_eq_true, decide_eq_true_eq, ← imp_iff_not_or]
  have each : ∀ determination ∈ presentation.determinations,
      ((∀ pair ∈ pairs presentation.states, presentation.SameQuotient pair.1 pair.2 →
          (pair.1 ∈ determination ↔ pair.2 ∈ determination)) ↔
        ∀ left ∈ presentation.states, ∀ right ∈ presentation.states, presentation.SameQuotient left right →
          (left ∈ determination ↔ right ∈ determination)) := by
    intro determination _
    apply forall_pairs_iff_forall
      (P := fun left right => presentation.SameQuotient left right → (left ∈ determination ↔ right ∈ determination))
    · exact fun state _ _ => Iff.rfl
    · exact fun left right agrees same => (agrees same.symm).symm
  constructor
  · exact fun agrees left first right second same determination held =>
      (each determination held).mp (agrees determination held) left first right second same
  · exact fun agrees determination held =>
      (each determination held).mpr (fun left first right second same =>
        agrees left first right second same determination held)

/-- One step of two states with equal quotients leads to states with equal quotients. -/
theorem next_sameQuotient (total : presentation.IsTotal) (compatible : presentation.continuationCompatible = true)
    {left right symbol : String} (first : left ∈ presentation.states) (second : right ∈ presentation.states)
    (same : presentation.SameQuotient left right) (spoken : symbol ∈ presentation.alphabet) :
    ∃ leftNext ∈ presentation.states, ∃ rightNext ∈ presentation.states,
      presentation.next left symbol = some leftNext ∧ presentation.next right symbol = some rightNext ∧
        presentation.SameQuotient leftNext rightNext := by
  obtain ⟨leftNext, leftOwned, leftStep⟩ := total.next_state first spoken
  obtain ⟨rightNext, rightOwned, rightStep⟩ := total.next_state second spoken
  have agrees := continuationCompatible_iff.mp compatible left first right second same symbol spoken
  rw [SameSuccessor, leftStep, rightStep] at agrees
  exact ⟨leftNext, leftOwned, rightNext, rightOwned, leftStep, rightStep, agrees⟩

/-- The one-step checks hold after every word, by induction on the word. -/
theorem agreesForever_of_valid (total : presentation.IsTotal) (factors : presentation.factorization = true)
    (compatible : presentation.continuationCompatible = true) (descends : presentation.determinationDescent = true)
    {left right : String} (first : left ∈ presentation.states) (second : right ∈ presentation.states)
    (same : presentation.SameQuotient left right) : presentation.AgreesForever left right := by
  intro word spoken
  induction word generalizing left right with
  | nil =>
    refine ⟨left, right, rfl, rfl, same, ?_, ?_⟩
    · exact factorization_iff.mp factors left first right second same
    · exact determinationDescent_iff.mp descends left first right second same
  | cons symbol rest ih =>
    obtain ⟨here, later⟩ := List.cons_subset.mp spoken
    obtain ⟨leftNext, leftOwned, rightNext, rightOwned, leftStep, rightStep, agrees⟩ :=
      next_sameQuotient total compatible first second same here
    obtain ⟨leftEnd, rightEnd, leftRun, rightRun, indistinct⟩ := ih leftOwned rightOwned agrees later
    refine ⟨leftEnd, rightEnd, ?_, ?_, indistinct⟩
    · rw [reach, List.foldlM_cons, leftStep]
      exact leftRun
    · rw [reach, List.foldlM_cons, rightStep]
      exact rightRun

/-- The checks pass just when states with equal quotients look the same after every word. -/
theorem valid_iff_agreesForever (total : presentation.IsTotal) :
    (presentation.factorization = true ∧ presentation.continuationCompatible = true ∧
        presentation.determinationDescent = true) ↔
      ∀ left ∈ presentation.states, ∀ right ∈ presentation.states, presentation.SameQuotient left right →
        presentation.AgreesForever left right := by
  constructor
  · intro ⟨factors, compatible, descends⟩ left first right second same
    exact agreesForever_of_valid total factors compatible descends first second same
  · intro agrees
    have now : ∀ left ∈ presentation.states, ∀ right ∈ presentation.states, presentation.SameQuotient left right →
        presentation.Indistinguishable left right := by
      intro left first right second same
      obtain ⟨leftEnd, rightEnd, leftRun, rightRun, indistinct⟩ :=
        agrees left first right second same [] (List.nil_subset _)
      cases leftRun
      cases rightRun
      exact indistinct
    refine ⟨factorization_iff.mpr ?_, continuationCompatible_iff.mpr ?_, determinationDescent_iff.mpr ?_⟩
    · exact fun left first right second same => (now left first right second same).2.1
    · intro left first right second same symbol spoken
      obtain ⟨leftEnd, rightEnd, leftRun, rightRun, indistinct⟩ :=
        agrees left first right second same [symbol] (by simpa using spoken)
      have single : ∀ state, presentation.reach state [symbol] = presentation.next state symbol := by
        intro state
        simp [reach]
      rw [single] at leftRun rightRun
      rw [SameSuccessor, leftRun, rightRun]
      exact indistinct.1
    · exact fun left first right second same => (now left first right second same).2.2

/-- A word of at most one symbol tells the two states apart. -/
def ToldApartShortly (presentation : FiniteTransitionPresentation) (left right : String) : Prop :=
  ∃ word ⊆ presentation.alphabet, word.length ≤ 1 ∧ ∃ leftEnd rightEnd,
    presentation.reach left word = some leftEnd ∧ presentation.reach right word = some rightEnd ∧
      (¬ presentation.SameConsequence leftEnd rightEnd ∨ ¬ presentation.SameQuotient leftEnd rightEnd)

theorem consequenceCounterexample_sound {left right : String}
    (returned : presentation.consequenceCounterexample = some (left, right)) :
    presentation.SameQuotient left right ∧ presentation.ToldApartShortly left right := by
  have held := List.find?_some returned
  rw [decide_eq_true_eq] at held
  exact ⟨held.1, [], List.nil_subset _, Nat.zero_le _, left, right, rfl, rfl, .inl held.2⟩

theorem continuationCounterexample_sound (total : presentation.IsTotal) {left right : String}
    (returned : presentation.continuationCounterexample = some (left, right)) :
    presentation.SameQuotient left right ∧ presentation.ToldApartShortly left right := by
  have held := List.find?_some returned
  obtain ⟨first, second⟩ := mem_of_mem_pairs (List.mem_of_find?_eq_some returned)
  rw [decide_eq_true_eq, List.any_eq_true] at held
  obtain ⟨same, symbol, spoken, differs⟩ := held
  rw [decide_eq_true_eq] at differs
  obtain ⟨leftNext, -, leftStep⟩ := total.next_state first spoken
  obtain ⟨rightNext, -, rightStep⟩ := total.next_state second spoken
  refine ⟨same, [symbol], by simpa using spoken, le_refl _, leftNext, rightNext, ?_, ?_, .inr ?_⟩
  · simpa [reach] using leftStep
  · simpa [reach] using rightStep
  · rw [SameSuccessor, leftStep, rightStep] at differs
    exact differs

end FiniteTransitionPresentation

/-- Validation of a finite presentation speaks about all histories: it is valid just when states with equal
quotients look the same after every word, and a counterexample is told apart by at most one symbol. -/
theorem validateFiniteTransitionQuotient_exact (presentation : FiniteTransitionPresentation)
    (total : presentation.IsTotal) :
    ∃ result, validateFiniteTransitionQuotient presentation = .ok result ∧
      (result.verdict = .valid ↔ ∀ left ∈ presentation.states, ∀ right ∈ presentation.states,
        presentation.SameQuotient left right → presentation.AgreesForever left right) ∧
      ∀ left right, result.counterexample = some (left, right) →
        presentation.SameQuotient left right ∧ presentation.ToldApartShortly left right := by
  rw [← FiniteTransitionPresentation.valid_iff_agreesForever total]
  refine ⟨_, by unfold validateFiniteTransitionQuotient; rw [require_bind_eq_ok]; exact ⟨total, rfl⟩, ?_, ?_⟩
  · dsimp only
    split
    next valid => simpa using valid
    next invalid => simpa using invalid
  · intro left right returned
    dsimp only at returned
    split at returned
    next => exact FiniteTransitionPresentation.continuationCounterexample_sound total returned
    next => exact FiniteTransitionPresentation.consequenceCounterexample_sound returned

namespace Worked

/-- A quotient that answers now yet fails to descend an admitted continuation. -/
def presentAnswerWithoutContinuation : FiniteTransitionPresentation where
  states := ["left", "right", "left-next", "right-next"]
  alphabet := ["continue"]
  initialState := "left"
  transition := [(("left", "continue"), "left-next"), (("right", "continue"), "right-next"),
    (("left-next", "continue"), "left-next"), (("right-next", "continue"), "right-next")]
  quotient := [("left", "present:same"), ("right", "present:same"), ("left-next", "future:left"),
    ("right-next", "future:right")]
  configuration := [("left", "unit"), ("right", "unit"), ("left-next", "unit"), ("right-next", "unit")]
  consequences := [("left", ["present:same"]), ("right", ["present:same"]), ("left-next", ["present:same"]),
    ("right-next", ["present:same"])]

theorem presentAnswer_exact : ∃ result,
    validateFiniteTransitionQuotient presentAnswerWithoutContinuation = .ok result ∧
      (result.verdict = .valid ↔ ∀ left ∈ presentAnswerWithoutContinuation.states,
        ∀ right ∈ presentAnswerWithoutContinuation.states,
          presentAnswerWithoutContinuation.SameQuotient left right →
            presentAnswerWithoutContinuation.AgreesForever left right) ∧
      ∀ left right, result.counterexample = some (left, right) →
        presentAnswerWithoutContinuation.SameQuotient left right ∧
          presentAnswerWithoutContinuation.ToldApartShortly left right :=
  validateFiniteTransitionQuotient_exact presentAnswerWithoutContinuation (by decide +kernel)

example : (validateFiniteTransitionQuotient presentAnswerWithoutContinuation).toOption.bind
    ExactFixtureResult.counterexample = some ("left", "right") := by decide +kernel

end Worked

end RatchetingInquiry
