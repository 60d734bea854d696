import Mathlib.Logic.Relation
import RatchetingInquiry.Library.Guard

/-! Programs over a durable world that may crash between any two of their operations. A program is specified by
the steps that its operations make in the world, which hold wherever it stops, and by what it returns. -/

namespace RatchetingInquiry

/-- Why a program stopped before it returned. -/
inductive Stop (ε : Type) where
  | crashed
  | raised (failure : ε)
deriving DecidableEq

/-- A program is given the number of operations that it may make before it crashes and the world that it finds, and
leaves the world as it is when the program ends. -/
def Program (σ ε α : Type) : Type := Nat → σ → Except (Stop ε) α × Nat × σ

namespace Program

variable {σ ε α β : Type}

/-- Go on with the result of a program, in the world that it left. -/
def andThen (first : Program σ ε α) (next : α → Program σ ε β) : Program σ ε β := fun left world =>
  match first left world with
  | (.ok value, rest, later) => next value rest later
  | (.error stop, rest, later) => (.error stop, rest, later)

instance : Monad (Program σ ε) where
  pure value := fun left world => (.ok value, left, world)
  bind := andThen

def raise (failure : ε) : Program σ ε α := fun left world => (.error (.raised failure), left, world)

/-- A computation outside the world. -/
def lift (outcome : Except ε α) : Program σ ε α := fun left world =>
  match outcome with
  | .ok value => (.ok value, left, world)
  | .error failure => (.error (.raised failure), left, world)

/-- One operation on the world, which may depend on when it is made. The program crashes before it when no operation
is left. -/
def operate (act : Nat → σ → Except ε α × σ) : Program σ ε α := fun left world =>
  match left with
  | 0 => (.error .crashed, 0, world)
  | rest + 1 =>
    match act rest world with
    | (.ok value, later) => (.ok value, rest, later)
    | (.error failure, later) => (.error (.raised failure), rest, later)

/-- The world after the program, wherever it stopped. -/
def worldAfter (program : Program σ ε α) (left : Nat) (world : σ) : σ := (program left world).2.2

/-- The program moves the world by steps only, wherever it stops, and what it returns meets the postcondition in the
world that it leaves. -/
def Traces (step : σ → σ → Prop) (program : Program σ ε α) (world : σ) (post : α → σ → Prop) : Prop :=
  ∀ left, Relation.ReflTransGen step world (program.worldAfter left world) ∧
    ∀ value, (program left world).1 = .ok value → post value (program.worldAfter left world)

section
variable {step : σ → σ → Prop} {world : σ} {post : α → σ → Prop}

theorem traces_pure {value : α} (holds : post value world) :
    Traces step (pure value : Program σ ε α) world post := by
  intro left
  refine ⟨.refl, ?_⟩
  intro returned same
  obtain rfl : value = returned := Except.ok.inj same
  exact holds

theorem traces_raise {failure : ε} : Traces step (raise failure : Program σ ε α) world post := by
  intro left
  refine ⟨.refl, ?_⟩
  intro returned same
  cases same

/-- An operation is specified by the step that it makes, whenever it is made. -/
theorem traces_operate {act : Nat → σ → Except ε α × σ}
    (steps : ∀ rest, (act rest world).2 = world ∨ step world (act rest world).2)
    (holds : ∀ rest value, (act rest world).1 = .ok value → post value (act rest world).2) :
    Traces step (operate act) world post := by
  intro left
  cases left with
  | zero =>
    refine ⟨.refl, ?_⟩
    intro returned same
    cases same
  | succ rest =>
    have moves := steps rest
    have ends := holds rest
    rcases acted : act rest world with ⟨outcome, later⟩
    rw [acted] at moves ends
    have reached : Relation.ReflTransGen step world later := by
      rcases moves with unmoved | moved
      · exact unmoved ▸ .refl
      · exact .single moved
    unfold worldAfter
    cases outcome with
    | error failure =>
      have ran : operate act (rest + 1) world = (.error (.raised failure), rest, later) := by simp only [operate, acted]
      rw [ran]
      refine ⟨reached, ?_⟩
      intro returned same
      cases same
    | ok value =>
      have ran : operate act (rest + 1) world = (.ok value, rest, later) := by simp only [operate, acted]
      rw [ran]
      refine ⟨reached, ?_⟩
      intro returned same
      obtain rfl : value = returned := Except.ok.inj same
      exact ends value rfl

theorem traces_bind {first : Program σ ε α} {next : α → Program σ ε β} {middle : α → σ → Prop} {last : β → σ → Prop}
    (earlier : Traces step first world middle)
    (later : ∀ value reached, Relation.ReflTransGen step world reached → middle value reached →
      Traces step (next value) reached last) : Traces step (first >>= next) world last := by
  intro left
  obtain ⟨moves, holds⟩ := earlier left
  unfold worldAfter at moves holds ⊢
  simp only [bind, andThen]
  rcases ran : first left world with ⟨stop | value, rest, reached⟩
  · rw [ran] at moves
    refine ⟨moves, ?_⟩
    intro returned same
    cases same
  · rw [ran] at moves holds
    obtain ⟨goesOn, ends⟩ := later value reached moves (holds value rfl) rest
    exact ⟨moves.trans goesOn, ends⟩

/-- A computation outside the world, and what follows it. -/
theorem traces_lift_bind {outcome : Except ε α} {next : α → Program σ ε β} {last : β → σ → Prop}
    (later : ∀ value, outcome = .ok value → Traces step (next value) world last) :
    Traces step (lift outcome >>= next) world last := by
  cases outcome with
  | ok value => exact later value rfl
  | error failure =>
    intro left
    refine ⟨.refl, ?_⟩
    intro returned same
    cases same

theorem Traces.weaken {program : Program σ ε α} {wider : α → σ → Prop} (traces : Traces step program world post)
    (implies : ∀ value reached, Relation.ReflTransGen step world reached → post value reached → wider value reached) :
    Traces step program world wider := by
  intro left
  obtain ⟨moves, holds⟩ := traces left
  exact ⟨moves, fun value same => implies value _ moves (holds value same)⟩

end

end Program

end RatchetingInquiry
