import RatchetingInquiry.Library.Guard

/-! Clients of a shared world. A client is a computation that makes one atomic operation on the world after another,
and each operation says how the client goes on from the world that it found. -/

namespace RatchetingInquiry

/-- What a client still does. -/
inductive Client (σ ε α : Type) where
  | done (outcome : Except ε α)
  | operate (effect : σ → σ) (rest : σ → Client σ ε α)

namespace Client

variable {σ ε α β : Type}

/-- Go on with what the first client returns. -/
def andThen : Client σ ε α → (α → Client σ ε β) → Client σ ε β
  | done (.ok value), next => next value
  | done (.error failure), _ => done (.error failure)
  | operate effect rest, next => operate effect (fun world => (rest world).andThen next)

instance : Monad (Client σ ε) where
  pure value := done (.ok value)
  bind := andThen

/-- A computation outside the world. -/
def lift (outcome : Except ε α) : Client σ ε α := done outcome

/-- An operation that looks at the world and leaves it alone. -/
def observe (look : σ → Except ε α) : Client σ ε α := operate id (fun world => done (look world))

/-- An operation that may change the world. -/
def update (act : σ → Except ε α × σ) : Client σ ε α :=
  operate (fun world => (act world).2) (fun world => done (act world).1)

/-- The client alone with the world: what it ends with, and the world that it leaves. -/
def run : Client σ ε α → σ → Except ε α × σ
  | done outcome, world => (outcome, world)
  | operate effect rest, world => (rest world).run (effect world)

section
variable {world last : σ} {result : α}

@[simp] theorem run_pure {value : α} : (pure value : Client σ ε α).run world = (.ok value, world) := rfl

@[simp] theorem run_lift {outcome : Except ε α} : (lift outcome : Client σ ε α).run world = (outcome, world) := rfl

@[simp] theorem run_observe {look : σ → Except ε α} : (observe look).run world = (look world, world) := rfl

@[simp] theorem run_update {act : σ → Except ε α × σ} : (update act).run world = act world := rfl

theorem run_andThen {first : Client σ ε α} {next : α → Client σ ε β} :
    (first.andThen next).run world = match first.run world with
      | (.ok value, later) => (next value).run later
      | (.error failure, later) => (.error failure, later) := by
  induction first generalizing world with
  | done outcome =>
    cases outcome with
    | ok value => rfl
    | error failure => rfl
  | operate effect rest ih => exact ih world

/-- A client that goes on returns when both of its parts do. -/
@[simp] theorem run_bind_eq_ok {first : Client σ ε α} {next : α → Client σ ε β} {result : β} :
    (first >>= next).run world = (.ok result, last) ↔
      ∃ value later, first.run world = (.ok value, later) ∧ (next value).run later = (.ok result, last) := by
  change (first.andThen next).run world = (.ok result, last) ↔ _
  rw [run_andThen]
  rcases ran : first.run world with ⟨outcome, later⟩
  cases outcome with
  | ok value => simp
  | error failure => simp

end

/-- Whatever the client returns alone has the property. -/
def Yields (client : Client σ ε α) (P : α → Prop) : Prop :=
  ∀ world value last, client.run world = (.ok value, last) → P value

theorem yields_pure {P : α → Prop} {value : α} (holds : P value) : Yields (pure value : Client σ ε α) P := by
  intro world returned last ran
  obtain rfl : value = returned := Except.ok.inj (Prod.mk.inj ran).1
  exact holds

theorem yields_bind {P : β → Prop} {first : Client σ ε α} {next : α → Client σ ε β}
    (later : ∀ value, Yields (next value) P) : Yields (first >>= next) P := by
  intro world returned last ran
  obtain ⟨value, middle, _, rest⟩ := run_bind_eq_ok.mp ran
  exact later value middle returned last rest

end Client

end RatchetingInquiry
