import RatchetingInquiry.Library.Guard

/-! What the failures of a computation over `Except` can be: a property of failures is followed through guards,
lookups, sequences and loops. -/

namespace RatchetingInquiry

section
variable {ε α β : Type} {P : ε → Prop}

/-- Whatever the computation fails with has the property. -/
def FailsWith (P : ε → Prop) (outcome : Except ε α) : Prop := ∀ failure, outcome = .error failure → P failure

@[simp] theorem failsWith_ok (value : α) : FailsWith P (.ok value : Except ε α) := by
  intro failure failed
  simp at failed

@[simp] theorem failsWith_pure (value : α) : FailsWith P (pure value : Except ε α) := failsWith_ok value

@[simp] theorem failsWith_error {failure : ε} : FailsWith P (.error failure : Except ε α) ↔ P failure := by
  constructor
  · exact fun fails => fails failure rfl
  · intro holds other same
    cases same
    exact holds

@[simp] theorem failsWith_throw {failure : ε} : FailsWith P (throw failure : Except ε α) ↔ P failure :=
  failsWith_error

/-- A sequence fails where its first part fails, or where the rest fails after it. -/
@[simp] theorem failsWith_bind {first : Except ε α} {next : α → Except ε β} :
    FailsWith P (first >>= next) ↔ FailsWith P first ∧ ∀ value, first = .ok value → FailsWith P (next value) := by
  cases first with
  | error failure => simp [bind, Except.bind]
  | ok value => simp [bind, Except.bind]

@[simp] theorem failsWith_map {outcome : Except ε α} {wrap : α → β} :
    FailsWith P (outcome.map wrap) ↔ FailsWith P outcome := by
  cases outcome with
  | error failure => simp [Except.map]
  | ok value => simp [Except.map]

@[simp] theorem failsWith_require {p : Prop} [Decidable p] {failure : ε} :
    FailsWith P (require p failure) ↔ (¬ p → P failure) := by
  unfold require
  split
  next holds => simp [holds]
  next fails => simp [fails]

@[simp] theorem failsWith_found {lookup : Option α} {failure : ε} :
    FailsWith P (found lookup failure) ↔ (lookup = none → P failure) := by
  cases lookup <;> simp [found]

/-- A guard in front fails as it says, and lets the rest fail. -/
theorem failsWith_guard {p : Prop} [Decidable p] {failure : ε} {next : Unit → Except ε β} (guard : P failure)
    (rest : FailsWith P (next ())) : FailsWith P (require p failure >>= next) :=
  failsWith_bind.mpr ⟨failsWith_require.mpr fun _ => guard, fun _ _ => rest⟩

theorem failsWith_lookup {lookup : Option α} {failure : ε} {next : α → Except ε β} (absent : P failure)
    (rest : ∀ value, lookup = some value → FailsWith P (next value)) : FailsWith P (found lookup failure >>= next) := by
  refine failsWith_bind.mpr ⟨failsWith_found.mpr fun _ => absent, fun value hit => rest value ?_⟩
  simpa using hit

/-- A loop of checks fails as one of its checks does. -/
theorem failsWith_forM {items : List α} {check : α → Except ε Unit}
    (each : ∀ item ∈ items, FailsWith P (check item)) : FailsWith P (items.forM check) := by
  induction items with
  | nil => exact failsWith_pure ()
  | cons item rest ih =>
    have unrolled : (item :: rest).forM check = (check item >>= fun _ => rest.forM check) := rfl
    rw [unrolled, failsWith_bind]
    refine ⟨each item List.mem_cons_self, fun _ _ => ih fun other member => ?_⟩
    exact each other (List.mem_cons_of_mem _ member)

theorem failsWith_foldlM {items : List α} {step : β → α → Except ε β} {start : β}
    (each : ∀ state, ∀ item ∈ items, FailsWith P (step state item)) : FailsWith P (items.foldlM step start) := by
  induction items generalizing start with
  | nil => exact failsWith_pure start
  | cons item rest ih =>
    rw [List.foldlM_cons, failsWith_bind]
    refine ⟨each start item List.mem_cons_self, fun next _ => ih fun state other member => ?_⟩
    exact each state other (List.mem_cons_of_mem _ member)

end

end RatchetingInquiry
