import Mathlib.Data.List.Forall2
import Mathlib.Data.List.Sort
import Mathlib.Data.List.Nodup
import Mathlib.Data.String.Basic

/-! Guards over `Except`: a raise under a condition, the lookup of a record that has to be there,
and the inversion rules by which a successful computation is taken apart. -/

namespace RatchetingInquiry

section
variable {ε α β : Type}

/-- Raise `failure` unless `p` holds. -/
def require (p : Prop) [Decidable p] (failure : ε) : Except ε Unit :=
  if p then .ok () else .error failure

/-- The value of a lookup, or `failure` when nothing was found. -/
def found (lookup : Option α) (failure : ε) : Except ε α :=
  match lookup with
  | some value => .ok value
  | none => .error failure

@[simp] theorem require_eq_ok {p : Prop} [Decidable p] {failure : ε} {u : Unit} :
    require p failure = .ok u ↔ p := by
  unfold require
  split
  next holds => simp [holds]
  next fails => simp [fails]

@[simp] theorem require_bind_eq_ok {p : Prop} [Decidable p] {failure : ε} {next : Unit → Except ε α}
    {result : α} : (require p failure >>= next) = .ok result ↔ p ∧ next () = .ok result := by
  unfold require
  split
  next holds => simp [holds, bind, Except.bind]
  next fails => simp [fails, bind, Except.bind]

@[simp] theorem found_eq_ok {lookup : Option α} {failure : ε} {value : α} :
    found lookup failure = .ok value ↔ lookup = some value := by
  cases lookup <;> simp [found]

theorem bind_eq_ok {first : Except ε α} {next : α → Except ε β} {result : β} :
    (first >>= next) = .ok result ↔ ∃ value, first = .ok value ∧ next value = .ok result := by
  cases first <;> simp [bind, Except.bind]

theorem unit_bind_eq_ok {first : Except ε Unit} {next : Unit → Except ε α} {result : α} :
    (first >>= next) = .ok result ↔ first = .ok () ∧ next () = .ok result := by
  rw [bind_eq_ok]
  constructor
  · rintro ⟨⟨⟩, done, rest⟩
    exact ⟨done, rest⟩
  · rintro ⟨done, rest⟩
    exact ⟨(), done, rest⟩

@[simp] theorem found_bind_eq_ok {lookup : Option α} {failure : ε} {next : α → Except ε β} {result : β} :
    (found lookup failure >>= next) = .ok result ↔ ∃ value, lookup = some value ∧ next value = .ok result := by
  rw [bind_eq_ok]
  simp

/-- A loop of checks succeeds when every check does. -/
@[simp] theorem forM_eq_ok {items : List α} {check : α → Except ε Unit} {u : Unit} :
    items.forM check = .ok u ↔ ∀ item ∈ items, check item = .ok () := by
  induction items with
  | nil => simp [pure, Except.pure]
  | cons item rest ih =>
    have unrolled : (item :: rest).forM check = (check item >>= fun _ => rest.forM check) := rfl
    rw [unrolled, bind_eq_ok, List.forall_mem_cons]
    constructor
    · rintro ⟨⟨⟩, first, later⟩
      exact ⟨first, ih.mp later⟩
    · rintro ⟨first, later⟩
      exact ⟨(), first, ih.mpr later⟩

@[simp] theorem forM_bind_eq_ok {items : List α} {check : α → Except ε Unit} {next : Unit → Except ε β} {result : β} :
    (items.forM check >>= next) = .ok result ↔
      (∀ item ∈ items, check item = .ok ()) ∧ next () = .ok result := by
  rw [bind_eq_ok]
  constructor
  · rintro ⟨⟨⟩, checked, done⟩
    exact ⟨forM_eq_ok.mp checked, done⟩
  · rintro ⟨checked, done⟩
    exact ⟨(), forM_eq_ok.mpr checked, done⟩

/-- A traversal succeeds with what its steps return, one result for each item. -/
theorem mapM_eq_ok {items : List α} {step : α → Except ε β} {results : List β} :
    items.mapM step = .ok results ↔ List.Forall₂ (fun item result => step item = .ok result) items results := by
  induction items generalizing results with
  | nil =>
    simp only [List.mapM_nil, pure, Except.pure, Except.ok.injEq, List.forall₂_nil_left_iff]
    exact eq_comm
  | cons item rest ih =>
    simp only [List.mapM_cons, bind_eq_ok, List.forall₂_cons_left_iff, pure, Except.pure, Except.ok.injEq]
    constructor
    · intro traversed
      obtain ⟨first, stepped, others, later, same⟩ := traversed
      exact ⟨first, others, stepped, ih.mp later, same.symm⟩
    · intro traversed
      obtain ⟨first, others, stepped, later, same⟩ := traversed
      exact ⟨first, stepped, others, ih.mpr later, same.symm⟩

/-- A traversal succeeds when every step does. -/
theorem mapM_succeeds {items : List α} {step : α → Except ε β}
    (each : ∀ item ∈ items, ∃ result, step item = .ok result) : ∃ results, items.mapM step = .ok results := by
  induction items with
  | nil => exact ⟨[], rfl⟩
  | cons item rest ih =>
    obtain ⟨result, first⟩ := each item List.mem_cons_self
    obtain ⟨results, later⟩ := ih fun other member => each other (List.mem_cons_of_mem _ member)
    refine ⟨result :: results, ?_⟩
    rw [List.mapM_cons, first, later]
    rfl

@[simp] theorem mapM_bind_eq_ok {γ : Type} {items : List α} {step : α → Except ε β} {next : List β → Except ε γ}
    {result : γ} : (items.mapM step >>= next) = .ok result ↔
      ∃ results, List.Forall₂ (fun item result => step item = .ok result) items results ∧ next results = .ok result := by
  rw [bind_eq_ok]
  simp only [mapM_eq_ok]

/-- A traversal of the kept items succeeds with what a partial function says of all of them. -/
theorem mapM_filter_eq_ok {items : List α} {kept : α → Bool} {step : α → Except ε β} {value : α → Option β}
    (keeps : ∀ item ∈ items, kept item = true → ∃ result, step item = .ok result ∧ value item = some result)
    (drops : ∀ item ∈ items, kept item = false → value item = none) :
    (items.filter kept).mapM step = .ok (items.filterMap value) := by
  induction items with
  | nil => rfl
  | cons item rest ih =>
    have later := ih (fun other member => keeps other (List.mem_cons_of_mem _ member))
      (fun other member => drops other (List.mem_cons_of_mem _ member))
    cases decided : kept item with
    | true =>
      obtain ⟨result, stepped, valued⟩ := keeps item List.mem_cons_self decided
      rw [List.filter_cons_of_pos decided, List.filterMap_cons_some valued, List.mapM_cons, stepped, later]
      rfl
    | false =>
      rw [List.filter_cons_of_neg (by simp [decided]), List.filterMap_cons_none (drops item List.mem_cons_self decided)]
      exact later

/-- Whatever the computation returns has the property. -/
def Returns (outcome : Except ε α) (P : α → Prop) : Prop := ∀ value, outcome = .ok value → P value

theorem returns_pure {P : α → Prop} {value : α} (holds : P value) : Returns (pure value : Except ε α) P := by
  intro returned same
  simp only [pure, Except.pure, Except.ok.injEq] at same
  exact same ▸ holds

theorem returns_error {P : α → Prop} {failure : ε} : Returns (.error failure : Except ε α) P := by
  intro returned same
  simp at same

theorem returns_bind {P : β → Prop} {first : Except ε α} {next : α → Except ε β}
    (later : ∀ value, Returns (next value) P) : Returns (first >>= next) P := by
  intro returned same
  obtain ⟨value, -, rest⟩ := bind_eq_ok.mp same
  exact later value returned rest

/-- What the first computation returns may be used for the second. -/
theorem returns_bind_of {P : β → Prop} {Q : α → Prop} {first : Except ε α} {next : α → Except ε β}
    (earlier : Returns first Q) (later : ∀ value, Q value → Returns (next value) P) : Returns (first >>= next) P := by
  intro returned same
  obtain ⟨value, done, rest⟩ := bind_eq_ok.mp same
  exact later value (earlier value done) returned rest

theorem returns_map_some {P : α → Prop} {outcome : Except ε α} (returned : Returns outcome P) :
    Returns (outcome.map some) (fun result => ∀ value ∈ result, P value) := by
  intro result mapped value member
  cases outcome with
  | error failure => simp [Except.map] at mapped
  | ok inner =>
    simp only [Except.map, Except.ok.injEq] at mapped
    rw [← mapped, Option.mem_some_iff] at member
    exact member ▸ returned inner rfl

end

end RatchetingInquiry
