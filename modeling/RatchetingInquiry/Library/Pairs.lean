import Mathlib.Data.List.Perm.Basic
import Mathlib.Data.List.Pairwise

/-! The unordered pairs of a list, each taken once by position. A check over these pairs says something about
all pairs once it is reflexive and symmetric. -/

namespace RatchetingInquiry

section
variable {α : Type}

/-- The pairs of an item with a later one, in the order of the first and then of the second. -/
def pairs : List α → List (α × α)
  | [] => []
  | left :: rest => rest.map (fun right => (left, right)) ++ pairs rest

theorem forall_pairs_iff {P : α → α → Prop} {items : List α} :
    (∀ pair ∈ pairs items, P pair.1 pair.2) ↔ items.Pairwise P := by
  induction items with
  | nil => simp [pairs]
  | cons left rest ih =>
    rw [pairs, List.pairwise_cons, ← ih]
    simp only [List.mem_append, List.mem_map]
    constructor
    · intro holds
      refine ⟨fun right owned => holds (left, right) (.inl ⟨right, owned, rfl⟩), ?_⟩
      exact fun pair owned => holds pair (.inr owned)
    · intro ⟨first, later⟩ pair owned
      rcases owned with ⟨right, member, same⟩ | deeper
      · rw [← same]
        exact first right member
      · exact later pair deeper

theorem mem_of_mem_pairs {items : List α} {pair : α × α} (owned : pair ∈ pairs items) :
    pair.1 ∈ items ∧ pair.2 ∈ items := by
  induction items with
  | nil => simp [pairs] at owned
  | cons left rest ih =>
    rw [pairs, List.mem_append, List.mem_map] at owned
    rcases owned with ⟨right, member, same⟩ | deeper
    · rw [← same]
      exact ⟨List.mem_cons_self, List.mem_cons_of_mem _ member⟩
    · obtain ⟨first, second⟩ := ih deeper
      exact ⟨List.mem_cons_of_mem _ first, List.mem_cons_of_mem _ second⟩

/-- A reflexive and symmetric check of the unordered pairs checks every two items. -/
theorem forall_pairs_iff_forall {P : α → α → Prop} {items : List α} (reflexive : ∀ item ∈ items, P item item)
    (symmetric : ∀ left right, P left right → P right left) :
    (∀ pair ∈ pairs items, P pair.1 pair.2) ↔ ∀ left ∈ items, ∀ right ∈ items, P left right := by
  constructor
  · intro holds
    have both : Std.Symm P := ⟨symmetric⟩
    have each := List.Pairwise.forall_of_forall reflexive (forall_pairs_iff.mp holds)
    exact fun left first right second => each first second
  · intro holds pair owned
    obtain ⟨first, second⟩ := mem_of_mem_pairs owned
    exact holds pair.1 first pair.2 second

end

end RatchetingInquiry
