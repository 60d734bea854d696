import Mathlib.Algebra.BigOperators.Group.List.Basic
import Mathlib.Data.List.Forall2

/-! The rows of a product of columns, the last column varying fastest. -/

namespace RatchetingInquiry

section
variable {α : Type}

/-- `itertools.product`: all rows with one value of each column, in lexicographic order of positions. -/
def cartesian : List (List α) → List (List α)
  | [] => [[]]
  | column :: rest => column.flatMap (fun value => (cartesian rest).map (fun row => value :: row))

theorem mem_cartesian {columns : List (List α)} {row : List α} :
    row ∈ cartesian columns ↔ List.Forall₂ (fun value column => value ∈ column) row columns := by
  induction columns generalizing row with
  | nil => simp [cartesian]
  | cons column rest ih =>
    simp only [cartesian, List.mem_flatMap, List.mem_map]
    rw [List.forall₂_cons_right_iff]
    constructor
    · intro ⟨value, member, tail, listed, same⟩
      exact ⟨value, tail, member, ih.mp listed, same.symm⟩
    · intro ⟨value, tail, member, chosen, same⟩
      exact ⟨value, member, tail, ih.mpr chosen, same.symm⟩

theorem length_cartesian (columns : List (List α)) : (cartesian columns).length = (columns.map List.length).prod := by
  induction columns with
  | nil => rfl
  | cons column rest ih =>
    rw [List.map_cons, List.prod_cons, ← ih, cartesian, List.length_flatMap]
    simp

end

end RatchetingInquiry
