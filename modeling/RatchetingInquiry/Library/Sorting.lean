import Mathlib.Data.List.Sort

/-! Sorting forgets the order of its input: permuted lists sort to one list, as far as the order separates
their items. -/

namespace RatchetingInquiry

theorem insertionSort_eq_of_perm {α : Type} (le : α → α → Prop) [DecidableRel le] [Std.Total le] [IsTrans α le]
    {items others : List α} (same : others.Perm items)
    (antisymm : ∀ left ∈ items, ∀ right ∈ items, le left right → le right left → left = right) :
    others.insertionSort le = items.insertionSort le := by
  have othersSorted := List.perm_insertionSort le others
  have itemsSorted := List.perm_insertionSort le items
  have reordered := (othersSorted.trans same).trans itemsSorted.symm
  refine reordered.eq_of_pairwise ?_ (List.pairwise_insertionSort le others) (List.pairwise_insertionSort le items)
  intro left right leftMember rightMember
  exact antisymm left (same.mem_iff.mp (othersSorted.mem_iff.mp leftMember)) right (itemsSorted.mem_iff.mp rightMember)

section
variable {α κ ι : Type} [LinearOrder κ] [LinearOrder ι] (first : α → κ) (second : α → ι)

/-- Any two items are ordered by one key and, where it is equal, by another. -/
theorem lexicographic_total : Std.Total (fun left right : α =>
    first left < first right ∨ (first left = first right ∧ second left ≤ second right)) := by
  constructor
  intro left right
  rcases lt_trichotomy (first left) (first right) with less | equal | more
  · exact .inl (.inl less)
  · rcases le_total (second left) (second right) with below | above
    · exact .inl (.inr ⟨equal, below⟩)
    · exact .inr (.inr ⟨equal.symm, above⟩)
  · exact .inr (.inl more)

theorem lexicographic_trans : IsTrans α (fun left right =>
    first left < first right ∨ (first left = first right ∧ second left ≤ second right)) := by
  constructor
  intro left middle right below above
  rcases below with less | ⟨equal, order⟩
  · rcases above with further | ⟨equalAbove, -⟩
    · exact .inl (less.trans further)
    · exact .inl (equalAbove ▸ less)
  · rcases above with further | ⟨equalAbove, orderAbove⟩
    · exact .inl (equal ▸ further)
    · exact .inr ⟨equal.trans equalAbove, order.trans orderAbove⟩

end

end RatchetingInquiry
