import Mathlib.Data.List.Forall2
import Mathlib.Data.List.Lex
import Mathlib.Data.Prod.Lex
import Mathlib.Order.Compare
import Mathlib.Order.WellFounded
import Mathlib.Order.Preorder.Finite

/-! Pareto comparison. A vector is no worse than another when no coordinate is above the other's; the comparisons
along the axes decide that, and in their order the lexicographic one. Of finitely many items under a strict order,
each is undominated or below an undominated one. -/

namespace RatchetingInquiry

section
variable {κ : Type} [LinearOrder κ] {left middle right : List κ}

/-- No coordinate of the first vector is above that of the second. -/
abbrev NoWorse (left right : List κ) : Prop := List.Forall₂ (· ≤ ·) left right

/-- No coordinate is above, and one is below. -/
def StrictlyBetter (left right : List κ) : Prop := NoWorse left right ∧ left ≠ right

theorem NoWorse.refl (vector : List κ) : NoWorse vector vector := List.forall₂_refl vector

theorem NoWorse.trans (first : NoWorse left middle) (second : NoWorse middle right) : NoWorse left right := by
  induction first generalizing right with
  | nil => exact second
  | cons below _ ih =>
    cases second with
    | cons above rest => exact .cons (below.trans above) (ih rest)

theorem NoWorse.antisymm (first : NoWorse left right) (second : NoWorse right left) : left = right := by
  induction first with
  | nil => rfl
  | cons below _ ih =>
    cases second with
    | cons above rest => rw [le_antisymm below above, ih rest]

theorem StrictlyBetter.irrefl (vector : List κ) : ¬ StrictlyBetter vector vector := fun better => better.2 rfl

theorem StrictlyBetter.trans (first : StrictlyBetter left middle) (second : StrictlyBetter middle right) :
    StrictlyBetter left right := by
  refine ⟨first.1.trans second.1, ?_⟩
  intro same
  subst same
  exact first.2 (first.1.antisymm second.1)

theorem NoWorse.eq_or_strictlyBetter (noWorse : NoWorse left right) : left = right ∨ StrictlyBetter left right := by
  by_cases same : left = right
  · exact .inl same
  · exact .inr ⟨noWorse, same⟩

/-- The comparisons along the axes, none of them upwards. -/
theorem zipWith_compare_ne_gt (sameAxes : left.length = right.length) :
    (List.zipWith compare left right).all (fun direction => direction ≠ .gt) = true ↔ NoWorse left right := by
  induction left generalizing right with
  | nil =>
    obtain rfl := List.length_eq_zero_iff.mp sameAxes.symm
    simp
  | cons first rest ih =>
    cases right with
    | nil => simp at sameAxes
    | cons other others =>
      have tails := @ih others (by simpa using sameAxes)
      have heads : compare first other ≠ .gt ↔ first ≤ other := compare_le_iff_le
      unfold NoWorse at tails ⊢
      rw [List.zipWith_cons_cons, List.all_cons, Bool.and_eq_true, tails, List.forall₂_cons, decide_eq_true_eq, heads]

theorem zipWith_compare_ne_lt (sameAxes : left.length = right.length) :
    (List.zipWith compare left right).all (fun direction => direction ≠ .lt) = true ↔ NoWorse right left := by
  induction left generalizing right with
  | nil =>
    obtain rfl := List.length_eq_zero_iff.mp sameAxes.symm
    simp
  | cons first rest ih =>
    cases right with
    | nil => simp at sameAxes
    | cons other others =>
      have tails := @ih others (by simpa using sameAxes)
      have heads : compare first other ≠ .lt ↔ other ≤ first := compare_ge_iff_ge
      unfold NoWorse at tails ⊢
      rw [List.zipWith_cons_cons, List.all_cons, Bool.and_eq_true, tails, List.forall₂_cons, decide_eq_true_eq, heads]

/-- The first axis on which two vectors differ decides their lexicographic order. -/
theorem foldr_then_eq_lt (sameAxes : left.length = right.length) :
    (List.zipWith compare left right).foldr Ordering.then .eq = .lt ↔ left < right := by
  induction left generalizing right with
  | nil =>
    obtain rfl := List.length_eq_zero_iff.mp sameAxes.symm
    simp
  | cons first rest ih =>
    cases right with
    | nil => simp at sameAxes
    | cons other others =>
      have tails := @ih others (by simpa using sameAxes)
      rw [List.zipWith_cons_cons, List.foldr_cons, Ordering.then_eq_lt, tails, List.cons_lt_cons_iff, compare_lt_iff_lt,
        compare_eq_iff_eq]

theorem foldr_then_eq_eq (sameAxes : left.length = right.length) :
    (List.zipWith compare left right).foldr Ordering.then .eq = .eq ↔ left = right := by
  induction left generalizing right with
  | nil =>
    obtain rfl := List.length_eq_zero_iff.mp sameAxes.symm
    simp
  | cons first rest ih =>
    cases right with
    | nil => simp at sameAxes
    | cons other others =>
      have tails := @ih others (by simpa using sameAxes)
      rw [List.zipWith_cons_cons, List.foldr_cons, Ordering.then_eq_eq, tails, List.cons.injEq, compare_eq_iff_eq]

end

section
variable {α : Type} {better : α → α → Prop}

/-- Of finitely many items, each is undominated or below an undominated one. -/
theorem exists_undominated (irrefl : ∀ item, ¬ better item item)
    (trans : ∀ {first second third}, better first second → better second third → better first third)
    {items : List α} {item : α} (member : item ∈ items) :
    ∃ best ∈ items, (∀ other ∈ items, ¬ better other best) ∧ (best = item ∨ better best item) := by
  have finite : Finite { x // x ∈ items } := List.finite_toSet items
  have transitive : IsTrans { x // x ∈ items } (fun left right => better left.1 right.1) := ⟨fun _ _ _ => trans⟩
  have irreflexive : Std.Irrefl (fun left right : { x // x ∈ items } => better left.1 right.1) :=
    ⟨fun _ => irrefl _⟩
  have wellFounded := Finite.wellFounded_of_trans_of_irrefl (fun left right : { x // x ∈ items } => better left.1 right.1)
  obtain ⟨⟨best, bestMember⟩, atLeast, least⟩ := wellFounded.has_min { x | x.1 = item ∨ better x.1 item }
    ⟨⟨item, member⟩, .inl rfl⟩
  refine ⟨best, bestMember, ?_, atLeast⟩
  intro other otherMember improves
  have improvesItem : better other item := by
    rcases atLeast with same | below
    · exact same ▸ improves
    · exact trans improves below
  exact least ⟨other, otherMember⟩ (.inr improvesItem) improves

end

end RatchetingInquiry
