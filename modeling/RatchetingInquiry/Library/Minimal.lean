import Mathlib.Data.List.Induction
import Mathlib.Data.List.Nodup
import Mathlib.Data.List.Perm.Basic

/-! Greedy selection of minimal items. A pass over a list keeps an item when none of the items kept so
far is below it, and sets it aside otherwise. Over a preorder the kept items are those that nothing
earlier in the list is below, and every item has a kept one below it. -/

namespace RatchetingInquiry

section
variable {α : Type} (below : α → α → Bool)

/-- Keep the item or set it aside. -/
def keepMinimal (placed : List α × List α) (item : α) : List α × List α :=
  if placed.1.any (fun kept => below kept item) then (placed.1, placed.2 ++ [item])
  else (placed.1 ++ [item], placed.2)

/-- The kept items and those set aside, each in the order of the list. -/
def minimalSplit (items : List α) : List α × List α := items.foldl (keepMinimal below) ([], [])

theorem minimalSplit_snoc (items : List α) (item : α) :
    minimalSplit below (items ++ [item]) = keepMinimal below (minimalSplit below items) item := by
  simp [minimalSplit]

theorem minimalSplit_sublist (items : List α) : (minimalSplit below items).1.Sublist items := by
  induction items using List.reverseRecOn with
  | nil => simp [minimalSplit]
  | append_singleton items item ih =>
    rw [minimalSplit_snoc]
    unfold keepMinimal
    split
    next => exact ih.trans (List.sublist_append_left items [item])
    next => exact ih.append_right [item]

/-- No kept item is below a later kept one. -/
theorem minimalSplit_pairwise (items : List α) :
    (minimalSplit below items).1.Pairwise (fun earlier later => below earlier later = false) := by
  induction items using List.reverseRecOn with
  | nil => simp [minimalSplit]
  | append_singleton items item ih =>
    rw [minimalSplit_snoc]
    unfold keepMinimal
    split
    next => exact ih
    next uncovered =>
      refine List.pairwise_append.mpr ⟨ih, List.pairwise_singleton _ _, ?_⟩
      intro kept member later last
      rw [List.mem_singleton.mp last]
      rw [Bool.not_eq_true, List.any_eq_false] at uncovered
      simpa using uncovered kept member

/-- What is set aside has a kept item below it. -/
theorem minimalSplit_aside {items : List α} {item : α} (aside : item ∈ (minimalSplit below items).2) :
    ∃ kept ∈ (minimalSplit below items).1, below kept item = true := by
  induction items using List.reverseRecOn with
  | nil => simp [minimalSplit] at aside
  | append_singleton items last ih =>
    rw [minimalSplit_snoc] at aside ⊢
    unfold keepMinimal at aside ⊢
    split
    next covered =>
      rw [if_pos covered] at aside
      rcases List.mem_append.mp aside with before | here
      · exact ih before
      · rw [List.mem_singleton.mp here]
        simpa using covered
    next uncovered =>
      rw [if_neg uncovered] at aside
      obtain ⟨kept, member, holds⟩ := ih aside
      exact ⟨kept, List.mem_append_left _ member, holds⟩

theorem minimalSplit_perm (items : List α) :
    ((minimalSplit below items).1 ++ (minimalSplit below items).2).Perm items := by
  induction items using List.reverseRecOn with
  | nil => simp [minimalSplit]
  | append_singleton items item ih =>
    rw [minimalSplit_snoc]
    unfold keepMinimal
    split
    next =>
      rw [← List.append_assoc]
      exact ih.append_right _
    next =>
      refine List.Perm.trans ?_ (ih.append_right [item])
      simp only [List.append_assoc]
      exact List.Perm.append_left _ List.perm_append_comm

variable {below}

/-- Every item has a kept one below it. -/
theorem minimalSplit_covers (refl : ∀ item, below item item = true) {items : List α} {item : α}
    (member : item ∈ items) : ∃ kept ∈ (minimalSplit below items).1, below kept item = true := by
  rcases List.mem_append.mp ((minimalSplit_perm below items).mem_iff.mpr member) with kept | aside
  · exact ⟨item, kept, refl item⟩
  · exact minimalSplit_aside below aside

/-- An item is kept exactly when no item that comes before it in the list is below it. -/
theorem mem_minimalSplit (refl : ∀ item, below item item = true)
    (trans : ∀ {a b c}, below a b = true → below b c = true → below a c = true)
    (before : α → α → Prop) (irrefl : ∀ item, ¬ before item item)
    (asymm : ∀ {a b}, before a b → ¬ before b a) {items : List α} (ordered : items.Pairwise before) {item : α} :
    item ∈ (minimalSplit below items).1 ↔
      item ∈ items ∧ ∀ other ∈ items, before other item → below other item = false := by
  induction items using List.reverseRecOn with
  | nil => simp [minimalSplit]
  | append_singleton items last ih =>
    obtain ⟨orderedItems, -, lastAfter⟩ := List.pairwise_append.mp ordered
    have lastAfter : ∀ x ∈ items, before x last := fun x member => lastAfter x member last (by simp)
    have settled := ih orderedItems
    rw [minimalSplit_snoc]
    -- an earlier item is never after the last one, so the last one says nothing about it
    have earlier : ∀ x ∈ items, (∀ other ∈ items ++ [last], before other x → below other x = false) ↔
        ∀ other ∈ items, before other x → below other x = false := by
      intro x member
      constructor
      · intro holds other owned
        exact holds other (List.mem_append_left _ owned)
      · intro holds other owned precedes
        rcases List.mem_append.mp owned with inside | isLast
        · exact holds other inside precedes
        · rw [List.mem_singleton.mp isLast] at precedes
          exact absurd precedes (asymm (lastAfter x member))
    have lastFresh : last ∉ items := fun member => irrefl last (lastAfter last member)
    unfold keepMinimal
    split
    next covered =>
      obtain ⟨kept, keptMember, holds⟩ := List.any_eq_true.mp covered
      rw [settled]
      constructor
      · intro ⟨member, minimal⟩
        exact ⟨List.mem_append_left _ member, (earlier item member).mpr minimal⟩
      · intro ⟨member, minimal⟩
        rcases List.mem_append.mp member with inside | isLast
        · exact ⟨inside, (earlier item inside).mp minimal⟩
        · rw [List.mem_singleton.mp isLast] at minimal
          have keptOwned := (minimalSplit_sublist below items).subset keptMember
          rw [minimal kept (List.mem_append_left _ keptOwned) (lastAfter kept keptOwned)] at holds
          simp at holds
    next uncovered =>
      rw [Bool.not_eq_true, List.any_eq_false] at uncovered
      constructor
      · intro kept
        rcases List.mem_append.mp kept with inside | isLast
        · obtain ⟨member, minimal⟩ := settled.mp inside
          exact ⟨List.mem_append_left _ member, (earlier item member).mpr minimal⟩
        · rw [List.mem_singleton.mp isLast]
          refine ⟨by simp, ?_⟩
          intro other owned precedes
          rcases List.mem_append.mp owned with inside | same
          · by_contra holds
            obtain ⟨cover, coverKept, covers⟩ := minimalSplit_covers refl inside
            exact uncovered cover coverKept (trans covers (by simpa using holds))
          · rw [List.mem_singleton.mp same] at precedes
            exact absurd precedes (irrefl last)
      · intro ⟨member, minimal⟩
        rcases List.mem_append.mp member with inside | isLast
        · exact List.mem_append_left _ (settled.mpr ⟨inside, (earlier item inside).mp minimal⟩)
        · exact List.mem_append_right _ isLast

end

end RatchetingInquiry
