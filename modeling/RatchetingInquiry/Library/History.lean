import Mathlib.Logic.Relation
import RatchetingInquiry.Library.Index

/-! Checks over an append-only history: every record is judged against the records before it. A property
that holds at the end of a run and not at its start came to hold at one step of it. -/

namespace RatchetingInquiry

section
variable {ε α κ : Type}

/-- Judge each record of a list against the records that precede it. -/
def eachAfter (check : List α → α → Except ε Unit) (earlier : List α) : List α → Except ε Unit
  | [] => .ok ()
  | record :: rest => do
    check earlier record
    eachAfter check (earlier ++ [record]) rest

end

/-- Where an item needs that a property fails and brings it about, and the property then lasts, such an item occurs
at most once in a run, and not at all where the property holds before. -/
theorem foldlM_occurs_once {ε σ α : Type} {step : σ → α → Except ε σ} {occurs : α → Bool} (Sound Held : σ → Prop)
    (sound : ∀ before item after, Sound before → step before item = .ok after → Sound after)
    (occurring : ∀ before item after, Sound before → step before item = .ok after → occurs item = true →
      ¬ Held before ∧ Held after)
    (lasting : ∀ before item after, Sound before → step before item = .ok after → Held before → Held after)
    {items : List α} {first last : σ} (start : Sound first) (ran : items.foldlM step first = .ok last) :
    items.countP occurs ≤ 1 ∧ (Held first → items.countP occurs = 0) := by
  induction items generalizing first with
  | nil => simp
  | cons item rest ih =>
    simp only [List.foldlM_cons, bind_eq_ok] at ran
    obtain ⟨middle, stepped, later⟩ := ran
    obtain ⟨once, never⟩ := ih (sound _ _ _ start stepped) later
    by_cases occurred : occurs item = true
    · obtain ⟨unheld, held⟩ := occurring _ _ _ start stepped occurred
      rw [List.countP_cons_of_pos occurred, never held]
      exact ⟨le_refl 1, fun already => absurd already unheld⟩
    · rw [List.countP_cons_of_neg occurred]
      exact ⟨once, fun held => never (lasting _ _ _ start stepped held)⟩

/-- A property that fails at the start of a run and holds at its end is brought in by one of its steps. -/
theorem run_brings {α : Type} {step : α → α → Prop} {P : α → Prop} {first last : α}
    (run : Relation.ReflTransGen step first last) (unheld : ¬ P first) (held : P last) :
    ∃ before after, Relation.ReflTransGen step first before ∧ step before after ∧
      Relation.ReflTransGen step after last ∧ ¬ P before ∧ P after := by
  induction run with
  | refl => exact absurd held unheld
  | tail earlier lastStep ih =>
    rename_i middle final
    by_cases already : P middle
    · obtain ⟨before, after, start, brings, rest, absent, present⟩ := ih already
      exact ⟨before, after, start, brings, rest.tail lastStep, absent, present⟩
    · exact ⟨middle, final, earlier, lastStep, .refl, already, held⟩

end RatchetingInquiry
