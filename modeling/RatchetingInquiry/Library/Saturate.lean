import Mathlib.Data.List.Nodup
import Mathlib.Data.List.Perm.Subperm
import Mathlib.Order.Bounds.Defs

/-! Saturation: the least set of keys that is closed under a rule, computed by passes over a finite list
of items. A pass adds the key of every item that the rule admits over the keys reached so far, and the
passes repeat until one of them adds nothing. As many passes as there are items are enough. -/

namespace RatchetingInquiry

section
variable {ι κ : Type} [DecidableEq κ] (key : ι → κ) (stands : List κ → ι → Bool)

/-- One pass over the items, in order; an item sees the keys that earlier items of the pass added. -/
def saturatePass (items : List ι) (reached : List κ) : List κ :=
  items.foldl (fun reached item =>
    if key item ∈ reached then reached
    else if stands reached item then reached ++ [key item] else reached) reached

/-- Passes until one adds nothing, at most `fuel` of them. -/
def saturateLoop (items : List ι) : Nat → List κ → List κ
  | 0, reached => reached
  | fuel + 1, reached =>
    let next := saturatePass key stands items reached
    if next = reached then reached else saturateLoop items fuel next

def saturated (items : List ι) : List κ := saturateLoop key stands items items.length []

theorem saturatePass_cons (item : ι) (rest : List ι) (reached : List κ) :
    saturatePass key stands (item :: rest) reached =
      saturatePass key stands rest
        (if key item ∈ reached then reached
          else if stands reached item then reached ++ [key item] else reached) := rfl

/-- A pass only appends, and only keys of items. -/
theorem saturatePass_extends (items : List ι) (reached : List κ) :
    ∃ added, saturatePass key stands items reached = reached ++ added ∧ added ⊆ items.map key := by
  induction items generalizing reached with
  | nil => exact ⟨[], by simp [saturatePass]⟩
  | cons item rest ih =>
    rw [saturatePass_cons]
    split
    next =>
      obtain ⟨added, same, sub⟩ := ih reached
      exact ⟨added, same, fun k member => List.mem_cons_of_mem _ (sub member)⟩
    next =>
      split
      next =>
        obtain ⟨added, same, sub⟩ := ih (reached ++ [key item])
        refine ⟨key item :: added, by rw [same]; simp, ?_⟩
        intro k member
        rcases List.mem_cons.mp member with here | later
        · simp [here]
        · exact List.mem_cons_of_mem _ (sub later)
      next =>
        obtain ⟨added, same, sub⟩ := ih reached
        exact ⟨added, same, fun k member => List.mem_cons_of_mem _ (sub member)⟩

theorem saturatePass_nodup (items : List ι) {reached : List κ} (distinct : reached.Nodup) :
    (saturatePass key stands items reached).Nodup := by
  induction items generalizing reached with
  | nil => exact distinct
  | cons item rest ih =>
    rw [saturatePass_cons]
    apply ih
    split
    next => exact distinct
    next absent =>
      split
      next => exact List.nodup_append.mpr ⟨distinct, by simp, by rintro a member b single rfl; exact absent (List.mem_singleton.mp single ▸ member)⟩
      next => exact distinct

variable {key stands}

/-- What a pass adds satisfies every property that the rule passes on. -/
theorem saturatePass_induction {P : κ → Prop} (items : List ι) (reached : List κ)
    (start : ∀ k ∈ reached, P k)
    (step : ∀ reached, (∀ k ∈ reached, P k) → ∀ item ∈ items, stands reached item → P (key item)) :
    ∀ k ∈ saturatePass key stands items reached, P k := by
  induction items generalizing reached with
  | nil => exact start
  | cons item rest ih =>
    rw [saturatePass_cons]
    have later : ∀ reached, (∀ k ∈ reached, P k) → ∀ item ∈ rest, stands reached item → P (key item) :=
      fun reached holds item member => step reached holds item (List.mem_cons_of_mem _ member)
    split
    next => exact ih reached start later
    next =>
      split
      next admitted =>
        apply ih _ _ later
        intro k member
        rcases List.mem_append.mp member with before | added
        · exact start k before
        · rw [List.mem_singleton.mp added]
          exact step reached start item List.mem_cons_self admitted
      next => exact ih reached start later

/-- A pass that adds nothing has seen every admitted item before. -/
theorem mem_of_saturatePass_eq {items : List ι} {reached : List κ}
    (stable : saturatePass key stands items reached = reached) {item : ι} (member : item ∈ items)
    (admitted : stands reached item) : key item ∈ reached := by
  induction items with
  | nil => simp at member
  | cons first rest ih =>
    rw [saturatePass_cons] at stable
    -- were the first item added, the pass would end longer than it began
    have unchanged : (if key first ∈ reached then reached
        else if stands reached first then reached ++ [key first] else reached) = reached := by
      split
      next => rfl
      next absent =>
        split
        next added =>
          rw [if_neg absent, if_pos added] at stable
          obtain ⟨more, grown, -⟩ := saturatePass_extends key stands rest (reached ++ [key first])
          have longer := congrArg List.length (grown.symm.trans stable)
          simp at longer
        next => rfl
    rw [unchanged] at stable
    rcases List.mem_cons.mp member with here | later
    · by_contra absent
      rw [← here, if_neg absent, if_pos admitted] at unchanged
      simp at unchanged
    · exact ih stable later

theorem saturateLoop_induction {P : κ → Prop} (items : List ι)
    (step : ∀ reached, (∀ k ∈ reached, P k) → ∀ item ∈ items, stands reached item → P (key item))
    (fuel : Nat) (reached : List κ) (start : ∀ k ∈ reached, P k) :
    ∀ k ∈ saturateLoop key stands items fuel reached, P k := by
  induction fuel generalizing reached with
  | zero => exact start
  | succ fuel ih =>
    unfold saturateLoop
    dsimp only
    split
    next => exact start
    next => exact ih _ (saturatePass_induction items reached start step)

/-- Rule induction: what the rule passes on holds of every key that is reached. -/
theorem saturated_induction {P : κ → Prop} (items : List ι)
    (step : ∀ reached, (∀ k ∈ reached, P k) → ∀ item ∈ items, stands reached item → P (key item)) :
    ∀ k ∈ saturated key stands items, P k :=
  saturateLoop_induction items step items.length [] (by simp)

/-- With fuel for the keys that are still missing, the loop ends in a stable state. -/
theorem saturateLoop_stable (items : List ι) (fuel : Nat) (reached : List κ) (distinct : reached.Nodup)
    (known : reached ⊆ items.map key) (enough : items.length ≤ reached.length + fuel) :
    saturatePass key stands items (saturateLoop key stands items fuel reached) =
      saturateLoop key stands items fuel reached := by
  induction fuel generalizing reached with
  | zero =>
    -- every key is reached already, so a pass can add none
    obtain ⟨added, grown, -⟩ := saturatePass_extends key stands items reached
    have wide := saturatePass_nodup key stands items distinct
    have sub : saturatePass key stands items reached ⊆ items.map key := by
      obtain ⟨more, same, fresh⟩ := saturatePass_extends key stands items reached
      rw [same]
      exact List.append_subset.mpr ⟨known, fresh⟩
    have bound := (List.subperm_of_subset wide sub).length_le
    rw [grown] at bound
    simp only [List.length_append, List.length_map] at bound
    have none_added : added = [] := List.length_eq_zero_iff.mp (by omega)
    simp only [saturateLoop]
    rw [grown, none_added, List.append_nil]
  | succ fuel ih =>
    unfold saturateLoop
    dsimp only
    split
    next stable => exact stable
    next changed =>
      obtain ⟨added, grown, fresh⟩ := saturatePass_extends key stands items reached
      apply ih
      · exact saturatePass_nodup key stands items distinct
      · rw [grown]
        exact List.append_subset.mpr ⟨known, fresh⟩
      · have nonempty : added ≠ [] := by
          rintro rfl
          rw [List.append_nil] at grown
          exact changed grown
        have positive : 0 < added.length := List.length_pos_iff.mpr nonempty
        rw [grown, List.length_append]
        omega

/-- The result is closed: an item that the rule admits over it has its key in it. -/
theorem saturated_closed {items : List ι} {item : ι} (member : item ∈ items)
    (admitted : stands (saturated key stands items) item) : key item ∈ saturated key stands items :=
  mem_of_saturatePass_eq
    (saturateLoop_stable items items.length [] List.nodup_nil (by simp) (by simp)) member admitted

/-- Under a monotone rule every reached key is the key of an item that the rule admits over the result. -/
theorem saturated_admitted {items : List ι} {k : κ}
    (mono : ∀ small large item, small ⊆ large → stands small item → stands large item)
    (member : k ∈ saturated key stands items) :
    ∃ item ∈ items, key item = k ∧ stands (saturated key stands items) item := by
  have reachedBy : ∀ k ∈ saturated key stands items, k ∈ saturated key stands items ∧
      ∃ item ∈ items, key item = k ∧ stands (saturated key stands items) item := by
    apply saturated_induction
    intro reached holds item owned admitted
    have within : reached ⊆ saturated key stands items := fun k reachedKey => (holds k reachedKey).1
    have stillAdmitted := mono reached _ item within admitted
    exact ⟨saturated_closed owned stillAdmitted, item, owned, rfl, stillAdmitted⟩
  exact (reachedBy k member).2

/-- More fuel than there are items changes nothing. -/
theorem saturateLoop_of_stable (items : List ι) (fuel more : Nat) (reached : List κ)
    (stable : saturatePass key stands items (saturateLoop key stands items fuel reached) =
      saturateLoop key stands items fuel reached) :
    saturateLoop key stands items (fuel + more) reached = saturateLoop key stands items fuel reached := by
  induction fuel generalizing reached with
  | zero =>
    simp only [saturateLoop] at stable ⊢
    cases more with
    | zero => rfl
    | succ more =>
      rw [Nat.zero_add]
      unfold saturateLoop
      exact if_pos stable
  | succ fuel ih =>
    rw [Nat.succ_add]
    unfold saturateLoop at stable ⊢
    dsimp only at stable ⊢
    split
    next => rfl
    next changed =>
      rw [if_neg changed] at stable
      exact ih _ stable

theorem saturated_stable (items : List ι) :
    saturatePass key stands items (saturated key stands items) = saturated key stands items :=
  saturateLoop_stable items items.length [] List.nodup_nil (by simp) (by simp)

/-- The reached keys are the least set that the rule leads nowhere out of. -/
theorem saturated_isLeast (items : List ι)
    (mono : ∀ small large item, small ⊆ large → stands small item → stands large item) :
    IsLeast {G : Set κ | ∀ reached : List κ, (∀ k ∈ reached, k ∈ G) → ∀ item ∈ items, stands reached item → key item ∈ G}
      {k | k ∈ saturated key stands items} := by
  constructor
  · intro reached within item member admitted
    exact saturated_closed member (mono reached _ item within admitted)
  · intro G closed k member
    exact saturated_induction items closed k member

end

end RatchetingInquiry
