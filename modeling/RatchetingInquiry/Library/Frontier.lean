import Mathlib.Data.List.Chain
import Mathlib.Logic.Relation

/-! Breadth-first search of a tree of candidates by a queue. Candidates that are finished are kept; the others make
way for their children at the end of the queue. What is kept comes level by level, and where the children of a
candidate are ordered the whole of it is. -/

namespace RatchetingInquiry

section
variable {α : Type} (finished : α → Bool) (children : α → List α)

/-- The loop of the search. -/
def breadthFirst : Nat → List α → List α → Option (List α)
  | _, [], kept => some kept
  | 0, _ :: _, _ => none
  | fuel + 1, candidate :: queue, kept =>
    if finished candidate then breadthFirst fuel queue (kept ++ [candidate])
    else breadthFirst fuel (queue ++ children candidate) kept

/-- What comes in the place of a candidate. -/
def expansion (candidate : α) : List α :=
  if finished candidate then [] else children candidate

/-- The candidates at a depth below the roots. -/
def frontier : Nat → List α → List α
  | 0, roots => roots
  | depth + 1, roots => (frontier depth roots).flatMap (expansion finished children)

variable {finished children} {roots kept : List α} {depth : Nat}

theorem mem_expansion {candidate child : α} :
    child ∈ expansion finished children candidate ↔ finished candidate = false ∧ child ∈ children candidate := by
  unfold expansion
  split
  next done => simp [done]
  next going => simp [going]

theorem frontier_shift : frontier finished children depth (roots.flatMap (expansion finished children)) =
    frontier finished children (depth + 1) roots := by
  induction depth with
  | zero => rfl
  | succ depth ih =>
    rw [frontier, ih]
    rfl

theorem breadthFirst_front (front back : List α) (fuel : Nat) :
    breadthFirst finished children (front.length + fuel) (front ++ back) kept =
      breadthFirst finished children fuel (back ++ front.flatMap (expansion finished children))
        (kept ++ front.filter finished) := by
  induction front generalizing back kept with
  | nil => simp
  | cons candidate rest ih =>
    rw [List.length_cons, Nat.add_right_comm, List.cons_append, breadthFirst]
    split
    next done => simp [ih, expansion, done]
    next going =>
      rw [List.append_assoc, ih]
      simp [expansion, going]

/-- A search whose levels end keeps what is finished, level by level. -/
theorem breadthFirst_levels (kept : List α) (ends : frontier finished children depth roots = []) :
    ∃ enough, ∀ fuel, enough ≤ fuel → breadthFirst finished children fuel roots kept =
      some (kept ++ (List.range depth).flatMap
        (fun level => (frontier finished children level roots).filter finished)) := by
  induction depth generalizing roots kept with
  | zero =>
    obtain rfl : roots = [] := ends
    exact ⟨0, fun fuel _ => by cases fuel <;> simp [breadthFirst]⟩
  | succ depth ih =>
    rw [← frontier_shift] at ends
    obtain ⟨enough, returns⟩ := ih (kept ++ roots.filter finished) ends
    refine ⟨roots.length + enough, ?_⟩
    intro fuel within
    obtain ⟨left, rfl⟩ := Nat.exists_eq_add_of_le (Nat.le_of_add_right_le within)
    have whole : breadthFirst finished children (roots.length + left) (roots ++ []) kept = _ :=
      breadthFirst_front roots [] left
    rw [List.append_nil, List.nil_append] at whole
    rw [whole, returns left (Nat.le_of_add_le_add_left within), List.range_succ_eq_map]
    simp [List.flatMap_map, frontier_shift, frontier]

/-- Every level is in order, where the children of one candidate are and those of ordered candidates are. -/
theorem frontier_ordered {before : α → α → Prop}
    (siblings : ∀ candidate, (expansion finished children candidate).Pairwise before)
    (cousins : ∀ left right, before left right → ∀ first ∈ expansion finished children left,
      ∀ second ∈ expansion finished children right, before first second)
    (ordered : roots.Pairwise before) : (frontier finished children depth roots).Pairwise before := by
  induction depth with
  | zero => exact ordered
  | succ depth ih =>
    rw [frontier, List.pairwise_flatMap]
    exact ⟨fun candidate _ => siblings candidate, ih.imp (fun {left right} below => cousins left right below)⟩

/-- The levels one after another are in order, where the candidates of a level come before those of a deeper one. -/
theorem levels_ordered {before : α → α → Prop}
    (within : ∀ level, (frontier finished children level roots).Pairwise before)
    (across : ∀ level deeper, level < deeper → ∀ first ∈ frontier finished children level roots,
      ∀ second ∈ frontier finished children deeper roots, before first second) :
    ((List.range depth).flatMap
      (fun level => (frontier finished children level roots).filter finished)).Pairwise before := by
  rw [List.pairwise_flatMap]
  refine ⟨fun level _ => (within level).filter finished, ?_⟩
  apply List.pairwise_lt_range.imp
  intro level deeper less first firstKept second secondKept
  exact across level deeper less first (List.mem_of_mem_filter firstKept) second (List.mem_of_mem_filter secondKept)

end

/-- What is found first among ordered items comes before all the others that were looked for. -/
theorem find_least {α : Type} {below : α → α → Prop} {items : List α} {wanted : α → Bool}
    (ordered : items.Pairwise below) (apart : ∀ left right, below left right → ¬ below right left) {item : α} :
    items.find? wanted = some item ↔
      item ∈ items ∧ wanted item = true ∧ ∀ other ∈ items, wanted other = true → other = item ∨ below item other := by
  induction items with
  | nil => simp
  | cons first rest ih =>
    rw [List.pairwise_cons] at ordered
    rw [List.find?_cons]
    split
    next chosen =>
      constructor
      · intro same
        obtain rfl := Option.some.inj same
        refine ⟨List.mem_cons_self .., chosen, ?_⟩
        intro other member _
        rcases List.mem_cons.mp member with same | later
        · exact .inl same
        · exact .inr (ordered.1 other later)
      · intro least
        obtain ⟨member, -, others⟩ := least
        rcases others first (List.mem_cons_self ..) chosen with same | less
        · rw [same]
        · rcases List.mem_cons.mp member with same | later
          · rw [same]
          · exact absurd less (apart _ _ (ordered.1 item later))
    next passed =>
      rw [ih ordered.2]
      constructor
      · intro least
        obtain ⟨member, chosen, others⟩ := least
        refine ⟨List.mem_cons_of_mem _ member, chosen, ?_⟩
        intro other listed wantedOther
        rcases List.mem_cons.mp listed with same | later
        · rw [same, passed] at wantedOther
          cases wantedOther
        · exact others other later wantedOther
      · intro least
        obtain ⟨member, chosen, others⟩ := least
        rcases List.mem_cons.mp member with same | later
        · rw [same, passed] at chosen
          cases chosen
        · exact ⟨later, chosen, fun other listed => others other (List.mem_cons_of_mem _ listed)⟩

/-! Walks along a relation. -/

section
variable {α : Type} {step : α → α → Prop}

/-- A walk from its first node to its last one that comes to no node twice takes some of the nodes of any other walk,
and fewer of them unless it is that walk. -/
theorem exists_simple_walk {source target : α} {walk : List α} (starts : walk.head? = some source)
    (ends : walk.getLast? = some target) (chained : walk.IsChain step) :
    ∃ simple : List α, simple.head? = some source ∧ simple.getLast? = some target ∧ simple.IsChain step ∧
      simple.Nodup ∧ simple ⊆ walk ∧ (simple = walk ∨ simple.length < walk.length) := by
  induction walk generalizing source with
  | nil => cases starts
  | cons node rest ih =>
    obtain rfl := Option.some.inj starts
    cases rest with
    | nil => exact ⟨[node], rfl, ends, chained, List.pairwise_singleton _ node, List.Subset.refl _, .inl rfl⟩
    | cons next rest =>
      rw [List.getLast?_cons_cons] at ends
      rw [List.isChain_cons_cons] at chained
      obtain ⟨simple, begins, closes, steps, distinct, within, shorter⟩ := ih rfl ends chained.2
      have bounded : simple.length ≤ (next :: rest).length := by
        rcases shorter with rfl | less
        · exact Nat.le_refl _
        · exact Nat.le_of_lt less
      by_cases again : node ∈ simple
      · -- The walk comes back to its first node, and what is behind that is enough.
        obtain ⟨earlier, later, rfl⟩ := List.append_of_mem again
        rw [List.getLast?_append_of_ne_nil _ (List.cons_ne_nil _ _)] at closes
        refine ⟨node :: later, rfl, closes, steps.right_of_append, (List.pairwise_append.mp distinct).2.1, ?_, .inr ?_⟩
        · intro item member
          exact List.mem_cons_of_mem _ (within (List.mem_append_right _ member))
        · simp only [List.length_append, List.length_cons] at bounded ⊢
          omega
      · obtain ⟨others, rfl⟩ : ∃ others, simple = next :: others := List.head?_eq_some_iff.mp begins
        refine ⟨node :: next :: others, rfl, ?_, .cons_cons chained.1 steps, List.nodup_cons.mpr ⟨again, distinct⟩,
          List.cons_subset_cons _ within, ?_⟩
        · rw [List.getLast?_cons_cons]
          exact closes
        · rcases shorter with same | less
          · exact .inl (by rw [same])
          · exact .inr (Nat.succ_lt_succ less)

/-- A node can be reached if and only if a walk leads to it. -/
theorem reaches_iff_walk {source target : α} : Relation.ReflTransGen step source target ↔
    ∃ walk : List α, walk.head? = some source ∧ walk.getLast? = some target ∧ walk.IsChain step := by
  constructor
  · intro reached
    induction reached using Relation.ReflTransGen.head_induction_on with
    | refl => exact ⟨[target], rfl, rfl, .singleton target⟩
    | @head source next first _ ih =>
      obtain ⟨walk, starts, ends, chained⟩ := ih
      obtain ⟨rest, rfl⟩ : ∃ rest, walk = next :: rest := List.head?_eq_some_iff.mp starts
      refine ⟨source :: next :: rest, rfl, ?_, .cons_cons first chained⟩
      rw [List.getLast?_cons_cons]
      exact ends
  · intro led
    obtain ⟨walk, starts, ends, chained⟩ := led
    induction walk generalizing source with
    | nil => cases starts
    | cons node rest ih =>
      obtain rfl := Option.some.inj starts
      cases rest with
      | nil =>
        obtain rfl := Option.some.inj ends
        exact .refl
      | cons next rest =>
        rw [List.getLast?_cons_cons] at ends
        rw [List.isChain_cons_cons] at chained
        exact .head chained.1 (ih rfl ends chained.2)

end

end RatchetingInquiry
