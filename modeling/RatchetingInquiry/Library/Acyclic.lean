import RatchetingInquiry.Library.Search
import Mathlib.Data.List.Perm.Subperm
import Mathlib.Logic.Relation

/-! The depth-first search is exact: it always ends, and it succeeds on a graph just when every successor is
a known node and no node reaches itself. The answer therefore depends on the graph alone and not on the
order in which nodes and successors are listed. -/

namespace RatchetingInquiry

section
variable {α : Type} {successors : α → Option (List α)}

/-- `next` is listed as a successor of `node`. -/
def Leads (successors : α → Option (List α)) (node next : α) : Prop :=
  ∃ listed, successors node = some listed ∧ next ∈ listed

/-- The search over pending nodes without fuel, one rule for each way a call can go. A derivation is a
search that ends. -/
inductive Explores (successors : α → Option (List α)) :
    List α → List α → List α → Option (List α) → Prop
  | done {visiting visited : List α} : Explores successors visiting visited [] (some visited)
  | onPath {visiting visited rest : List α} {node : α} : node ∈ visiting →
      Explores successors visiting visited (node :: rest) none
  | seen {visiting visited rest : List α} {node : α} {outcome : Option (List α)} : node ∉ visiting →
      node ∈ visited → Explores successors visiting visited rest outcome →
      Explores successors visiting visited (node :: rest) outcome
  | unknown {visiting visited rest : List α} {node : α} : node ∉ visiting → node ∉ visited →
      successors node = none → Explores successors visiting visited (node :: rest) none
  | fails {visiting visited rest listed : List α} {node : α} : node ∉ visiting → node ∉ visited →
      successors node = some listed → Explores successors (node :: visiting) visited listed none →
      Explores successors visiting visited (node :: rest) none
  | returns {visiting visited rest listed finished : List α} {node : α} {outcome : Option (List α)} :
      node ∉ visiting → node ∉ visited → successors node = some listed →
      Explores successors (node :: visiting) visited listed (some finished) →
      Explores successors visiting (node :: finished) rest outcome →
      Explores successors visiting visited (node :: rest) outcome

/-- A search ends in one way only. -/
theorem Explores.unique {visiting visited pending : List α} {first second : Option (List α)}
    (one : Explores successors visiting visited pending first)
    (other : Explores successors visiting visited pending second) : first = second := by
  induction one generalizing second with
  | done => cases other; rfl
  | onPath member => cases other <;> first | rfl | contradiction
  | seen off member _ ih =>
    cases other with
    | onPath => contradiction
    | seen _ _ rest => exact ih rest
    | unknown => contradiction
    | fails => contradiction
    | returns => contradiction
  | unknown off absent missing =>
    cases other with
    | onPath => rfl
    | seen => contradiction
    | unknown => rfl
    | fails => rfl
    | returns _ _ given => rw [missing] at given; cases given
  | fails off absent given _ ih =>
    cases other with
    | onPath => rfl
    | seen => contradiction
    | unknown => rfl
    | fails => rfl
    | returns _ _ again below =>
      cases Option.some.inj (given.symm.trans again)
      cases ih below
  | returns off absent given _ _ ih later =>
    cases other with
    | onPath => contradiction
    | seen => contradiction
    | unknown _ _ missing => rw [missing] at given; cases given
    | fails _ _ again below =>
      cases Option.some.inj (given.symm.trans again)
      cases ih below
    | returns _ _ again below rest =>
      cases Option.some.inj (given.symm.trans again)
      cases ih below
      exact later rest

/-- Finished nodes, latest first: the successors of each were finished before it. -/
inductive Finished (successors : α → Option (List α)) : List α → Prop
  | nil : Finished successors []
  | cons {node : α} {listed rest : List α} : successors node = some listed → listed ⊆ rest → node ∉ rest →
      Finished successors rest → Finished successors (node :: rest)

theorem Finished.known {finished : List α} (ordered : Finished successors finished) {node : α}
    (member : node ∈ finished) : ∃ listed, successors node = some listed ∧ listed ⊆ finished := by
  induction ordered with
  | nil => simp at member
  | @cons first listed rest given below _ _ ih =>
    rcases List.mem_cons.mp member with here | later
    · subst here
      exact ⟨listed, given, fun next owned => List.mem_cons_of_mem _ (below owned)⟩
    · obtain ⟨found, hit, within⟩ := ih later
      exact ⟨found, hit, fun next owned => List.mem_cons_of_mem _ (within owned)⟩

theorem Finished.closed {finished : List α} (ordered : Finished successors finished) {node next : α}
    (member : node ∈ finished) (path : Relation.ReflTransGen (Leads successors) node next) : next ∈ finished := by
  induction path with
  | refl => exact member
  | tail _ edge ih =>
    obtain ⟨listed, given, owned⟩ := edge
    obtain ⟨found, hit, within⟩ := ordered.known ih
    have same : found = listed := Option.some.inj (hit.symm.trans given)
    exact within (same ▸ owned)

/-- No finished node reaches itself. -/
theorem Finished.acyclic {finished : List α} (ordered : Finished successors finished) {node : α}
    (member : node ∈ finished) : ¬ Relation.TransGen (Leads successors) node node := by
  induction ordered with
  | nil => simp at member
  | @cons first listed rest given below fresh before ih =>
    rcases List.mem_cons.mp member with here | later
    · subst here
      intro loop
      obtain ⟨next, ⟨found, hit, owned⟩, back⟩ := Relation.TransGen.head'_iff.mp loop
      have same : found = listed := Option.some.inj (hit.symm.trans given)
      exact fresh (before.closed (below (same ▸ owned)) back)
    · exact ih later

/-- What a finished call leaves: the node and all that was finished before, none of it on the path. -/
structure Settles (successors : α → Option (List α)) (visiting visited pending seen : List α) : Prop where
  ordered : Finished successors seen
  kept : visited ⊆ seen
  reached : pending ⊆ seen
  offPath : ∀ node ∈ seen, node ∉ visiting

/-- A fold of calls settles all its nodes when each call settles its own. -/
theorem settles_foldlM {visiting : List α} {call : List α → α → Option (List α)}
    (step : ∀ visited node seen, call visited node = some seen → Finished successors visited →
      (∀ finished ∈ visited, finished ∉ visiting) → Settles successors visiting visited [node] seen)
    (pending visited seen : List α) (folded : pending.foldlM call visited = some seen)
    (ordered : Finished successors visited) (offPath : ∀ finished ∈ visited, finished ∉ visiting) :
    Settles successors visiting visited pending seen := by
  induction pending generalizing visited with
  | nil =>
    have same : visited = seen := Option.some.inj folded
    subst same
    exact ⟨ordered, List.Subset.refl _, List.nil_subset _, offPath⟩
  | cons node rest ih =>
    rw [List.foldlM_cons, Option.bind_eq_bind, Option.bind_eq_some_iff] at folded
    obtain ⟨between, called, later⟩ := folded
    have first := step visited node between called ordered offPath
    have last := ih between later first.ordered first.offPath
    refine ⟨last.ordered, List.Subset.trans first.kept last.kept, ?_, last.offPath⟩
    exact List.cons_subset.mpr ⟨last.kept (first.reached List.mem_cons_self), last.reached⟩

variable [DecidableEq α]

theorem visit_settles (fuel : Nat) (visiting visited : List α) (node : α) (seen : List α)
    (visits : visit successors fuel visiting visited node = some seen) (ordered : Finished successors visited)
    (offPath : ∀ finished ∈ visited, finished ∉ visiting) : Settles successors visiting visited [node] seen := by
  induction fuel generalizing visiting visited node seen with
  | zero =>
    unfold visit at visits
    split at visits
    next member =>
      have same : visited = seen := Option.some.inj visits
      subst same
      exact ⟨ordered, List.Subset.refl _, by simpa using member, offPath⟩
    next => simp at visits
  | succ fuel ih =>
    unfold visit at visits
    split at visits
    next => simp at visits
    next off =>
      split at visits
      next member =>
        have same : visited = seen := Option.some.inj visits
        subst same
        exact ⟨ordered, List.Subset.refl _, by simpa using member, offPath⟩
      next absent =>
        simp only [Option.bind_eq_bind, Option.bind_eq_some_iff, Option.pure_def, Option.some.injEq] at visits
        obtain ⟨listed, given, finished, folded, same⟩ := visits
        subst same
        have apart : ∀ before ∈ visited, before ∉ node :: visiting := by
          intro before member onPath
          rcases List.mem_cons.mp onPath with here | deeper
          · exact absent (here ▸ member)
          · exact offPath before member deeper
        have below := settles_foldlM (fun visited successor seen => ih (node :: visiting) visited successor seen)
          listed visited finished folded ordered apart
        have fresh : node ∉ finished := fun member => below.offPath node member List.mem_cons_self
        refine ⟨.cons given below.reached fresh below.ordered, ?_, by simp, ?_⟩
        · exact fun before member => List.mem_cons_of_mem _ (below.kept member)
        · intro before member onPath
          rcases List.mem_cons.mp member with here | deeper
          · exact off (here ▸ onPath)
          · exact below.offPath before deeper (List.mem_cons_of_mem _ onPath)

/-- The fuel of the search never runs out: the path repeats no node. -/
theorem foldlM_visit_explores {nodes : List α} (known : ∀ node, (successors node).isSome ↔ node ∈ nodes)
    (fuel : Nat) (visiting visited pending : List α) (distinct : visiting.Nodup) (within : visiting ⊆ nodes)
    (enough : nodes.length ≤ fuel + visiting.length) (ordered : Finished successors visited)
    (offPath : ∀ finished ∈ visited, finished ∉ visiting) :
    Explores successors visiting visited pending (pending.foldlM (visit successors fuel visiting) visited) := by
  induction fuel generalizing visiting visited pending with
  | zero =>
    have whole : nodes ⊆ visiting := by
      have full := (List.subperm_of_subset distinct within).perm_of_length_le (by omega)
      exact full.symm.subset
    induction pending with
    | nil => exact .done
    | cons node rest ih =>
      rw [List.foldlM_cons, visit]
      by_cases member : node ∈ visited
      · rw [if_pos member]
        exact .seen (offPath node member) member ih
      · rw [if_neg member]
        by_cases onPath : node ∈ visiting
        · exact .onPath onPath
        · refine .unknown onPath member ?_
          by_contra given
          exact onPath (whole ((known node).mp (Option.isSome_iff_ne_none.mpr given)))
  | succ fuel ih =>
    induction pending generalizing visited with
    | nil => exact .done
    | cons node rest later =>
      rw [List.foldlM_cons, visit]
      by_cases onPath : node ∈ visiting
      · rw [if_pos onPath]
        exact .onPath onPath
      rw [if_neg onPath]
      by_cases member : node ∈ visited
      · rw [if_pos member]
        exact .seen onPath member (later visited ordered offPath)
      rw [if_neg member]
      cases given : successors node with
      | none => exact .unknown onPath member given
      | some listed =>
        have owned : node ∈ nodes := (known node).mp (by rw [given]; rfl)
        have apart : ∀ before ∈ visited, before ∉ node :: visiting := by
          intro before settled again
          rcases List.mem_cons.mp again with here | deeper
          · exact member (here ▸ settled)
          · exact offPath before settled deeper
        have deeper := ih (node :: visiting) visited listed (List.nodup_cons.mpr ⟨onPath, distinct⟩)
          (List.cons_subset.mpr ⟨owned, within⟩) (by rw [List.length_cons]; omega) ordered apart
        cases folded : listed.foldlM (visit successors fuel (node :: visiting)) visited with
        | none =>
          rw [folded] at deeper
          simp only [Option.bind_eq_bind, Option.bind_some, folded, Option.bind_none]
          exact .fails onPath member given deeper
        | some finished =>
          rw [folded] at deeper
          have called : visit successors (fuel + 1) visiting visited node = some (node :: finished) := by
            rw [visit, if_neg onPath, if_neg member]
            simp only [given, Option.bind_eq_bind, Option.bind_some, folded, Option.pure_def]
          have settled := visit_settles (fuel + 1) visiting visited node _ called ordered offPath
          simp only [Option.bind_eq_bind, Option.bind_some, folded, Option.pure_def]
          exact .returns onPath member given deeper (later (node :: finished) settled.ordered settled.offPath)

/-- Over an acyclic graph whose successors are all known, no call fails. -/
theorem visit_isSome {nodes : List α} (known : ∀ node, (successors node).isSome ↔ node ∈ nodes)
    (closed : ∀ node next, Leads successors node next → next ∈ nodes)
    (acyclic : ∀ node, ¬ Relation.TransGen (Leads successors) node node)
    (fuel : Nat) (visiting visited : List α) (node : α) (distinct : visiting.Nodup) (within : visiting ⊆ nodes)
    (enough : nodes.length ≤ fuel + visiting.length) (owned : node ∈ nodes)
    (path : ∀ before ∈ visiting, Relation.TransGen (Leads successors) before node) :
    (visit successors fuel visiting visited node).isSome := by
  have off : node ∉ visiting := fun member => acyclic node (path node member)
  induction fuel generalizing visiting visited node with
  | zero =>
    have full := (List.subperm_of_subset distinct within).perm_of_length_le (by omega)
    exact absurd (full.symm.subset owned) off
  | succ fuel ih =>
    rw [visit, if_neg off]
    by_cases member : node ∈ visited
    · rw [if_pos member]
      rfl
    rw [if_neg member]
    obtain ⟨listed, given⟩ := Option.isSome_iff_exists.mp ((known node).mpr owned)
    have each : ∀ (pending visited : List α), pending ⊆ listed →
        (pending.foldlM (visit successors fuel (node :: visiting)) visited).isSome := by
      intro pending
      induction pending with
      | nil => exact fun _ _ => rfl
      | cons next rest later =>
        intro visited sub
        obtain ⟨here, others⟩ := List.cons_subset.mp sub
        have edge : Leads successors node next := ⟨listed, given, here⟩
        have reaches : ∀ before ∈ node :: visiting, Relation.TransGen (Leads successors) before next := by
          intro before onPath
          rcases List.mem_cons.mp onPath with same | deeper
          · exact same ▸ .single edge
          · exact (path before deeper).tail edge
        have called := ih (node :: visiting) visited next (List.nodup_cons.mpr ⟨off, distinct⟩)
          (List.cons_subset.mpr ⟨owned, within⟩) (by rw [List.length_cons]; omega) (closed node next edge) reaches
          (fun onPath => acyclic next (reaches next onPath))
        obtain ⟨seen, visits⟩ := Option.isSome_iff_exists.mp called
        rw [List.foldlM_cons, visits]
        exact later seen others
    obtain ⟨finished, folded⟩ := Option.isSome_iff_exists.mp (each listed visited (List.Subset.refl _))
    simp [given, folded]

/-- The search ends, with the answer that `searchAcyclic` computes. -/
theorem searchAcyclic_explores {nodes : List α} (known : ∀ node, (successors node).isSome ↔ node ∈ nodes) :
    ∃ outcome, Explores successors [] [] nodes outcome ∧ searchAcyclic nodes successors = outcome.isSome :=
  ⟨_, foldlM_visit_explores known nodes.length [] [] nodes List.nodup_nil (List.nil_subset _) (by simp) .nil
    (by simp), rfl⟩

theorem searchAcyclic_iff {nodes : List α} (known : ∀ node, (successors node).isSome ↔ node ∈ nodes) :
    searchAcyclic nodes successors = true ↔
      (∀ node next, Leads successors node next → next ∈ nodes) ∧
        ∀ node, ¬ Relation.TransGen (Leads successors) node node := by
  unfold searchAcyclic
  constructor
  · intro succeeds
    obtain ⟨seen, folded⟩ := Option.isSome_iff_exists.mp succeeds
    have settled := settles_foldlM (visit_settles nodes.length []) nodes [] seen folded .nil (by simp)
    have visited : ∀ {node next : α}, Leads successors node next → node ∈ seen := by
      intro node next edge
      obtain ⟨listed, given, -⟩ := edge
      exact settled.reached ((known node).mp (by rw [given]; rfl))
    constructor
    · intro node next edge
      have member : next ∈ seen := settled.ordered.closed (visited edge) (.single edge)
      obtain ⟨listed, given, -⟩ := settled.ordered.known member
      exact (known next).mp (by rw [given]; rfl)
    · intro node loop
      obtain ⟨next, edge, -⟩ := Relation.TransGen.head'_iff.mp loop
      exact settled.ordered.acyclic (visited edge) loop
  · intro ⟨closed, acyclic⟩
    have each : ∀ (pending visited : List α), pending ⊆ nodes →
        (pending.foldlM (visit successors nodes.length []) visited).isSome := by
      intro pending
      induction pending with
      | nil => exact fun _ _ => rfl
      | cons node rest ih =>
        intro visited sub
        obtain ⟨here, others⟩ := List.cons_subset.mp sub
        obtain ⟨seen, visits⟩ := Option.isSome_iff_exists.mp
          (visit_isSome known closed acyclic nodes.length [] visited node List.nodup_nil (List.nil_subset _)
            (by simp) here (by simp))
        rw [List.foldlM_cons, visits]
        exact ih seen others
    exact each nodes [] (List.Subset.refl _)

/-- The same graph listed in another order: the same nodes, and for each the same successors. -/
structure SameGraph (nodes : List α) (successors : α → Option (List α)) (listed : List α)
    (order : α → Option (List α)) : Prop where
  nodes : ∀ node, node ∈ listed ↔ node ∈ nodes
  known : ∀ node, (order node).isSome = (successors node).isSome
  edges : ∀ node next, Leads order node next ↔ Leads successors node next

/-- In whatever order the graph is listed, the search ends, in one way, and with the same answer. -/
theorem explores_order_free {nodes listed : List α} {order : α → Option (List α)}
    (known : ∀ node, (successors node).isSome ↔ node ∈ nodes) (same : SameGraph nodes successors listed order) :
    ∃ outcome, (∀ other, Explores order [] [] listed other ↔ other = outcome) ∧
      outcome.isSome = searchAcyclic nodes successors := by
  have knownListed : ∀ node, (order node).isSome ↔ node ∈ listed := by
    intro node
    rw [same.known, known, same.nodes]
  obtain ⟨outcome, explored, answer⟩ := searchAcyclic_explores knownListed
  refine ⟨outcome, ?_, ?_⟩
  · intro other
    constructor
    · exact fun explores => explores.unique explored
    · exact fun equal => equal ▸ explored
  · have edges : Leads order = Leads successors := by
      funext node next
      exact propext (same.edges node next)
    rw [← answer, Bool.eq_iff_iff, searchAcyclic_iff knownListed, searchAcyclic_iff known, edges]
    simp only [same.nodes]

end

end RatchetingInquiry
