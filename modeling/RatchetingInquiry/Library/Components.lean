import RatchetingInquiry.Library.Canonical
import Mathlib.Data.List.Sort
import Mathlib.Data.List.Lex
import Mathlib.Data.List.Perm.Subperm
import Mathlib.Logic.Relation

/-! Strongly connected components of a finite graph in one depth-first search. The search shares its state
between recursive calls: the number of each node it has met, the least number it has seen from there, and the
stack of nodes whose component is still open. -/

namespace RatchetingInquiry

/-- The state of the search. The top of the stack is its first element. -/
structure ComponentSearch (α : Type) where
  index : Nat := 0
  indices : α → Option Nat := fun _ => none
  lowlinks : α → Option Nat := fun _ => none
  stack : List α := []
  onStack : List α := []
  components : List (List α) := []

section
variable {α : Type} [LinearOrder α]

/-- The node gets the next number and is stacked. -/
def ComponentSearch.enter (search : ComponentSearch α) (node : α) : ComponentSearch α where
  index := search.index + 1
  indices := Function.update search.indices node (some search.index)
  lowlinks := Function.update search.lowlinks node (some search.index)
  stack := node :: search.stack
  onStack := node :: search.onStack
  components := search.components

/-- Lower the least number that is seen from the node. -/
def ComponentSearch.lower (search : ComponentSearch α) (node : α) (seen : Nat) : Option (ComponentSearch α) := do
  let low ← search.lowlinks node
  return { search with lowlinks := Function.update search.lowlinks node (some (min low seen)) }

/-- Pop the stack down to the node: what is popped, in that order, and the rest. -/
def popTo (node : α) : List α → Option (List α × List α)
  | [] => none
  | member :: rest =>
    if member = node then some ([member], rest)
    else (popTo node rest).map (fun (popped, left) => (member :: popped, left))

/-- Only components with several nodes or with a loop are reported. -/
def report (successors : α → List α) (node : α) (component : List α) (components : List (List α)) : List (List α) :=
  let ordered := component.insertionSort (· ≤ ·)
  if 1 < ordered.length ∨ node ∈ successors node then components ++ [ordered] else components

/-- A node from which nothing older is seen is the root of its component, which is popped. -/
def ComponentSearch.close (successors : α → List α) (search : ComponentSearch α) (node : α) :
    Option (ComponentSearch α) := do
  let low ← search.lowlinks node
  let own ← search.indices node
  if low = own then
    let (component, rest) ← popTo node search.stack
    if component ⊆ search.onStack then
      return { search with
        stack := rest
        onStack := search.onStack.filter (fun member => member ∉ component)
        components := report successors node component search.components }
    else none
  else return search

/-- Explore the component of an unnumbered node. `none` stands for a run that needs more fuel or that
misses a key. -/
def connect (successors : α → List α) : Nat → ComponentSearch α → α → Option (ComponentSearch α)
  | 0, _, _ => none
  | fuel + 1, search, node => do
    let scanned ← (successors node).foldlM (fun search successor =>
      if search.indices successor = none then do
        let below ← connect successors fuel search successor
        let low ← below.lowlinks successor
        below.lower node low
      else if successor ∈ search.onStack then do
        let seen ← search.indices successor
        search.lower node seen
      else some search) (search.enter node)
    scanned.close successors node

/-- The reported components of a graph, sorted. The search never descends deeper than there are nodes. -/
def recursiveComponents (successors : α → List α) (nodes : List α) : Option (List (List α)) := do
  let search ← (nodes.insertionSort (· ≤ ·)).foldlM (fun search node =>
    if search.indices node = none then connect successors nodes.length search node
    else some search) ({} : ComponentSearch α)
  return search.components.insertionSort (· ≤ ·)

/-! ### What the search keeps -/

abbrev Follows (successors : α → List α) (node next : α) : Prop := next ∈ successors node

/-- `next` is reached from `node` over listed successors. -/
def Reach (successors : α → List α) : α → α → Prop := Relation.ReflTransGen (Follows successors)

/-- A sorted strongly connected component with several nodes or with a loop. -/
structure IsRecursiveComponent (edge : α → α → Prop) (component : List α) : Prop where
  ordered : component.Pairwise (· < ·)
  connected : ∃ node ∈ component, ∀ member, member ∈ component ↔
    Relation.ReflTransGen edge node member ∧ Relation.ReflTransGen edge member node
  recursive : 1 < component.length ∨ ∃ node ∈ component, edge node node

/-- The number of a node that was met. -/
def ComponentSearch.number (search : ComponentSearch α) (node : α) : Nat := (search.indices node).getD 0

/-- The invariant of the search below the calls in progress (`path`, innermost first). Met nodes are closed or
stacked. Nothing leads out of the closed nodes, older stacked nodes reach younger ones, and every stacked node
reaches an older or equal one whose call is in progress. -/
structure Searching (successors : α → List α) (path : List α) (search : ComponentSearch α) : Prop where
  lows : ∀ node, (search.lowlinks node).isSome = (search.indices node).isSome
  numbered : ∀ node, (search.indices node).isSome → search.number node < search.index
  onStack : ∀ node, node ∈ search.onStack ↔ node ∈ search.stack
  stacked : ∀ node ∈ search.stack, (search.indices node).isSome
  descending : search.stack.Pairwise (fun later earlier => search.number earlier < search.number later)
  path_stacked : path ⊆ search.stack
  explored : ∀ node, (search.indices node).isSome → node ∉ path →
    ∀ next ∈ successors node, (search.indices next).isSome
  closed : ∀ node, (search.indices node).isSome → node ∉ search.stack →
    ∀ next ∈ successors node, (search.indices next).isSome ∧ next ∉ search.stack
  forward : ∀ older ∈ search.stack, ∀ younger ∈ search.stack, search.number older ≤ search.number younger →
    Reach successors older younger
  backward : ∀ node ∈ search.stack, ∃ caller ∈ path, search.number caller ≤ search.number node ∧
    Reach successors node caller
  sound : ∀ component ∈ search.components, IsRecursiveComponent (Follows successors) component ∧
    ∀ member ∈ component, (search.indices member).isSome ∧ member ∉ search.stack
  complete : ∀ node, (search.indices node).isSome → node ∉ search.stack →
    Relation.TransGen (Follows successors) node node →
    ∃ component ∈ search.components, node ∈ component
  distinct : search.components.Nodup

/-- What a call leaves alone: the nodes that were met before it. -/
structure Keeps (before after : ComponentSearch α) : Prop where
  indices : ∀ node, (before.indices node).isSome → after.indices node = before.indices node
  lowlinks : ∀ node, (before.indices node).isSome → after.lowlinks node = before.lowlinks node

/-- What a finished call leaves: the node is met, and `low` is the least number of an older stacked node that
is seen from the nodes it added to the stack. -/
structure CallEnds (successors : α → List α) (path : List α) (node : α) (low : Nat)
    (before after : ComponentSearch α) : Prop where
  keeps : Keeps before after
  searching : Searching successors path after
  met : (after.indices node).isSome
  fresh : before.index ≤ after.number node
  low_known : after.lowlinks node = some low
  low_seen : low = after.number node ∨
    ∃ older ∈ before.stack, before.number older = low ∧ Reach successors node older
  added : ∃ younger, after.stack = younger ++ before.stack ∧
    ∀ member ∈ younger, ∀ next ∈ before.stack, next ∈ successors member → low ≤ before.number next

/-- The state between two successors of `node`, whose call started in `before`. -/
structure Scanned (successors : α → List α) (path : List α) (node : α) (seen : List α) (low : Nat)
    (before now : ComponentSearch α) : Prop where
  started : Searching successors path before
  unmet : before.indices node = none
  keeps : Keeps before now
  searching : Searching successors (node :: path) now
  own : now.indices node = some before.index
  low_known : now.lowlinks node = some low
  low_le : low ≤ before.index
  low_seen : low = before.index ∨
    ∃ older ∈ before.stack, before.number older = low ∧ Reach successors node older
  added : ∃ younger, now.stack = younger ++ node :: before.stack ∧
    ∀ member ∈ younger, ∀ next ∈ before.stack, next ∈ successors member → low ≤ before.number next
  met : ∀ next ∈ seen, (now.indices next).isSome ∧ (next ∈ before.stack → low ≤ before.number next)

variable {successors : α → List α} {path : List α} {before search now after : ComponentSearch α} {node : α}

omit [LinearOrder α] in
theorem Keeps.met (keeps : Keeps before after) (met : (before.indices node).isSome) :
    (after.indices node).isSome := by
  rw [keeps.indices node met]
  exact met

omit [LinearOrder α] in
theorem Keeps.number (keeps : Keeps before after) (met : (before.indices node).isSome) :
    after.number node = before.number node := by
  unfold ComponentSearch.number
  rw [keeps.indices node met]

omit [LinearOrder α] in
theorem Keeps.trans (first : Keeps before now) (second : Keeps now after) : Keeps before after where
  indices := fun node met => (second.indices node (first.met met)).trans (first.indices node met)
  lowlinks := fun node met => (second.lowlinks node (first.met met)).trans (first.lowlinks node met)

/-- A younger node is above an older one on the stack, and no node is stacked twice. -/
theorem Searching.number_lt (kept : Searching successors path search) {younger older : List α} {above below : α}
    (split : search.stack = younger ++ older) (first : above ∈ younger) (second : below ∈ older) :
    search.number below < search.number above := by
  have ordered := kept.descending
  rw [split, List.pairwise_append] at ordered
  exact ordered.2.2 above first below second

theorem Searching.stack_nodup (kept : Searching successors path search) : search.stack.Nodup := by
  refine kept.descending.imp ?_
  intro later earlier less same
  rw [same] at less
  exact lt_irrefl _ less

/-- Closed nodes reach closed nodes only. -/
theorem Searching.closed_reach (kept : Searching successors path search) {next : α}
    (met : (search.indices node).isSome) (unstacked : node ∉ search.stack) (reach : Reach successors node next) :
    (search.indices next).isSome ∧ next ∉ search.stack := by
  induction reach with
  | refl => exact ⟨met, unstacked⟩
  | tail _ edge ih => exact kept.closed _ ih.1 ih.2 _ edge

/-- Every stacked node reaches the node whose exploration starts, as every call in progress does. -/
theorem Searching.stack_reach (kept : Searching successors path search)
    (calls : ∀ caller ∈ path, Reach successors caller node) {member : α} (owned : member ∈ search.stack) :
    Reach successors member node := by
  obtain ⟨caller, inProgress, -, reach⟩ := kept.backward member owned
  exact reach.trans (calls caller inProgress)

theorem enter_indices_ne {member : α} (other : member ≠ node) :
    (search.enter node).indices member = search.indices member := Function.update_of_ne other _ _

theorem enter_indices_self : (search.enter node).indices node = some search.index := Function.update_self ..

theorem enter_number_self : (search.enter node).number node = search.index := by
  rw [ComponentSearch.number, enter_indices_self]
  rfl

theorem enter_keeps (unmet : search.indices node = none) : Keeps search (search.enter node) := by
  have other : ∀ member, (search.indices member).isSome → member ≠ node := by
    intro member met same
    rw [same, unmet] at met
    exact absurd met (by simp)
  constructor
  · exact fun member met => enter_indices_ne (other member met)
  · exact fun member met => Function.update_of_ne (other member met) _ _

/-- A call that starts keeps the invariant below itself. -/
theorem Searching.enter (kept : Searching successors path search) (unmet : search.indices node = none)
    (calls : ∀ caller ∈ path, Reach successors caller node) :
    Searching successors (node :: path) (search.enter node) := by
  have keeps := enter_keeps unmet
  have unstacked : node ∉ search.stack := by
    intro owned
    have met := kept.stacked node owned
    rw [unmet] at met
    exact absurd met (by simp)
  have met_iff : ∀ member, ((search.enter node).indices member).isSome ↔
      member = node ∨ (search.indices member).isSome := by
    intro member
    by_cases same : member = node
    · simp [same, enter_indices_self]
    · simp [same, enter_indices_ne same]
  have old : ∀ member ∈ search.stack, (search.enter node).number member = search.number member :=
    fun member owned => keeps.number (kept.stacked member owned)
  have less : ∀ member ∈ search.stack, search.number member < search.index :=
    fun member owned => kept.numbered member (kept.stacked member owned)
  constructor
  case lows =>
    intro member
    by_cases same : member = node
    · simp [ComponentSearch.enter, same]
    · rw [enter_indices_ne same, ← kept.lows member]
      exact congrArg Option.isSome (Function.update_of_ne same _ _)
  case numbered =>
    intro member met
    rcases (met_iff member).mp met with same | earlier
    · rw [same, enter_number_self]
      exact Nat.lt_succ_self _
    · rw [keeps.number earlier]
      exact Nat.lt_succ_of_lt (kept.numbered member earlier)
  case onStack =>
    intro member
    simp [ComponentSearch.enter, kept.onStack]
  case stacked =>
    intro member owned
    rcases List.mem_cons.mp owned with same | earlier
    · exact (met_iff member).mpr (.inl same)
    · exact (met_iff member).mpr (.inr (kept.stacked member earlier))
  case descending =>
    refine List.pairwise_cons.mpr ⟨?_, ?_⟩
    · intro member owned
      rw [enter_number_self, old member owned]
      exact less member owned
    · refine kept.descending.imp_of_mem ?_
      intro later earlier ownedLater ownedEarlier descends
      rw [old later ownedLater, old earlier ownedEarlier]
      exact descends
  case path_stacked =>
    exact List.cons_subset_cons _ kept.path_stacked
  case explored =>
    intro member met off next edge
    rcases (met_iff member).mp met with same | earlier
    · exact absurd (same ▸ List.mem_cons_self) off
    · exact keeps.met (kept.explored member earlier (fun inPath => off (List.mem_cons_of_mem _ inPath)) next edge)
  case closed =>
    intro member met off next edge
    rcases (met_iff member).mp met with same | earlier
    · exact absurd (same ▸ List.mem_cons_self) off
    · obtain ⟨metNext, unstackedNext⟩ :=
        kept.closed member earlier (fun owned => off (List.mem_cons_of_mem _ owned)) next edge
      refine ⟨keeps.met metNext, ?_⟩
      intro owned
      rcases List.mem_cons.mp owned with same | deeper
      · rw [same, unmet] at metNext
        exact absurd metNext (by simp)
      · exact unstackedNext deeper
  case forward =>
    intro older ownedOlder younger ownedYounger order
    rcases List.mem_cons.mp ownedOlder with sameOlder | stackedOlder
    · rcases List.mem_cons.mp ownedYounger with sameYounger | stackedYounger
      · rw [sameOlder, sameYounger]
        exact .refl
      · rw [sameOlder, enter_number_self, old younger stackedYounger] at order
        have := less younger stackedYounger
        omega
    · rcases List.mem_cons.mp ownedYounger with sameYounger | stackedYounger
      · rw [sameYounger]
        exact kept.stack_reach calls stackedOlder
      · rw [old older stackedOlder, old younger stackedYounger] at order
        exact kept.forward older stackedOlder younger stackedYounger order
  case backward =>
    intro member owned
    rcases List.mem_cons.mp owned with same | earlier
    · exact ⟨node, List.mem_cons_self, by rw [same], by rw [same]; exact .refl⟩
    · obtain ⟨caller, inPath, order, reach⟩ := kept.backward member earlier
      refine ⟨caller, List.mem_cons_of_mem _ inPath, ?_, reach⟩
      rw [old member earlier, old caller (kept.path_stacked inPath)]
      exact order
  case sound =>
    intro component listed
    obtain ⟨exact, closed⟩ := kept.sound component listed
    refine ⟨exact, ?_⟩
    intro member owned
    obtain ⟨met, off⟩ := closed member owned
    refine ⟨keeps.met met, ?_⟩
    intro stacked
    rcases List.mem_cons.mp stacked with same | deeper
    · rw [same, unmet] at met
      exact absurd met (by simp)
    · exact off deeper
  case complete =>
    intro member met off loop
    rcases (met_iff member).mp met with same | earlier
    · exact absurd (same ▸ List.mem_cons_self) off
    · exact kept.complete member earlier (fun owned => off (List.mem_cons_of_mem _ owned)) loop
  case distinct => exact kept.distinct

/-- Lowering a number that is already known changes nothing else. -/
theorem Searching.relabel (kept : Searching successors path search) {lowlinks : α → Option Nat}
    (same : ∀ node, (lowlinks node).isSome = (search.lowlinks node).isSome) :
    Searching successors path { search with lowlinks := lowlinks } where
  lows := fun node => (same node).trans (kept.lows node)
  numbered := kept.numbered
  onStack := kept.onStack
  stacked := kept.stacked
  descending := kept.descending
  path_stacked := kept.path_stacked
  explored := kept.explored
  closed := kept.closed
  forward := kept.forward
  backward := kept.backward
  sound := kept.sound
  complete := kept.complete
  distinct := kept.distinct

theorem lower_eq {low : Nat} (known : search.lowlinks node = some low) (value : Nat) :
    search.lower node value =
      some { search with lowlinks := Function.update search.lowlinks node (some (min low value)) } := by
  simp only [ComponentSearch.lower, known, Option.bind_eq_bind, Option.bind_some, Option.pure_def]

theorem isSome_update_lowlinks {low : Nat} (known : search.lowlinks node = some low) (value : Nat) (member : α) :
    (Function.update search.lowlinks node (some value) member).isSome = (search.lowlinks member).isSome := by
  by_cases same : member = node
  · rw [same, Function.update_self, known]
    rfl
  · rw [Function.update_of_ne same]

section
variable {seen : List α} {low : Nat}

theorem Scanned.number_own (scanned : Scanned successors path node seen low before now) :
    now.number node = before.index := by
  rw [ComponentSearch.number, scanned.own]
  rfl

theorem Scanned.number_old (scanned : Scanned successors path node seen low before now) {member : α}
    (owned : member ∈ before.stack) : now.number member = before.number member :=
  scanned.keeps.number (scanned.started.stacked member owned)

theorem Scanned.number_old_lt (scanned : Scanned successors path node seen low before now) {member : α}
    (owned : member ∈ before.stack) : before.number member < before.index :=
  scanned.started.numbered member (scanned.started.stacked member owned)

theorem Scanned.old_stacked (scanned : Scanned successors path node seen low before now) {member : α}
    (owned : member ∈ before.stack) : member ∈ now.stack := by
  obtain ⟨younger, split, -⟩ := scanned.added
  rw [split]
  exact List.mem_append_right _ (List.mem_cons_of_mem _ owned)

/-- The older stacked nodes are those with a smaller number than the node that is explored. -/
theorem Scanned.old_of_lt (scanned : Scanned successors path node seen low before now) {member : α}
    (owned : member ∈ now.stack) (less : now.number member < before.index) : member ∈ before.stack := by
  obtain ⟨younger, split, -⟩ := scanned.added
  rw [split] at owned
  rcases List.mem_append.mp owned with above | below
  · have order := scanned.searching.number_lt split above List.mem_cons_self
    rw [scanned.number_own] at order
    omega
  · rcases List.mem_cons.mp below with same | old
    · rw [same, scanned.number_own] at less
      omega
    · exact old

/-- The scan starts with the number of the node itself. -/
theorem Scanned.start (started : Searching successors path before) (unmet : before.indices node = none)
    (calls : ∀ caller ∈ path, Reach successors caller node) :
    Scanned successors path node [] before.index before (before.enter node) where
  started := started
  unmet := unmet
  keeps := enter_keeps unmet
  searching := started.enter unmet calls
  own := enter_indices_self
  low_known := Function.update_self ..
  low_le := le_refl _
  low_seen := .inl rfl
  added := ⟨[], rfl, by simp⟩
  met := by simp

/-- A number that was seen from the node lowers its least number, in the state `below` that the successor
leaves. -/
theorem Scanned.lowered (scanned : Scanned successors path node seen low before now)
    {below : ComponentSearch α} {value : Nat} {successor : α} (keeps : Keeps now below)
    (searching : Searching successors (node :: path) below) (met : (below.indices successor).isSome)
    (covers : successor ∈ before.stack → value ≤ before.number successor)
    (reached : value < before.index →
      ∃ older ∈ before.stack, before.number older = value ∧ Reach successors node older)
    (added : ∃ younger, below.stack = younger ++ node :: before.stack ∧
      ∀ member ∈ younger, ∀ next ∈ before.stack, next ∈ successors member → min low value ≤ before.number next) :
    ∃ after, below.lower node value = some after ∧
      Scanned successors path node (seen ++ [successor]) (min low value) before after := by
  have ownMet : (now.indices node).isSome := by
    rw [scanned.own]
    rfl
  have lowKnown : below.lowlinks node = some low := by
    rw [keeps.lowlinks node ownMet, scanned.low_known]
  have other : ∀ member, (before.indices member).isSome → member ≠ node := by
    intro member owned same
    rw [same, scanned.unmet] at owned
    exact absurd owned (by simp)
  have both := scanned.keeps.trans keeps
  refine ⟨_, lower_eq lowKnown value, ?_⟩
  constructor
  case started => exact scanned.started
  case unmet => exact scanned.unmet
  case keeps =>
    constructor
    · exact both.indices
    · intro member owned
      exact (Function.update_of_ne (other member owned) _ _).trans (both.lowlinks member owned)
  case searching => exact searching.relabel (isSome_update_lowlinks lowKnown _)
  case own => exact (keeps.indices node ownMet).trans scanned.own
  case low_known => exact Function.update_self ..
  case low_le => exact (min_le_left _ _).trans scanned.low_le
  case low_seen =>
    rcases Nat.le_total low value with first | second
    · rw [min_eq_left first]
      exact scanned.low_seen
    · rw [min_eq_right second]
      rcases Nat.lt_or_ge value before.index with less | more
      · exact .inr (reached less)
      · exact .inl (le_antisymm (second.trans scanned.low_le) more)
  case added => exact added
  case met =>
    intro next owned
    rcases List.mem_append.mp owned with earlier | last
    · obtain ⟨metNext, bound⟩ := scanned.met next earlier
      exact ⟨keeps.met metNext, fun older => (min_le_left _ _).trans (bound older)⟩
    · rw [List.mem_singleton.mp last]
      exact ⟨met, fun older => (min_le_right _ _).trans (covers older)⟩

/-- A successor that is still stacked. -/
theorem Scanned.back (scanned : Scanned successors path node seen low before now) {successor : α} {value : Nat}
    (edge : successor ∈ successors node) (stacked : successor ∈ now.stack)
    (numbered : now.indices successor = some value) :
    ∃ after, now.lower node value = some after ∧
      Scanned successors path node (seen ++ [successor]) (min low value) before after := by
  have number : now.number successor = value := by
    rw [ComponentSearch.number, numbered]
    rfl
  apply scanned.lowered ⟨fun _ _ => rfl, fun _ _ => rfl⟩ scanned.searching (by rw [numbered]; rfl)
  case covers =>
    intro older
    rw [← scanned.number_old older, number]
  case reached =>
    intro less
    have older := scanned.old_of_lt stacked (by rw [number]; exact less)
    refine ⟨successor, older, ?_, Relation.ReflTransGen.single edge⟩
    rw [← scanned.number_old older, number]
  case added =>
    obtain ⟨younger, split, edges⟩ := scanned.added
    refine ⟨younger, split, ?_⟩
    exact fun member owned next older edge => (min_le_left _ _).trans (edges member owned next older edge)

/-- A successor whose component is closed. -/
theorem Scanned.skip (scanned : Scanned successors path node seen low before now) {successor : α}
    (met : (now.indices successor).isSome) (unstacked : successor ∉ now.stack) :
    Scanned successors path node (seen ++ [successor]) low before now where
  started := scanned.started
  unmet := scanned.unmet
  keeps := scanned.keeps
  searching := scanned.searching
  own := scanned.own
  low_known := scanned.low_known
  low_le := scanned.low_le
  low_seen := scanned.low_seen
  added := scanned.added
  met := by
    intro next owned
    rcases List.mem_append.mp owned with earlier | last
    · exact scanned.met next earlier
    · rw [List.mem_singleton.mp last]
      exact ⟨met, fun older => absurd (scanned.old_stacked older) unstacked⟩

/-- A successor that was not met before is explored first. -/
theorem Scanned.descend (scanned : Scanned successors path node seen low before now) {successor : α} {lowNext : Nat}
    {below : ComponentSearch α} (edge : successor ∈ successors node) (fresh : now.indices successor = none)
    (returns : CallEnds successors (node :: path) successor lowNext now below) :
    ∃ after, below.lower node lowNext = some after ∧
      Scanned successors path node (seen ++ [successor]) (min low lowNext) before after := by
  apply scanned.lowered returns.keeps returns.searching returns.met
  case covers =>
    intro older
    have met := scanned.keeps.met (scanned.started.stacked successor older)
    rw [fresh] at met
    exact absurd met (by simp)
  case reached =>
    intro less
    rcases returns.low_seen with own | older
    · -- the successor closed its own component: its number is above that of the node
      have later := returns.fresh
      have numbered := scanned.searching.numbered node (by rw [scanned.own]; rfl)
      rw [scanned.number_own] at numbered
      omega
    · obtain ⟨member, stacked, number, reach⟩ := older
      have old := scanned.old_of_lt stacked (by rw [number]; exact less)
      refine ⟨member, old, ?_, Relation.ReflTransGen.head edge reach⟩
      rw [← scanned.number_old old, number]
  case added =>
    obtain ⟨first, split, edges⟩ := scanned.added
    obtain ⟨second, splitBelow, edgesBelow⟩ := returns.added
    refine ⟨second ++ first, by rw [splitBelow, split, List.append_assoc], ?_⟩
    intro member owned next older edge
    rcases List.mem_append.mp owned with above | between
    · have bound := edgesBelow member above next (scanned.old_stacked older) edge
      rw [scanned.number_old older] at bound
      exact (min_le_right _ _).trans bound
    · exact (min_le_left _ _).trans (edges member between next older edge)

end

end

end RatchetingInquiry
