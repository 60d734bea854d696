import RatchetingInquiry.Library.Components

/-! The component search is exact: it ends, and it reports every strongly connected component that has several
nodes or a loop, sorted and once. -/

namespace RatchetingInquiry

section
variable {α : Type} [LinearOrder α] {successors : α → List α} {path : List α}
variable {before search now after : ComponentSearch α} {node : α}

/-! ### Closing a node -/

theorem popTo_split {younger older : List α} (fresh : node ∉ younger) :
    popTo node (younger ++ node :: older) = some (younger ++ [node], older) := by
  induction younger with
  | nil => simp [popTo]
  | cons first rest ih =>
    have apart : first ≠ node := fun same => fresh (same ▸ List.mem_cons_self)
    rw [List.cons_append, popTo, if_neg apart, ih (fun owned => fresh (List.mem_cons_of_mem _ owned))]
    rfl

section
variable {low : Nat}

/-- Once every successor was scanned, all that the node and the younger stacked nodes lead to is met, and no
older stacked node is below the least number. -/
theorem Scanned.leads (scanned : Scanned successors path node (successors node) low before now)
    {younger : List α} (split : now.stack = younger ++ node :: before.stack)
    (edges : ∀ member ∈ younger, ∀ next ∈ before.stack, next ∈ successors member → low ≤ before.number next)
    {member next : α} (owned : member ∈ younger ++ [node]) (edge : next ∈ successors member) :
    (now.indices next).isSome ∧ (next ∈ before.stack → low ≤ before.number next) := by
  rcases List.mem_append.mp owned with above | last
  · refine ⟨?_, fun older => edges member above next older edge⟩
    have stacked : member ∈ now.stack := by
      rw [split]
      exact List.mem_append_left _ above
    refine scanned.searching.explored member (scanned.searching.stacked member stacked) ?_ next edge
    intro inPath
    have below : member ∈ node :: before.stack :=
      List.cons_subset_cons _ scanned.started.path_stacked inPath
    exact lt_irrefl _ (scanned.searching.number_lt split above below)
  · rw [List.mem_singleton] at last
    exact scanned.met next (last ▸ edge)

/-- What is stacked from `node` on is its component, and no edge leads from it to an older stacked node. -/
structure IsRoot (successors : α → List α) (node : α) (before now : ComponentSearch α) (component : List α) :
    Prop where
  split : now.stack = component ++ before.stack
  distinct : component.Nodup
  disjoint : ∀ member ∈ component, member ∉ before.stack
  connected : ∀ member, member ∈ component ↔ Reach successors node member ∧ Reach successors member node
  leads : ∀ member ∈ component, ∀ next ∈ successors member, (now.indices next).isSome ∧ next ∉ before.stack

omit [LinearOrder α] in
theorem IsRoot.stacked {component : List α} (root : IsRoot successors node before now component) {member : α} :
    member ∈ now.stack ↔ member ∈ component ∨ member ∈ before.stack := by
  rw [root.split, List.mem_append]

omit [LinearOrder α] in
theorem IsRoot.own {component : List α} (root : IsRoot successors node before now component) : node ∈ component :=
  (root.connected node).mpr ⟨.refl, .refl⟩

/-- A node that sees nothing older is the root of its component. -/
theorem Scanned.isRoot (scanned : Scanned successors path node (successors node) before.index before now)
    (calls : ∀ caller ∈ path, Reach successors caller node) {younger : List α}
    (split : now.stack = younger ++ node :: before.stack)
    (edges : ∀ member ∈ younger, ∀ next ∈ before.stack, next ∈ successors member →
      before.index ≤ before.number next) :
    IsRoot successors node before now (younger ++ [node]) := by
  have whole : now.stack = (younger ++ [node]) ++ before.stack := by
    rw [split, List.append_assoc]
    rfl
  have apart := scanned.searching.stack_nodup
  rw [whole, List.nodup_append] at apart
  obtain ⟨distinct, -, disjoint⟩ := apart
  have leads : ∀ member ∈ younger ++ [node], ∀ next ∈ successors member,
      (now.indices next).isSome ∧ next ∉ before.stack := by
    intro member owned next edge
    obtain ⟨met, bound⟩ := scanned.leads split edges owned edge
    exact ⟨met, fun older => absurd (bound older) (Nat.not_le.mpr (scanned.number_old_lt older))⟩
  refine ⟨whole, distinct, fun member owned older => disjoint member owned member older rfl, ?_, leads⟩
  intro member
  constructor
  · intro owned
    have stacked : member ∈ now.stack := by
      rw [whole]
      exact List.mem_append_left _ owned
    have nodeStacked : node ∈ now.stack := by
      rw [split]
      exact List.mem_append_right _ List.mem_cons_self
    constructor
    · apply scanned.searching.forward node nodeStacked member stacked
      rcases List.mem_append.mp owned with above | last
      · exact le_of_lt (scanned.searching.number_lt split above List.mem_cons_self)
      · rw [List.mem_singleton.mp last]
    · apply scanned.searching.stack_reach _ stacked
      intro caller inPath
      rcases List.mem_cons.mp inPath with same | deeper
      · rw [same]
        exact .refl
      · exact calls caller deeper
  · intro ⟨there, back⟩
    -- the stacked nodes from `node` on and the closed ones together are left by no edge
    have within : member ∈ younger ++ [node] ∨ ((now.indices member).isSome ∧ member ∉ now.stack) := by
      clear back
      induction there with
      | refl => exact .inl (List.mem_append_right _ (List.mem_singleton_self _))
      | @tail between next _ edge ih =>
        rcases ih with stacked | closed
        · obtain ⟨met, young⟩ := leads between stacked next edge
          by_cases kept : next ∈ now.stack
          · rw [whole] at kept
            exact .inl ((List.mem_append.mp kept).resolve_right young)
          · exact .inr ⟨met, kept⟩
        · exact .inr (scanned.searching.closed between closed.1 closed.2 next edge)
    rcases within with stacked | closed
    · exact stacked
    · have gone := (scanned.searching.closed_reach closed.1 closed.2 back).2
      rw [split] at gone
      exact absurd (List.mem_append_right _ List.mem_cons_self) gone

omit [LinearOrder α] in
/-- A node on a cycle of its component: the component has several nodes or its root leads to itself. -/
theorem IsRoot.recursive {component : List α} (root : IsRoot successors node before now component) {member : α}
    (owned : member ∈ component) (loop : Relation.TransGen (Follows successors) member member) :
    1 < component.length ∨ node ∈ successors node := by
  rcases Nat.lt_or_ge 1 component.length with several | one
  · exact .inl several
  · obtain ⟨only, same⟩ := List.length_eq_one_iff.mp (le_antisymm one (List.length_pos_of_mem root.own))
    have sole : ∀ other ∈ component, other = node := by
      intro other inside
      have own := root.own
      rw [same, List.mem_singleton] at inside own
      rw [inside, own]
    rw [sole member owned] at loop
    obtain ⟨next, edge, back⟩ := Relation.TransGen.head'_iff.mp loop
    have inside : next ∈ component := (root.connected next).mpr ⟨Relation.ReflTransGen.single edge, back⟩
    exact .inr (sole next inside ▸ edge)

theorem mem_report {component listed : List α} {components : List (List α)} :
    listed ∈ report successors node component components ↔ listed ∈ components ∨
      ((1 < component.length ∨ node ∈ successors node) ∧ listed = component.insertionSort (· ≤ ·)) := by
  unfold report
  dsimp only
  rw [List.length_insertionSort]
  by_cases recursive : 1 < component.length ∨ node ∈ successors node
  · rw [if_pos recursive, List.mem_append, List.mem_singleton]
    simp only [recursive, true_and]
  · rw [if_neg recursive]
    simp only [recursive, false_and, or_false]

section
variable {component : List α}

/-- Every component that is listed after the root was popped is recursive and closed. -/
theorem IsRoot.report_sound (root : IsRoot successors node before now component)
    (searching : Searching successors (node :: path) now) (listed : List α)
    (reported : listed ∈ report successors node component now.components) :
    IsRecursiveComponent (Follows successors) listed ∧
      ∀ member ∈ listed, (now.indices member).isSome ∧ member ∉ before.stack := by
  rcases mem_report.mp reported with earlier | ⟨recursive, same⟩
  · obtain ⟨isComponent, closed⟩ := searching.sound listed earlier
    refine ⟨isComponent, ?_⟩
    intro member owned
    obtain ⟨met, unstacked⟩ := closed member owned
    exact ⟨met, fun older => unstacked (root.stacked.mpr (.inr older))⟩
  · subst same
    have members : ∀ member, member ∈ component.insertionSort (· ≤ ·) ↔ member ∈ component :=
      fun member => List.mem_insertionSort _
    constructor
    · refine ⟨insertionSort_strict root.distinct, ⟨node, (members node).mpr root.own, ?_⟩, ?_⟩
      · exact fun member => (members member).trans (root.connected member)
      · rw [List.length_insertionSort]
        exact recursive.imp id (fun loop => ⟨node, (members node).mpr root.own, loop⟩)
    · intro member owned
      have inside := (members member).mp owned
      exact ⟨searching.stacked member (root.stacked.mpr (.inl inside)), root.disjoint member inside⟩

/-- Every closed node on a cycle is in a listed component. -/
theorem IsRoot.report_complete (root : IsRoot successors node before now component)
    (searching : Searching successors (node :: path) now) {member : α} (met : (now.indices member).isSome)
    (unstacked : member ∉ before.stack) (loop : Relation.TransGen (Follows successors) member member) :
    ∃ listed ∈ report successors node component now.components, member ∈ listed := by
  by_cases stacked : member ∈ now.stack
  · have inside := (root.stacked.mp stacked).resolve_right unstacked
    refine ⟨component.insertionSort (· ≤ ·), ?_, (List.mem_insertionSort _).mpr inside⟩
    exact mem_report.mpr (.inr ⟨root.recursive inside loop, rfl⟩)
  · obtain ⟨listed, reported, owned⟩ := searching.complete member met stacked loop
    exact ⟨listed, mem_report.mpr (.inl reported), owned⟩

theorem IsRoot.report_nodup (root : IsRoot successors node before now component)
    (searching : Searching successors (node :: path) now) :
    (report successors node component now.components).Nodup := by
  unfold report
  dsimp only
  split
  next =>
    refine List.nodup_append.mpr ⟨searching.distinct, List.nodup_singleton _, ?_⟩
    intro listed reported last single same
    rw [List.mem_singleton] at single
    have owned : node ∈ listed := by
      rw [same, single, List.mem_insertionSort]
      exact root.own
    exact ((searching.sound listed reported).2 node owned).2 (root.stacked.mpr (.inl root.own))
  next => exact searching.distinct

/-- The invariant after the component of a root was popped. -/
theorem Scanned.popped (scanned : Scanned successors path node (successors node) before.index before now)
    (root : IsRoot successors node before now component) :
    Searching successors path { now with
      stack := before.stack
      onStack := now.onStack.filter (fun member => member ∉ component)
      components := report successors node component now.components } := by
  have searching := scanned.searching
  have started := scanned.started
  have older : ∀ member ∈ before.stack, member ∈ now.stack := fun member => scanned.old_stacked
  constructor
  case lows => exact searching.lows
  case numbered => exact searching.numbered
  case onStack =>
    intro member
    rw [List.mem_filter, searching.onStack, root.stacked, decide_eq_true_eq]
    constructor
    · intro ⟨owned, off⟩
      exact owned.resolve_left off
    · exact fun owned => ⟨.inr owned, fun inside => root.disjoint member inside owned⟩
  case stacked => exact fun member owned => searching.stacked member (older member owned)
  case descending =>
    have ordered := searching.descending
    rw [root.split, List.pairwise_append] at ordered
    exact ordered.2.1
  case path_stacked => exact started.path_stacked
  case explored =>
    intro member met off next edge
    by_cases same : member = node
    · exact (scanned.met next (same ▸ edge)).1
    · exact searching.explored member met (fun inPath => off ((List.mem_cons.mp inPath).resolve_left same)) next edge
  case closed =>
    intro member met off next edge
    by_cases stacked : member ∈ now.stack
    · exact root.leads member ((root.stacked.mp stacked).resolve_right off) next edge
    · obtain ⟨metNext, unstacked⟩ := searching.closed member met stacked next edge
      exact ⟨metNext, fun old => unstacked (older next old)⟩
  case forward =>
    exact fun first ownedFirst second ownedSecond order =>
      searching.forward first (older first ownedFirst) second (older second ownedSecond) order
  case backward =>
    intro member owned
    obtain ⟨caller, inPath, order, reach⟩ := started.backward member owned
    refine ⟨caller, inPath, ?_, reach⟩
    rw [← scanned.number_old owned, ← scanned.number_old (started.path_stacked inPath)] at order
    exact order
  case sound => exact root.report_sound searching
  case complete => exact fun member => root.report_complete searching
  case distinct => exact root.report_nodup searching

end

/-- The component of a root is popped, and reported when it is recursive. -/
theorem Scanned.close_root (scanned : Scanned successors path node (successors node) before.index before now)
    (calls : ∀ caller ∈ path, Reach successors caller node) :
    ∃ after, now.close successors node = some after ∧
      CallEnds successors path node before.index before after := by
  obtain ⟨younger, split, edges⟩ := scanned.added
  have root := scanned.isRoot calls split edges
  have fresh : node ∉ younger := by
    have distinct := root.distinct
    rw [List.nodup_append] at distinct
    exact fun owned => distinct.2.2 node owned node (List.mem_singleton_self _) rfl
  have popped : younger ++ [node] ⊆ now.onStack := by
    intro member owned
    rw [scanned.searching.onStack]
    exact root.stacked.mpr (.inl owned)
  have closes : now.close successors node = some { now with
      stack := before.stack
      onStack := now.onStack.filter (fun member => member ∉ younger ++ [node])
      components := report successors node (younger ++ [node]) now.components } := by
    simp only [ComponentSearch.close, scanned.low_known, scanned.own, Option.bind_eq_bind, Option.bind_some, if_true,
      split, popTo_split fresh, if_pos popped, Option.pure_def]
  refine ⟨_, closes, ?_⟩
  constructor
  case keeps => exact ⟨scanned.keeps.indices, scanned.keeps.lowlinks⟩
  case searching => exact scanned.popped root
  case met =>
    rw [scanned.own]
    rfl
  case fresh => exact le_of_eq scanned.number_own.symm
  case low_known => exact scanned.low_known
  case low_seen => exact .inl scanned.number_own.symm
  case added => exact ⟨[], rfl, by simp⟩

/-- A node that sees an older one stays stacked with all that is above it. -/
theorem Scanned.close_inner (scanned : Scanned successors path node (successors node) low before now)
    (inner : low ≠ before.index) :
    ∃ after, now.close successors node = some after ∧ CallEnds successors path node low before after := by
  have searching := scanned.searching
  have started := scanned.started
  have closes : now.close successors node = some now := by
    simp only [ComponentSearch.close, scanned.low_known, scanned.own, Option.bind_eq_bind, Option.bind_some,
      if_neg inner, Option.pure_def]
  obtain ⟨seen, stacked, number, reach⟩ := scanned.low_seen.resolve_left inner
  obtain ⟨caller, inPath, order, further⟩ := started.backward seen stacked
  have callerOlder : now.number caller < before.index := by
    rw [scanned.number_old (started.path_stacked inPath)]
    exact scanned.number_old_lt (started.path_stacked inPath)
  refine ⟨now, closes, ?_⟩
  constructor
  case keeps => exact scanned.keeps
  case met =>
    rw [scanned.own]
    rfl
  case fresh => exact le_of_eq scanned.number_own.symm
  case low_known => exact scanned.low_known
  case low_seen => exact .inr ⟨seen, stacked, number, reach⟩
  case added =>
    obtain ⟨younger, split, edges⟩ := scanned.added
    refine ⟨younger ++ [node], by rw [split]; simp, ?_⟩
    exact fun member owned next older edge => (scanned.leads split edges owned edge).2 older
  case searching =>
    refine { searching with path_stacked := ?_, explored := ?_, backward := ?_ }
    case refine_1 => exact fun member owned => searching.path_stacked (List.mem_cons_of_mem _ owned)
    case refine_2 =>
      intro member met off next edge
      by_cases same : member = node
      · exact (scanned.met next (same ▸ edge)).1
      · exact searching.explored member met (fun owned => off ((List.mem_cons.mp owned).resolve_left same)) next edge
    case refine_3 =>
      intro member owned
      obtain ⟨above, inProgress, least, reaches⟩ := searching.backward member owned
      rcases List.mem_cons.mp inProgress with same | deeper
      · -- what reached the node reaches the older caller through what the node saw
        rw [same, scanned.number_own] at least
        rw [same] at reaches
        exact ⟨caller, inPath, by omega, reaches.trans (reach.trans further)⟩
      · exact ⟨above, deeper, least, reaches⟩

theorem Scanned.close (scanned : Scanned successors path node (successors node) low before now)
    (calls : ∀ caller ∈ path, Reach successors caller node) :
    ∃ after, now.close successors node = some after ∧ CallEnds successors path node low before after := by
  by_cases root : low = before.index
  · subst root
    exact scanned.close_root calls
  · exact scanned.close_inner root

end

/-! ### The whole search -/

section
variable {nodes : List α}

/-- A call on an unmet node ends: it never needs more fuel than there are nodes off the path. -/
theorem connect_ends (graph : ∀ node next, next ∈ successors node → node ∈ nodes ∧ next ∈ nodes) (fuel : Nat)
    (started : Searching successors path before) (unmet : before.indices node = none)
    (calls : ∀ caller ∈ path, Reach successors caller node) (distinct : path.Nodup) (within : path ⊆ nodes)
    (owned : node ∈ nodes) (enough : nodes.length ≤ fuel + path.length) :
    ∃ low after, connect successors fuel before node = some after ∧
      CallEnds successors path node low before after := by
  have off : node ∉ path := by
    intro inPath
    have met := started.stacked node (started.path_stacked inPath)
    rw [unmet] at met
    exact absurd met (by simp)
  induction fuel generalizing path before node with
  | zero =>
    have full := (List.subperm_of_subset distinct within).perm_of_length_le (by omega)
    exact absurd (full.symm.subset owned) off
  | succ fuel ih =>
    have scans : ∀ (rest seen : List α) (low : Nat) (now : ComponentSearch α),
        seen ++ rest = successors node → Scanned successors path node seen low before now →
        ∃ low after, rest.foldlM (fun search successor =>
          if search.indices successor = none then do
            let below ← connect successors fuel search successor
            let low ← below.lowlinks successor
            below.lower node low
          else if successor ∈ search.onStack then do
            let seen ← search.indices successor
            search.lower node seen
          else some search) now = some after ∧ Scanned successors path node (successors node) low before after := by
      intro rest
      induction rest with
      | nil =>
        intro seen low now split scanned
        rw [List.append_nil] at split
        exact ⟨low, now, rfl, split ▸ scanned⟩
      | cons successor rest later =>
        intro seen low now split scanned
        have edge : successor ∈ successors node := by
          rw [← split]
          simp
        have split' : (seen ++ [successor]) ++ rest = successors node := by
          rw [List.append_assoc]
          exact split
        rw [List.foldlM_cons]
        by_cases fresh : now.indices successor = none
        · have reaches : ∀ caller ∈ node :: path, Reach successors caller successor := by
            intro caller inPath
            rcases List.mem_cons.mp inPath with same | deeper
            · rw [same]
              exact Relation.ReflTransGen.single edge
            · exact Relation.ReflTransGen.tail (calls caller deeper) edge
          have offPath : successor ∉ node :: path := by
            intro inPath
            have met := scanned.searching.stacked successor (scanned.searching.path_stacked inPath)
            rw [fresh] at met
            exact absurd met (by simp)
          obtain ⟨lowNext, below, called, ends⟩ := ih scanned.searching fresh reaches
            (List.nodup_cons.mpr ⟨off, distinct⟩) (List.cons_subset.mpr ⟨owned, within⟩) (graph node successor edge).2
            (by rw [List.length_cons]; omega) offPath
          obtain ⟨after, lowered, next⟩ := scanned.descend edge fresh ends
          rw [if_pos fresh, called]
          simp only [Option.bind_eq_bind, Option.bind_some, ends.low_known, lowered]
          exact later (seen ++ [successor]) _ after split' next
        · rw [if_neg fresh]
          obtain ⟨value, numbered⟩ := Option.ne_none_iff_exists'.mp fresh
          by_cases stacked : successor ∈ now.onStack
          · obtain ⟨after, lowered, next⟩ :=
              scanned.back edge ((scanned.searching.onStack successor).mp stacked) numbered
            rw [if_pos stacked, numbered]
            simp only [Option.bind_eq_bind, Option.bind_some, lowered]
            exact later (seen ++ [successor]) _ after split' next
          · rw [if_neg stacked]
            have unstacked : successor ∉ now.stack :=
              fun inside => stacked ((scanned.searching.onStack successor).mpr inside)
            exact later (seen ++ [successor]) low now split' (scanned.skip (by rw [numbered]; rfl) unstacked)
    obtain ⟨low, scanned, folded, whole⟩ :=
      scans (successors node) [] before.index (before.enter node) rfl (.start started unmet calls)
    obtain ⟨after, closes, ends⟩ := whole.close calls
    refine ⟨low, after, ?_, ends⟩
    rw [connect, folded]
    exact closes

/-- No node is met before the search starts. -/
theorem Searching.empty (successors : α → List α) : Searching successors [] ({} : ComponentSearch α) := by
  constructor <;> simp

/-- Between two calls from outside nothing is stacked. -/
theorem Searching.stack_nil (kept : Searching successors [] search) : search.stack = [] := by
  apply List.eq_nil_iff_forall_not_mem.mpr
  intro member owned
  obtain ⟨caller, inPath, -⟩ := kept.backward member owned
  simp at inPath

/-- The calls from outside meet every node they are made for. -/
theorem foldlM_connect (graph : ∀ node next, next ∈ successors node → node ∈ nodes ∧ next ∈ nodes)
    (rest : List α) (within : rest ⊆ nodes) (search : ComponentSearch α) (kept : Searching successors [] search) :
    ∃ after, rest.foldlM (fun search node =>
        if search.indices node = none then connect successors nodes.length search node else some search) search =
          some after ∧
      Searching successors [] after ∧ Keeps search after ∧ ∀ node ∈ rest, (after.indices node).isSome := by
  induction rest generalizing search with
  | nil => exact ⟨search, rfl, kept, ⟨fun _ _ => rfl, fun _ _ => rfl⟩, by simp⟩
  | cons node rest ih =>
    obtain ⟨owned, others⟩ := List.cons_subset.mp within
    have first : ∃ between, (if search.indices node = none then connect successors nodes.length search node
        else some search) = some between ∧ Searching successors [] between ∧ Keeps search between ∧
        (between.indices node).isSome := by
      by_cases unmet : search.indices node = none
      · obtain ⟨low, after, called, ends⟩ :=
          connect_ends graph nodes.length kept unmet (by simp) List.nodup_nil (List.nil_subset _) owned (by simp)
        rw [if_pos unmet]
        exact ⟨after, called, ends.searching, ends.keeps, ends.met⟩
      · rw [if_neg unmet]
        exact ⟨search, rfl, kept, ⟨fun _ _ => rfl, fun _ _ => rfl⟩, Option.isSome_iff_ne_none.mpr unmet⟩
    obtain ⟨between, called, keptBetween, keeps, met⟩ := first
    obtain ⟨after, folded, keptAfter, keepsLater, metLater⟩ := ih others between keptBetween
    refine ⟨after, ?_, keptAfter, keeps.trans keepsLater, ?_⟩
    · rw [List.foldlM_cons, called]
      exact folded
    · intro member listed
      rcases List.mem_cons.mp listed with same | later
      · rw [same]
        exact keepsLater.met met
      · exact metLater member later

omit [LinearOrder α] in
theorem Reach.loop {other : α} (apart : node ≠ other) (there : Reach successors node other)
    (back : Reach successors other node) :
    Relation.TransGen (Follows successors) node node := by
  rcases Relation.reflTransGen_iff_eq_or_transGen.mp there with same | path
  · exact absurd same.symm apart
  · exact Relation.TransGen.trans_left path back

/-- A recursive component has a node that reaches itself. -/
theorem IsRecursiveComponent.exists_loop {component : List α}
    (recursive : IsRecursiveComponent (Follows successors) component) :
    ∃ member ∈ component, Relation.TransGen (Follows successors) member member := by
  obtain ⟨root, owned, connected⟩ := recursive.connected
  rcases recursive.recursive with several | ⟨member, inside, edge⟩
  · have distinct : component.Nodup := recursive.ordered.imp (fun less => ne_of_lt less)
    obtain ⟨other, inside, apart⟩ : ∃ other ∈ component, other ≠ root := by
      by_contra alone
      push Not at alone
      have single : component ⊆ [root] := fun member inside => List.mem_singleton.mpr (alone member inside)
      have short := (List.subperm_of_subset distinct single).length_le
      rw [List.length_singleton] at short
      omega
    obtain ⟨there, back⟩ := (connected other).mp inside
    exact ⟨root, owned, Reach.loop apart.symm there back⟩
  · exact ⟨member, inside, .single edge⟩

/-- Sorted components that share a node are equal. -/
theorem IsRecursiveComponent.eq_of_mem {first second : List α} (one : IsRecursiveComponent (Follows successors) first)
    (other : IsRecursiveComponent (Follows successors) second) (left : node ∈ first) (right : node ∈ second) :
    first = second := by
  have members : ∀ {component : List α}, IsRecursiveComponent (Follows successors) component → node ∈ component →
      ∀ member, member ∈ component ↔ Reach successors node member ∧ Reach successors member node := by
    intro component recursive owned member
    obtain ⟨root, -, connected⟩ := recursive.connected
    obtain ⟨there, back⟩ := (connected node).mp owned
    rw [connected member]
    constructor
    · exact fun ⟨out, home⟩ => ⟨back.trans out, home.trans there⟩
    · exact fun ⟨out, home⟩ => ⟨there.trans out, home.trans back⟩
  apply List.Pairwise.eq_of_mem_iff one.ordered other.ordered
  intro member
  rw [members one left, members other right]

/-- The search ends, and its answer lists the recursive components of the graph in order, each once. -/
theorem recursiveComponents_exact (graph : ∀ node next, next ∈ successors node → node ∈ nodes ∧ next ∈ nodes) :
    ∃ components, recursiveComponents successors nodes = some components ∧ components.Pairwise (· < ·) ∧
      ∀ component, component ∈ components ↔ IsRecursiveComponent (Follows successors) component := by
  have within : nodes.insertionSort (· ≤ ·) ⊆ nodes := fun node => (List.mem_insertionSort _).mp
  obtain ⟨search, folded, kept, -, met⟩ := foldlM_connect graph _ within {} (.empty successors)
  refine ⟨search.components.insertionSort (· ≤ ·), ?_, insertionSort_strict kept.distinct, ?_⟩
  · rw [recursiveComponents, folded]
    rfl
  · intro component
    rw [List.mem_insertionSort]
    constructor
    · exact fun listed => (kept.sound component listed).1
    · intro recursive
      obtain ⟨member, owned, loop⟩ := recursive.exists_loop
      obtain ⟨next, edge, -⟩ := Relation.TransGen.head'_iff.mp loop
      have known : member ∈ nodes.insertionSort (· ≤ ·) := (List.mem_insertionSort _).mpr (graph member next edge).1
      have unstacked : member ∉ search.stack := by
        rw [kept.stack_nil]
        exact List.not_mem_nil
      obtain ⟨found, listed, inside⟩ := kept.complete member (met member known) unstacked loop
      rw [recursive.eq_of_mem (kept.sound found listed).1 owned inside]
      exact listed

end

end

end RatchetingInquiry
