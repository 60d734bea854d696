import Mathlib.Data.List.Shortlex
import Mathlib.Data.List.Sort
import Mathlib.Data.String.Basic
import RatchetingInquiry.Library.Frontier

/-! Finite route graphs: the simple routes to a goal and the maximal acyclic executions, both enumerated
breadth first, and what is found from them about a proposed prerequisite. -/

namespace RatchetingInquiry

@[ext]
structure RouteEdge where
  source : String
  target : String
  source_named : source ≠ ""
  target_named : target ≠ ""

@[ext]
structure RouteGraph where
  id : String
  revision : String
  nodes : List String
  edges : List RouteEdge
  start : String
  goal : String
  closedWorld : Bool := true
  nodes_unique : nodes.Nodup
  start_declared : start ∈ nodes
  goal_declared : goal ∈ nodes
  edges_declared : ∀ edge ∈ edges, edge.source ∈ nodes ∧ edge.target ∈ nodes
  edges_unique : (edges.map (fun edge => (edge.source, edge.target))).Nodup

structure RouteDemonstration where
  graph : RouteGraph
  proposedPrerequisite : String
  routes : List (List String)
  maximalExecutions : List (List String)
  bypassRoute : Option (List String)
  mayReach : Bool
  mustReach : Bool
  mustPassPrerequisite : Bool
  controlPromoted : Bool := false

def RouteDemonstration.expectedFindingsHold (found : RouteDemonstration) : Bool :=
  found.mayReach && !found.mustReach && !found.mustPassPrerequisite && !found.controlPromoted &&
    found.bypassRoute.any (fun route => found.proposedPrerequisite ∉ route)

namespace RouteGraph

/-- The sorted successors of a node. -/
def adjacency (graph : RouteGraph) (node : String) : List String :=
  ((graph.edges.filter (fun edge => edge.source = node)).map RouteEdge.target).insertionSort (· ≤ ·)

/-- The successors of the tail of a path that the path has not come to. -/
def routeSuccessors (graph : RouteGraph) (path : List String) : List String :=
  match path.getLast? with
  | some tail => (graph.adjacency tail).filter (fun successor => successor ∉ path)
  | none => []

/-- The paths that go on from a path. -/
def extensions (graph : RouteGraph) (path : List String) : List (List String) :=
  (graph.routeSuccessors path).map (fun successor => path ++ [successor])

def atGoal (graph : RouteGraph) (path : List String) : Bool := path.getLast? = some graph.goal

def isMaximal (graph : RouteGraph) (path : List String) : Bool := graph.routeSuccessors path = []

end RouteGraph

/-- `enumerate_simple_routes`. -/
def enumerateSimpleRoutes (graph : RouteGraph) (fuel : Nat) : Option (List (List String)) :=
  breadthFirst graph.atGoal graph.extensions fuel [[graph.start]] []

/-- `enumerate_maximal_executions`. -/
def enumerateMaximalExecutions (graph : RouteGraph) (fuel : Nat) : Option (List (List String)) :=
  breadthFirst graph.isMaximal graph.extensions fuel [[graph.start]] []

/-- The findings of `route_demonstration`, about any graph and any prerequisite, from what was enumerated. -/
def findingsOf (graph : RouteGraph) (prerequisite : String) (routes maximalExecutions : List (List String)) :
    RouteDemonstration where
  graph := graph
  proposedPrerequisite := prerequisite
  routes := routes
  maximalExecutions := maximalExecutions
  bypassRoute := routes.find? (fun route => prerequisite ∉ route)
  mayReach := routes ≠ []
  mustReach := maximalExecutions ≠ [] ∧ ∀ execution ∈ maximalExecutions, execution.getLast? = some graph.goal
  mustPassPrerequisite := routes ≠ [] ∧ ∀ route ∈ routes, prerequisite ∈ route

def routeFindings (graph : RouteGraph) (prerequisite : String) (fuel : Nat) : Option RouteDemonstration := do
  let routes ← enumerateSimpleRoutes graph fuel
  let maximalExecutions ← enumerateMaximalExecutions graph fuel
  return findingsOf graph prerequisite routes maximalExecutions

theorem bypass_named : "bypass" ≠ "" := by decide
theorem dead_end_named : "dead_end" ≠ "" := by decide
theorem gate_named : "gate" ≠ "" := by decide
theorem start_named : "start" ≠ "" := by decide
theorem target_named : "target" ≠ "" := by decide

def referenceNodes : List String := ["bypass", "dead_end", "gate", "start", "target"]

def referenceEdges : List RouteEdge := [
  ⟨"bypass", "dead_end", bypass_named, dead_end_named⟩,
  ⟨"bypass", "target", bypass_named, target_named⟩,
  ⟨"gate", "target", gate_named, target_named⟩,
  ⟨"start", "bypass", start_named, bypass_named⟩,
  ⟨"start", "gate", start_named, gate_named⟩]

theorem reference_nodes_unique : referenceNodes.Nodup := by decide

theorem reference_start_declared : "start" ∈ referenceNodes := by decide

theorem reference_goal_declared : "target" ∈ referenceNodes := by decide

theorem reference_edges_declared :
    ∀ edge ∈ referenceEdges, edge.source ∈ referenceNodes ∧ edge.target ∈ referenceNodes := by decide

theorem reference_edges_unique : (referenceEdges.map (fun edge => (edge.source, edge.target))).Nodup := by decide

def referenceRouteGraph : RouteGraph where
  id := "two-route-transition-graph"
  revision := "1"
  nodes := referenceNodes
  edges := referenceEdges
  start := "start"
  goal := "target"
  nodes_unique := reference_nodes_unique
  start_declared := reference_start_declared
  goal_declared := reference_goal_declared
  edges_declared := reference_edges_declared
  edges_unique := reference_edges_unique

/-- `route_demonstration`. -/
def routeDemonstration (fuel : Nat) : Option RouteDemonstration := routeFindings referenceRouteGraph "gate" fuel

/-! What the enumerations find. -/

namespace RouteGraph

/-- An edge leads from the one node to the other. -/
def Leads (graph : RouteGraph) (source target : String) : Prop :=
  ∃ edge ∈ graph.edges, edge.source = source ∧ edge.target = target

/-- A walk from the start of the graph. -/
structure Walk (graph : RouteGraph) (path : List String) : Prop where
  starts : path.head? = some graph.start
  follows : path.IsChain graph.Leads

/-- A walk that comes to no node twice. -/
structure SimpleWalk (graph : RouteGraph) (path : List String) : Prop extends graph.Walk path where
  simple : path.Nodup

/-- A walk to the goal. -/
structure Route (graph : RouteGraph) (path : List String) : Prop extends graph.Walk path where
  arrives : path.getLast? = some graph.goal

/-- A walk that no step can continue to a node that it has not come to. -/
def Stops (graph : RouteGraph) (path : List String) : Prop :=
  ∀ tail next, path.getLast? = some tail → graph.Leads tail next → next ∈ path

section
variable {graph : RouteGraph} {path : List String}

theorem mem_adjacency {node successor : String} :
    successor ∈ graph.adjacency node ↔ graph.Leads node successor := by
  simp [adjacency, Leads, and_assoc]

theorem mem_routeSuccessors {successor : String} : successor ∈ graph.routeSuccessors path ↔
    successor ∉ path ∧ ∃ tail, path.getLast? = some tail ∧ graph.Leads tail successor := by
  unfold routeSuccessors
  split
  next tail ends => simp [mem_adjacency, ends, and_comm]
  next empty => simp [empty]

theorem adjacency_increasing (node : String) : (graph.adjacency node).Pairwise (· < ·) := by
  have sorted : (graph.adjacency node).Pairwise (· ≤ ·) := List.pairwise_insertionSort _ _
  have distinct : (graph.adjacency node).Nodup := by
    unfold adjacency
    rw [(List.perm_insertionSort _ _).nodup_iff]
    apply List.Nodup.map_on
    · intro left leftMember right rightMember same
      rw [List.mem_filter, decide_eq_true_eq] at leftMember rightMember
      exact List.inj_on_of_nodup_map graph.edges_unique leftMember.1 rightMember.1
        (Prod.ext (leftMember.2.trans rightMember.2.symm) same)
    · exact graph.edges_unique.of_map.filter _
  exact sorted.imp₂ (fun _ _ below apart => lt_of_le_of_ne below apart) distinct

theorem routeSuccessors_increasing : (graph.routeSuccessors path).Pairwise (· < ·) := by
  unfold routeSuccessors
  split
  next tail _ => exact (adjacency_increasing tail).filter _
  next => exact .nil

/-- A simple walk goes on by a successor, and every simple walk is one that went on so. -/
theorem simpleWalk_concat {successor : String} (begun : path ≠ []) :
    graph.SimpleWalk (path ++ [successor]) ↔ graph.SimpleWalk path ∧ successor ∈ graph.routeSuccessors path := by
  obtain ⟨tail, ends⟩ := Option.isSome_iff_exists.mp (List.getLast?_isSome.mpr begun)
  have chain : (path ++ [successor]).IsChain graph.Leads ↔ path.IsChain graph.Leads ∧ graph.Leads tail successor := by
    simp [List.isChain_append, ends]
  have distinct : (path ++ [successor]).Nodup ↔ path.Nodup ∧ successor ∉ path := by
    rw [List.nodup_append_comm, List.singleton_append, List.nodup_cons, and_comm]
  have head : (path ++ [successor]).head? = path.head? := List.head?_append_of_ne_nil _ begun
  rw [mem_routeSuccessors]
  constructor
  · intro longer
    obtain ⟨follows, last⟩ := chain.mp longer.follows
    obtain ⟨simple, fresh⟩ := distinct.mp longer.simple
    exact ⟨⟨⟨head.symm.trans longer.starts, follows⟩, simple⟩, fresh, tail, ends, last⟩
  · intro shorter
    obtain ⟨walk, fresh, other, same, last⟩ := shorter
    obtain rfl := Option.some.inj (ends.symm.trans same)
    exact ⟨⟨head.trans walk.starts, chain.mpr ⟨walk.follows, last⟩⟩, distinct.mpr ⟨walk.simple, fresh⟩⟩

theorem SimpleWalk.declared (walk : graph.SimpleWalk path) : path ⊆ graph.nodes := by
  induction path using List.reverseRecOn with
  | nil => exact List.nil_subset _
  | append_singleton path successor ih =>
    by_cases begun : path = []
    · rw [begun] at walk ⊢
      have starts := walk.starts
      rw [List.nil_append, List.head?_cons, Option.some.injEq] at starts
      rw [starts]
      simpa using graph.start_declared
    · obtain ⟨earlier, next⟩ := (simpleWalk_concat begun).mp walk
      obtain ⟨-, tail, -, edge, listed, -, target⟩ := mem_routeSuccessors.mp next
      apply List.append_subset.mpr ⟨ih earlier, ?_⟩
      intro node last
      rw [List.mem_singleton.mp last, ← target]
      exact (graph.edges_declared edge listed).2

/-- The candidates of a level are the simple walks of its length that were finished at no earlier node. -/
theorem mem_frontier {finished : List String → Bool} {level : Nat} :
    path ∈ frontier finished graph.extensions level [[graph.start]] ↔ graph.SimpleWalk path ∧
      path.length = level + 1 ∧
      ∀ earlier, earlier ≠ [] → earlier <+: path → earlier ≠ path → finished earlier = false := by
  induction level generalizing path with
  | zero =>
    rw [frontier, List.mem_singleton]
    constructor
    · intro same
      rw [same]
      refine ⟨⟨⟨rfl, .singleton _⟩, List.pairwise_singleton _ _⟩, rfl, ?_⟩
      intro earlier begun within other
      rcases List.prefix_cons_iff.mp within with empty | ⟨rest, rfl, nothing⟩
      · exact absurd empty begun
      · rw [List.prefix_nil.mp nothing] at other
        exact absurd rfl other
    · intro first
      obtain ⟨walk, single, -⟩ := first
      obtain ⟨node, rfl⟩ := List.length_eq_one_iff.mp single
      rw [Option.some.inj walk.starts]
  | succ level ih =>
    rw [frontier, List.mem_flatMap]
    constructor
    · intro listed
      obtain ⟨shorter, member, expanded⟩ := listed
      obtain ⟨going, extended⟩ := mem_expansion.mp expanded
      obtain ⟨successor, next, rfl⟩ := List.mem_map.mp extended
      obtain ⟨walk, long, earlier⟩ := ih.mp member
      have begun : shorter ≠ [] := List.ne_nil_of_length_eq_add_one long
      refine ⟨(simpleWalk_concat begun).mpr ⟨walk, next⟩, by simp [long], ?_⟩
      intro part nonempty within other
      rcases List.prefix_concat_iff.mp within with whole | before
      · exact absurd whole other
      · by_cases same : part = shorter
        · rw [same]
          exact going
        · exact earlier part nonempty before same
    · intro reached
      obtain ⟨walk, long, earlier⟩ := reached
      rcases List.eq_nil_or_concat path with empty | ⟨shorter, successor, rfl⟩
      · rw [empty] at long
        cases long
      · rw [List.concat_eq_append] at walk long earlier ⊢
        rw [List.length_append, List.length_singleton, Nat.succ_inj] at long
        have begun : shorter ≠ [] := List.ne_nil_of_length_eq_add_one long
        obtain ⟨before, next⟩ := (simpleWalk_concat begun).mp walk
        have within : shorter <+: shorter ++ [successor] := List.prefix_append _ _
        have apart : shorter ≠ shorter ++ [successor] := by simp
        refine ⟨shorter, ih.mpr ⟨before, long, ?_⟩, mem_expansion.mpr ⟨earlier shorter begun within apart,
          List.mem_map_of_mem next⟩⟩
        intro part nonempty inside other
        refine earlier part nonempty (inside.trans within) ?_
        intro same
        rw [same] at inside
        have longer := inside.length_le
        simp at longer

theorem frontier_nil (graph : RouteGraph) (finished : List String → Bool) :
    frontier finished graph.extensions graph.nodes.length [[graph.start]] = [] := by
  rw [List.eq_nil_iff_forall_not_mem]
  intro path member
  obtain ⟨walk, long, -⟩ := mem_frontier.mp member
  have bounded := (List.subperm_of_subset walk.simple walk.declared).length_le
  omega

end

/-! The order of the enumerations. -/

theorem lex_append {left right : List String} (sameLength : left.length = right.length)
    (below : List.Lex (· < ·) left right) (first second : List String) :
    List.Lex (· < ·) (left ++ first) (right ++ second) := by
  induction below with
  | nil => simp at sameLength
  | cons _ ih => exact .cons (ih (Nat.succ_inj.mp sameLength))
  | rel less => exact .rel less

theorem shortlex_asymm {left right : List String} (below : List.Shortlex (· < ·) left right) :
    ¬ List.Shortlex (· < ·) right left := by
  intro above
  rcases List.shortlex_def.mp below with shorter | ⟨same, less⟩
  · rcases List.shortlex_def.mp above with longer | ⟨same, -⟩
    · omega
    · omega
  · rcases List.shortlex_def.mp above with longer | ⟨-, more⟩
    · omega
    · exact asymm less more

/-- Paths of one length in lexicographic order. -/
def BesideInOrder (left right : List String) : Prop := left.length = right.length ∧ List.Lex (· < ·) left right

section
variable {graph : RouteGraph} {finished : List String → Bool}

theorem frontier_increasing (level : Nat) :
    (frontier finished graph.extensions level [[graph.start]]).Pairwise BesideInOrder := by
  apply frontier_ordered
  · intro path
    unfold expansion
    split
    next => exact .nil
    next =>
      unfold extensions
      rw [List.pairwise_map]
      apply routeSuccessors_increasing.imp
      intro left right less
      exact ⟨by simp, List.Lex.append_left _ (.rel less) path⟩
  · intro left right beside first firstChild second secondChild
    obtain ⟨x, -, rfl⟩ := List.mem_map.mp (mem_expansion.mp firstChild).2
    obtain ⟨y, -, rfl⟩ := List.mem_map.mp (mem_expansion.mp secondChild).2
    exact ⟨by simp [beside.1], lex_append beside.1 beside.2 [x] [y]⟩
  · exact List.pairwise_singleton _ _

/-- A search of the graph ends, with what is finished among the simple walks that were finished at no earlier node, in
the order of their lengths and, of one length, of their nodes. -/
theorem search_exact (graph : RouteGraph) (finished : List String → Bool) : ∃ enough kept,
    (∀ fuel, enough ≤ fuel → breadthFirst finished graph.extensions fuel [[graph.start]] [] = some kept) ∧
    kept.Pairwise (List.Shortlex (· < ·)) ∧
    ∀ path, path ∈ kept ↔ graph.SimpleWalk path ∧ finished path = true ∧
      ∀ earlier, earlier ≠ [] → earlier <+: path → earlier ≠ path → finished earlier = false := by
  obtain ⟨enough, returns⟩ := breadthFirst_levels [] (frontier_nil graph finished)
  refine ⟨enough, _, returns, ?_, ?_⟩
  · rw [List.nil_append]
    apply levels_ordered
    · intro level
      exact (frontier_increasing level).imp (fun {left right} beside => .of_lex beside.1 beside.2)
    · intro level deeper less first firstMember second secondMember
      apply List.Shortlex.of_length_lt
      rw [(mem_frontier.mp firstMember).2.1, (mem_frontier.mp secondMember).2.1]
      exact Nat.succ_lt_succ less
  · intro path
    rw [List.nil_append, List.mem_flatMap]
    constructor
    · intro listed
      obtain ⟨level, -, member⟩ := listed
      obtain ⟨member, ended⟩ := List.mem_filter.mp member
      obtain ⟨walk, -, earlier⟩ := mem_frontier.mp member
      exact ⟨walk, ended, earlier⟩
    · intro reached
      obtain ⟨walk, ended, earlier⟩ := reached
      have bounded := (List.subperm_of_subset walk.simple walk.declared).length_le
      have begun : path ≠ [] := by
        intro empty
        rw [empty] at walk
        cases walk.starts
      have positive := List.length_pos_iff.mpr begun
      refine ⟨path.length - 1, List.mem_range.mpr (by omega), List.mem_filter.mpr ⟨mem_frontier.mpr ⟨walk, ?_, earlier⟩,
        ended⟩⟩
      omega

end

end RouteGraph

section
variable (graph : RouteGraph)

/-- Every simple route to the goal is enumerated, once, and nothing else is; shorter routes come first. -/
theorem enumerateSimpleRoutes_exact : ∃ enough routes,
    (∀ fuel, enough ≤ fuel → enumerateSimpleRoutes graph fuel = some routes) ∧
    routes.Pairwise (List.Shortlex (· < ·)) ∧
    ∀ path, path ∈ routes ↔ graph.Route path ∧ path.Nodup := by
  obtain ⟨enough, routes, returns, ordered, listed⟩ := RouteGraph.search_exact graph graph.atGoal
  refine ⟨enough, routes, returns, ordered, ?_⟩
  intro path
  rw [listed]
  constructor
  · intro kept
    obtain ⟨walk, arrived, -⟩ := kept
    exact ⟨⟨walk.toWalk, decide_eq_true_eq.mp arrived⟩, walk.simple⟩
  · intro reached
    obtain ⟨route, simple⟩ := reached
    refine ⟨⟨route.toWalk, simple⟩, decide_eq_true_eq.mpr route.arrives, ?_⟩
    -- A simple route comes to the goal at its end only.
    intro earlier begun within apart
    by_contra arrived
    rw [Bool.not_eq_false] at arrived
    obtain ⟨rest, rfl⟩ := within
    have goalEarlier := List.mem_of_getLast? (decide_eq_true_eq.mp arrived)
    have rested : rest ≠ [] := by
      intro nothing
      rw [nothing, List.append_nil] at apart
      exact apart rfl
    have goalLater := route.arrives
    rw [List.getLast?_append_of_ne_nil _ rested] at goalLater
    exact (List.nodup_append.mp simple).2.2 _ goalEarlier _ (List.mem_of_getLast? goalLater) rfl

/-- Every maximal acyclic execution is enumerated, once, and nothing else is; shorter executions come first. -/
theorem enumerateMaximalExecutions_exact : ∃ enough executions,
    (∀ fuel, enough ≤ fuel → enumerateMaximalExecutions graph fuel = some executions) ∧
    executions.Pairwise (List.Shortlex (· < ·)) ∧
    ∀ path, path ∈ executions ↔ graph.SimpleWalk path ∧ graph.Stops path := by
  obtain ⟨enough, executions, returns, ordered, listed⟩ := RouteGraph.search_exact graph graph.isMaximal
  refine ⟨enough, executions, returns, ordered, ?_⟩
  have maximal : ∀ path, graph.isMaximal path = true ↔ graph.Stops path := by
    intro path
    unfold RouteGraph.Stops
    rw [RouteGraph.isMaximal, decide_eq_true_eq, List.eq_nil_iff_forall_not_mem]
    simp only [RouteGraph.mem_routeSuccessors, not_and, not_exists]
    constructor
    · intro ended tail next last leads
      by_contra fresh
      exact ended next fresh tail last leads
    · intro ended next fresh tail last leads
      exact fresh (ended tail next last leads)
  intro path
  rw [listed, maximal]
  constructor
  · intro kept
    exact ⟨kept.1, kept.2.1⟩
  · intro reached
    obtain ⟨walk, ended⟩ := reached
    refine ⟨walk, ended, ?_⟩
    -- Before its end an execution goes on to a node that it has not come to.
    intro earlier begun within apart
    by_contra stopped
    rw [Bool.not_eq_false, maximal] at stopped
    obtain ⟨rest, rfl⟩ := within
    obtain ⟨tail, last⟩ := Option.isSome_iff_exists.mp (List.getLast?_isSome.mpr begun)
    cases rest with
    | nil => exact apart (List.append_nil _).symm
    | cons next rest =>
      have joined := List.isChain_append.mp walk.follows
      have leads : graph.Leads tail next := joined.2.2 tail last next rfl
      exact (List.nodup_append.mp walk.simple).2.2 next (stopped tail next last leads) next (List.mem_cons_self ..) rfl

end

/-- Every simple walk goes on until it stops. -/
theorem RouteGraph.SimpleWalk.goes_on {graph : RouteGraph} {path : List String} (walk : graph.SimpleWalk path) :
    ∃ execution, path <+: execution ∧ graph.SimpleWalk execution ∧ graph.Stops execution := by
  induction left : graph.nodes.length - path.length generalizing path with
  | zero =>
    refine ⟨path, List.prefix_rfl, walk, ?_⟩
    intro tail next last leads
    by_contra fresh
    have begun : path ≠ [] := by
      intro empty
      rw [empty] at last
      cases last
    have longer := (simpleWalk_concat begun).mpr ⟨walk, mem_routeSuccessors.mpr ⟨fresh, tail, last, leads⟩⟩
    have bounded := (List.subperm_of_subset longer.simple longer.declared).length_le
    rw [List.length_append, List.length_singleton] at bounded
    omega
  | succ left ih =>
    by_cases stops : graph.Stops path
    · exact ⟨path, List.prefix_rfl, walk, stops⟩
    · unfold Stops at stops
      push Not at stops
      obtain ⟨tail, next, last, leads, fresh⟩ := stops
      have begun : path ≠ [] := by
        intro empty
        rw [empty] at last
        cases last
      have longer := (simpleWalk_concat begun).mpr ⟨walk, mem_routeSuccessors.mpr ⟨fresh, tail, last, leads⟩⟩
      obtain ⟨execution, within, further⟩ := ih longer (by simp; omega)
      exact ⟨execution, (List.prefix_append _ _).trans within, further⟩

/-- What the findings say of the walks of the graph, simple ones or not. -/
structure RouteDemonstration.Means (found : RouteDemonstration) : Prop where
  routes_ordered : found.routes.Pairwise (List.Shortlex (· < ·))
  routes_exact : ∀ path, path ∈ found.routes ↔ found.graph.Route path ∧ path.Nodup
  executions_ordered : found.maximalExecutions.Pairwise (List.Shortlex (· < ·))
  executions_exact : ∀ path, path ∈ found.maximalExecutions ↔ found.graph.SimpleWalk path ∧ found.graph.Stops path
  may_reach : found.mayReach = true ↔ Relation.ReflTransGen found.graph.Leads found.graph.start found.graph.goal
  must_reach : found.mustReach = true ↔ ∀ execution, found.graph.SimpleWalk execution → found.graph.Stops execution →
    found.graph.Route execution
  must_pass : found.mustPassPrerequisite = true ↔
    Relation.ReflTransGen found.graph.Leads found.graph.start found.graph.goal ∧
      ∀ path, found.graph.Route path → found.proposedPrerequisite ∈ path
  bypass : ∀ route, found.bypassRoute = some route ↔ found.graph.Route route ∧ found.proposedPrerequisite ∉ route ∧
    ∀ other, found.graph.Route other → found.proposedPrerequisite ∉ other →
      other = route ∨ List.Shortlex (· < ·) route other

/-- Some of the nodes of a route are a simple route, and fewer of them unless it is that route. -/
theorem RouteGraph.Route.simplify {graph : RouteGraph} {path : List String} (route : graph.Route path) :
    ∃ simple, graph.Route simple ∧ simple.Nodup ∧ simple ⊆ path ∧ (simple = path ∨ simple.length < path.length) := by
  obtain ⟨simple, starts, ends, follows, distinct, within, shorter⟩ :=
    exists_simple_walk route.starts route.arrives route.follows
  exact ⟨simple, ⟨⟨starts, follows⟩, ends⟩, distinct, within, shorter⟩

/-- The findings come out for every graph, and they are right about all its walks: whether the goal can be reached,
whether every acyclic execution ends there, whether every walk there passes the prerequisite, and which walk past it
is the first. -/
theorem routeFindings_mean (graph : RouteGraph) (prerequisite : String) : ∃ enough found,
    (∀ fuel, enough ≤ fuel → routeFindings graph prerequisite fuel = some found) ∧
    found.graph = graph ∧ found.proposedPrerequisite = prerequisite ∧ found.Means := by
  obtain ⟨enough, routes, returns, ordered, listed⟩ := enumerateSimpleRoutes_exact graph
  obtain ⟨plenty, executions, ends, inOrder, maximal⟩ := enumerateMaximalExecutions_exact graph
  have reaches : routes ≠ [] ↔ Relation.ReflTransGen graph.Leads graph.start graph.goal := by
    rw [reaches_iff_walk]
    constructor
    · intro some_
      obtain ⟨path, member⟩ := List.exists_mem_of_ne_nil _ some_
      obtain ⟨route, -⟩ := (listed path).mp member
      exact ⟨path, route.starts, route.arrives, route.follows⟩
    · intro led
      obtain ⟨path, starts, arrives, follows⟩ := led
      have whole : graph.Route path := ⟨⟨starts, follows⟩, arrives⟩
      obtain ⟨simple, route, distinct, -⟩ := whole.simplify
      exact List.ne_nil_of_mem ((listed simple).mpr ⟨route, distinct⟩)
  refine ⟨max enough plenty, findingsOf graph prerequisite routes executions, ?_, rfl, rfl, ?_⟩
  · intro fuel within
    unfold routeFindings
    rw [returns fuel (le_of_max_le_left within), ends fuel (le_of_max_le_right within)]
    rfl
  · constructor
    · exact ordered
    · exact listed
    · exact inOrder
    · exact maximal
    · exact decide_eq_true_iff.trans reaches
    · refine decide_eq_true_iff.trans ?_
      constructor
      · intro all execution walk stops
        exact ⟨walk.toWalk, all.2 execution ((maximal execution).mpr ⟨walk, stops⟩)⟩
      · intro all
        have first : graph.SimpleWalk [graph.start] := ⟨⟨rfl, .singleton _⟩, List.pairwise_singleton _ _⟩
        obtain ⟨execution, -, walk, stops⟩ := first.goes_on
        refine ⟨List.ne_nil_of_mem ((maximal execution).mpr ⟨walk, stops⟩), ?_⟩
        intro other member
        obtain ⟨walks, halts⟩ := (maximal other).mp member
        exact (all other walks halts).arrives
    · refine decide_eq_true_iff.trans (and_congr reaches ?_)
      constructor
      · intro all path route
        obtain ⟨simple, shorter, distinct, within, -⟩ := route.simplify
        exact within (all simple ((listed simple).mpr ⟨shorter, distinct⟩))
      · intro all route member
        exact all route ((listed route).mp member).1
    · intro route
      change routes.find? _ = some route ↔ _
      rw [find_least ordered (fun _ _ => RouteGraph.shortlex_asymm)]
      simp only [decide_eq_true_eq]
      constructor
      · intro least
        obtain ⟨member, avoids, others⟩ := least
        refine ⟨((listed route).mp member).1, avoids, ?_⟩
        intro other arrives around
        obtain ⟨simple, shorter, distinct, within, fewer⟩ := arrives.simplify
        have found := others simple ((listed simple).mpr ⟨shorter, distinct⟩) (fun passed => around (within passed))
        rcases fewer with rfl | fewer
        · exact found
        · right
          apply List.Shortlex.of_length_lt
          rcases found with rfl | below
          · exact fewer
          · rcases List.shortlex_def.mp below with less | same
            · omega
            · omega
      · intro least
        obtain ⟨arrives, avoids, others⟩ := least
        obtain ⟨simple, shorter, distinct, within, fewer⟩ := arrives.simplify
        have self : simple = route := by
          rcases fewer with same | fewer
          · exact same
          · rcases others simple shorter (fun passed => avoids (within passed)) with same | below
            · exact same
            · rcases List.shortlex_def.mp below with less | same
              · omega
              · omega
        rw [self] at distinct
        refine ⟨(listed route).mpr ⟨arrives, distinct⟩, avoids, ?_⟩
        intro other member around
        exact others other ((listed other).mp member).1 around

example : (routeDemonstration 9).map RouteDemonstration.expectedFindingsHold = some true := by decide

end RatchetingInquiry
