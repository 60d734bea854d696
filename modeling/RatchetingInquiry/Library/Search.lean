import Mathlib.Data.List.Basic

/-! Depth-first search for a cycle in a finite graph that is given by a partial successor function. -/

namespace RatchetingInquiry

section
variable {α : Type} [DecidableEq α]

/-- Visit `node` below the path `visiting`. The result is the list of finished nodes, or `none` when the
search meets a node of its own path or a node that is not known. The path never repeats a node, so fuel
for every known node is enough. -/
def visit (successors : α → Option (List α)) : Nat → List α → List α → α → Option (List α)
  | 0, _, visited, node => if node ∈ visited then some visited else none
  | fuel + 1, visiting, visited, node =>
    if node ∈ visiting then none
    else if node ∈ visited then some visited
    else do
      let next ← successors node
      let finished ← next.foldlM (fun visited successor => visit successors fuel (node :: visiting) visited successor) visited
      return node :: finished

/-- Every node is known to the search and no path from it closes a cycle. -/
def searchAcyclic (nodes : List α) (successors : α → Option (List α)) : Bool :=
  (nodes.foldlM (fun visited node => visit successors nodes.length [] visited node) []).isSome

end

end RatchetingInquiry
