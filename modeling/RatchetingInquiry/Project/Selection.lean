import RatchetingInquiry.Learning.Models
import RatchetingInquiry.Project.Models

/-! Pure deterministic selection for project successor frontiers. -/

namespace RatchetingInquiry

def CapabilitySuccessorCandidate.cost (candidate : CapabilitySuccessorCandidate) (axis : String) : Option Nat :=
  (indexBy ProjectCost.axis candidate.estimatedCosts axis).bind ProjectCost.value

def CapabilitySuccessorCandidate.axes (candidate : CapabilitySuccessorCandidate) : List String :=
  candidate.estimatedCosts.map ProjectCost.axis

def CapabilitySuccessorCandidate.costsKnown (candidate : CapabilitySuccessorCandidate) : Bool :=
  candidate.estimatedCosts.all (fun cost => cost.value.isSome)

/-- Both candidates estimate the same axes. -/
def sameAxes (left right : CapabilitySuccessorCandidate) : Bool :=
  left.axes ⊆ right.axes && right.axes ⊆ left.axes

def costNoWorse (left right : CapabilitySuccessorCandidate) : Bool :=
  left.axes.all (fun axis => (left.cost axis).getD 0 ≤ (right.cost axis).getD 0)

/-- An exact, comparable, strict partial-order improvement. -/
def candidateDominates (left right : CapabilitySuccessorCandidate) : Bool :=
  if (left.anchorId, left.limitationId) ≠ (right.anchorId, right.limitationId) then false
  else if ¬ sameAxes left right ∨ ¬ left.costsKnown ∨ ¬ right.costsKnown then false
  else
    let strict :=
      (¬ left.preservedCapabilityIds ⊆ right.preservedCapabilityIds) ∨ (¬ left.gainKinds ⊆ right.gainKinds) ∨
        left.axes.any (fun axis => (left.cost axis).getD 0 < (right.cost axis).getD 0)
    right.preservedCapabilityIds ⊆ left.preservedCapabilityIds && right.gainKinds ⊆ left.gainKinds &&
      costNoWorse left right && strict

/-- All pairs of a list, in order. -/
def orderedPairs {α : Type} : List α → List (α × α)
  | [] => []
  | first :: rest => rest.map (fun second => (first, second)) ++ orderedPairs rest

/-- The reversible nondominated candidates with a discriminator that cost no more than any of them, when
their costs are known over common axes. -/
def costMinima (selectable : List CapabilitySuccessorCandidate) : List CapabilitySuccessorCandidate :=
  if selectable.all (·.costsKnown) ∧ selectable.all (fun left => selectable.all (sameAxes left)) then
    selectable.filter (fun item => selectable.all (costNoWorse item))
  else []

/-- A permutation-stable frontier that selects the smallest discriminator first. -/
def deriveCapabilityFrontier (frontierId : String) (candidates : List CapabilitySuccessorCandidate) :
    Except Failure CapabilityFrontier := do
  let ordered := candidates.insertionSort (fun left right => left.id ≤ right.id)
  let first ← found ordered.head? (.validation "a capability frontier requires candidates")
  require (∀ item ∈ ordered, (item.anchorId, item.limitationId) = (first.anchorId, first.limitationId))
    (.validation "frontier candidates must share an exact anchor and limitation")
  require (ordered.map (·.id)).Nodup (.validation "frontier candidate identities must be unique")
  let nondominated := ordered.filter (fun item =>
    ¬ ordered.any (fun other => other.id ≠ item.id && candidateDominates other item))
  let incomparable := (orderedPairs nondominated).filter (fun (left, right) =>
    ¬ candidateDominates left right && ¬ candidateDominates right left)
  let selected := (costMinima (nondominated.filter (fun item =>
    item.reversible && item.discriminatorId.isSome))).head?
  CapabilityFrontier.validateFrontier {
    id := frontierId
    anchorId := first.anchorId
    limitationId := first.limitationId
    candidateIds := ordered.map (·.id)
    nondominatedCandidateIds := nondominated.map (·.id)
    incomparablePairs := incomparable.map (fun (left, right) => (left.id, right.id))
    selectedDiscriminatorCandidateId := selected.map (·.id)
    status := if selected.isSome then .ready else .unknown }

end RatchetingInquiry
