import RatchetingInquiry.Backlog.Models

/-! The explicitly bounded projection of backlog effects onto items. -/

namespace RatchetingInquiry

/-- Replace the item of the same identity, or add the item. -/
def setItem (items : List BacklogItem) (item : BacklogItem) : List BacklogItem :=
  if item.id ∈ items.map BacklogItem.id then items.map (fun prior => if prior.id = item.id then item else prior)
  else items ++ [item]

/-- Items in the order of descending rank and then of identity. -/
def sortedItems (items : List BacklogItem) : List BacklogItem :=
  items.insertionSort (fun left right => right.rank < left.rank ∨ (left.rank = right.rank ∧ left.id ≤ right.id))

/-- One authorized effect on the items, under the constitutional policy that keeps closing
proposal-only. -/
def applyEffect (items : List BacklogItem) (effect : BacklogEffect) : Except Failure (List BacklogItem) := do
  require effect.kind.applicable (.permission "effect close is not authorized for G1 apply")
  match effect.kind, indexBy BacklogItem.id items effect.targetItemId with
  | .create, none =>
    return setItem items {
      id := effect.targetItemId
      fingerprint := effect.fingerprint
      title := effect.title
      protectedConsequence := effect.protectedConsequence
      source := effect.source
      rank := 0
      recurrenceOf := effect.recurrenceOf }
  | .create, some item =>
    require (item.fingerprint = effect.fingerprint)
      (.validation "create effect target identity has different content")
    return items
  | _, none => throw (.validation "non-create effect targets an unknown item")
  | kind, some item =>
    require (item.fingerprint = effect.fingerprint)
      (.validation "effect fingerprint does not match its target item")
    match kind with
    | .rank => return setItem items { item with rank := effect.rank.getD 0 }
    | .block => return setItem items { item with blocked := true }
    | _ => return items

/-- `apply_effects` under the constitutional policy. -/
def applyEffects (items : List BacklogItem) (effects : List BacklogEffect) : Except Failure (List BacklogItem) := do
  let applied ← effects.foldlM applyEffect items
  return sortedItems applied

end RatchetingInquiry
