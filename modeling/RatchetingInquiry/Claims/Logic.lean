import RatchetingInquiry.Core.Fingerprints

/-! Pure constructors and structural inference for inquiry claims. -/

namespace RatchetingInquiry

/-- The falsification pressure that a modal or control role calls for. -/
def attackByRole : ClaimRole → Option ObligationKind
  | .necessity => some .necessityCounterexample
  | .sufficiency => some .sufficiencyCounterexample
  | .prerequisite => some .prerequisiteBypass
  | _ => none

/-- The carrier of an attack: the proposition of the claim, or the claim itself when it names none.
An empty proposition id counts as none. -/
def Claim.attackCarrier (claim : Claim) : String :=
  match claim.propositionId with
  | some propositionId => if propositionId = "" then claim.id else propositionId
  | none => claim.id

section
variable [Fingerprints]

/-- `bind_l0_answer` without a given claim id: any JSON answer as inert data, without asserting its
truth. -/
def bindL0Answer (questionContractId : String) (role : ClaimRole) (answer : InertPayload)
    (boundArgs : List BoundArgument) (scope : Scope) (provenance : Provenance) : Except Failure Claim := do
  if names_unique : (boundArgs.map BoundArgument.name).Nodup then
    return { id := "clm_" ++ shortDigest (Fingerprints.digest
                (.l0Claim questionContractId role answer boundArgs scope.fingerprint provenance))
             role, boundArgs, payload := answer, scope, provenance, names_unique }
  else
    throw (.validation "bound argument names must be unique")

/-- The explicit identity used for structural opposition. Opaque payload content is absent from it, and
the canonical JSON of the arguments is represented by the arguments themselves. -/
def Claim.structuralKey (claim : Claim) : Option (String × ClaimRole × List BoundArgument × String) :=
  match claim.propositionId with
  | none => none
  | some propositionId =>
    if claim.polarity = .unspecified then none
    else some (propositionId, claim.role, claim.boundArgs, claim.scope.fingerprint)

/-- One claim asserts what the other denies. -/
def Polarity.opposite (left right : Polarity) : Bool :=
  (left = .positive && right = .negative) || (left = .negative && right = .positive)

/-- Detect only explicit same-proposition opposite-polarity conflict. -/
def structuralConflict (left right : Claim) : Option Conflict :=
  if left.structuralKey = none ∨ left.structuralKey ≠ right.structuralKey then none
  else if ¬ left.polarity.opposite right.polarity then none
  else
    let claimIds := if left.id ≤ right.id then (left.id, right.id) else (right.id, left.id)
    some {
      id := "cnf_" ++ shortDigest (Fingerprints.digest (.conflict claimIds))
      claimIds := claimIds
      kind := .structuralPolarity
      scope := left.scope
      propositionId := left.propositionId }

def conflictObligation (conflict : Conflict) : Obligation where
  id := "obl_" ++ shortDigest (Fingerprints.digest (.conflictObligation conflict.id))
  kind := .localizeConflict
  carrierId := conflict.id
  args := [⟨"left_claim_id", .text conflict.claimIds.1⟩, ⟨"right_claim_id", .text conflict.claimIds.2⟩]
  scope := conflict.scope
  bindingRevision := conflict.scope.bindingRevision
  priorityVector := [100]
  binding_matches_scope := rfl
  names_unique := by simp
  parents_unique := by simp

/-- The mandatory falsification pressure for modal and control claims. -/
def mandatoryAttackObligation (claim : Claim) : Option Obligation :=
  match attackByRole claim.role with
  | none => none
  | some kind =>
    if claim.polarity = .negative then none
    else some {
      id := "obl_" ++ shortDigest (Fingerprints.digest
        (.attackObligation claim.attackCarrier kind claim.scope.fingerprint))
      kind := kind
      carrierId := claim.attackCarrier
      args := [⟨if claim.propositionId.isSome then "proposition_id" else "claim_id", .text claim.attackCarrier⟩]
      scope := claim.scope
      bindingRevision := claim.scope.bindingRevision
      priorityVector := [90]
      binding_matches_scope := rfl
      names_unique := by simp
      parents_unique := by simp }

end

end RatchetingInquiry
