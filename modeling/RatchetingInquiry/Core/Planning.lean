import RatchetingInquiry.Claims.Models

/-! Replay-owned deterministic scheduler plan records. -/

namespace RatchetingInquiry

inductive PlanStatus where
  | ready | satisfied | unknown
deriving DecidableEq

inductive PlanReason where
  | stepBudgetExhausted | insufficientEventBudget | noOpenObligation | unresolvedNonopenObligation
  | dependenciesOrAttemptsExhausted | deterministicPriority
deriving DecidableEq

structure AttemptKey where
  obligationFingerprint : String
  contractId : String
  contractVersion : String
  bindingRevision : String
deriving DecidableEq

/-- Only a ready plan selects an obligation and its exact attempt key. -/
structure StepPlan where
  id : String
  inputFingerprint : String
  policyVersion : String
  status : PlanStatus
  selectedObligationId : Option String := none
  selectedAttemptKey : Option AttemptKey := none
  reason : PlanReason
  remainingBudget : Nat
  ready_selects : (status = .ready) = (selectedObligationId.isSome = true) := by decide
  selected_together : selectedObligationId.isSome = selectedAttemptKey.isSome := by decide
deriving DecidableEq

end RatchetingInquiry
