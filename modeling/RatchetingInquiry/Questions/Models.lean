import RatchetingInquiry.Claims.Models

/-! Data-only question contracts. Executable policies are named registry references: a catalog entry
cannot import code, execute a payload or select an arbitrary command. -/

namespace RatchetingInquiry

inductive ContractMaturity where
  | draft | experimental | stable | deprecated
deriving DecidableEq

/-- The one answer shape that the typed binder registry admits. -/
inductive AnswerShape where
  | opaqueL0Inert
deriving DecidableEq

@[ext]
structure QuestionContract where
  id : String
  version : String
  family : String
  inputRoles : List String
  outputClaimRole : ClaimRole
  preconditionPolicyId : String
  renderTemplate : String
  answerShape : AnswerShape := .opaqueL0Inert
  answerSchemaId : String := "rci.inert-payload.v1"
  bindPolicyId : String := "bind-l0-v1"
  reifierId : Option String := none
  verifierId : Option String := none
  updateRuleId : String := "append-provisional-claim-v1"
  nextObligationRuleIds : List String := []
  maturity : ContractMaturity := .draft
  recurrentProbe : Bool := false
  comparisonSemanticsId : Option String := none
  canonicalProbeRendering : Option String := none
  applicabilityGuardId : Option String := none
  historyPolicyId : Option String := none
  roles_unique : inputRoles.Nodup := by decide
  recurrent_pinned : recurrentProbe = true →
    comparisonSemanticsId.isSome ∧ applicabilityGuardId.isSome ∧ historyPolicyId.isSome := by decide

instance : DecidableEq QuestionContract := fun _ _ => decidable_of_iff' _ QuestionContract.ext_iff

def QuestionContract.key (contract : QuestionContract) : String := contract.id ++ "@" ++ contract.version

/-- The contracts that may be scheduled together, by their keys. -/
structure QuestionProfile where
  id : String
  version : String
  contractKeys : List String
deriving DecidableEq

structure QuestionCatalog where
  id : String
  version : String
  contracts : List QuestionContract
  profiles : List QuestionProfile
  keys_unique : (contracts.map QuestionContract.key).Nodup
  profiles_known : ∀ profile ∈ profiles, profile.contractKeys ⊆ contracts.map QuestionContract.key
deriving DecidableEq

end RatchetingInquiry
