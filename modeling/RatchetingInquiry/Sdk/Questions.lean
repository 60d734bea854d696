import RatchetingInquiry.Questions.Generated
import RatchetingInquiry.Serialization.Project

/-! The question that is asked for an obligation: a contract of the core profile by its kind, or the compiled question
that it pins, with the text bindings and the envelope that a request carries. -/

namespace RatchetingInquiry

/-- `_CONTRACT_BY_OBLIGATION_KIND`. -/
def contractByObligationKind : ObligationKind → Option String
  | .characterize => some "obligation-characterization"
  | .sameClassVariation => some "same-class-variation"
  | .minimalBoundaryCrossing => some "minimal-boundary-crossing"
  | .proposeFactor => some "factor-proposal"
  | .necessityCounterexample => some "necessity-counterexample"
  | .sufficiencyCounterexample => some "sufficiency-counterexample"
  | .localizeConflict => some "conflict-localization"
  | .characterizeResidual => some "residual-characterization"
  | _ => none

def generatedCandidateArgument : String := "__rci_generated_question_candidate_id"
def generatedDecisionArgument : String := "__rci_generated_question_decision_id"
def generatedCompilationArgument : String := "__rci_generated_question_compilation_id"

/-- The value of an argument, where it is a text. -/
def textArgument (obligation : Obligation) (name : String) : Option String :=
  (obligation.args.find? (fun item => item.name = name)).bind (fun item => item.value.asText)

/-- Every contract of the map is in the core profile. -/
theorem contractByObligationKind_core {kind : ObligationKind} {contractId : String}
    (asked : contractByObligationKind kind = some contractId) :
    ∃ contract, getContract contractId = .ok contract ∧ contract ∈ coreContracts := by
  cases kind <;> simp only [contractByObligationKind, Option.some.injEq, reduceCtorEq] at asked <;> subst asked <;>
    refine ⟨_, rfl, ?_⟩ <;> decide

section
variable [Fingerprints]

/-- The compiled question whose admission the obligation pins. Incomplete or stale pins are a compilation error. -/
def compiledQuestionForObligation (context : Option InquiryContext) (project : ProjectRecords) (obligation : Obligation) :
    Except Failure (Option CompiledQuestionContract) :=
  match textArgument obligation generatedCandidateArgument, textArgument obligation generatedDecisionArgument,
    textArgument obligation generatedCompilationArgument with
  | none, none, none => .ok none
  | some candidateId, some decisionId, some compilationId => do
    let compiled ← compileAdmittedQuestion context project candidateId
    let registered := (generatedQuestionRegistry context project).find? (fun item => item.candidateId = candidateId)
    require (registered = some compiled ∧ decisionId = compiled.decisionId ∧ compilationId = compiled.id ∧
        obligation.carrierId = compiled.limitationId ∧ obligation.bindingRevision = compiled.bindingRevision ∧
        obligation.scope.fingerprint = compiled.scopeFingerprint)
      (.validation "generated question obligation differs from its exact compilation")
    return some compiled
  | _, _, _ => .error (.validation "generated question obligation has incomplete admission pins")

/-- The contract that asks for an obligation, if it has one. A compilation error leaves it without. -/
def contractForObligation (context : Option InquiryContext) (project : ProjectRecords) (obligation : Obligation) :
    Except Failure (Option QuestionContract) :=
  match compiledQuestionForObligation context project obligation with
  | .error _ => .ok none
  | .ok (some compiled) => .ok (some compiled.contract)
  | .ok none =>
    match contractByObligationKind obligation.kind with
    | none => .ok none
    | some contractId => do
      let contract ← getContract contractId
      require (contract.key ∈ coreContracts.map QuestionContract.key)
        (.runtime "only the admitted core-v1 profile may be scheduled")
      return some contract

/-- The lookup of a contract never fails. -/
theorem contractForObligation_ok (context : Option InquiryContext) (project : ProjectRecords) (obligation : Obligation) :
    ∃ contract, contractForObligation context project obligation = .ok contract := by
  unfold contractForObligation
  split
  next => exact ⟨_, rfl⟩
  next => exact ⟨_, rfl⟩
  next =>
    split
    next => exact ⟨_, rfl⟩
    next contractId asked =>
      obtain ⟨contract, known, core⟩ := contractByObligationKind_core asked
      refine ⟨some contract, ?_⟩
      rw [known]
      simp only [bind, Except.bind, require, if_pos (List.mem_map_of_mem core)]
      rfl

end

/-- The text bindings of the input roles. -/
def bindingsForContract (obligation : Obligation) (contract : QuestionContract) : Except Failure (List (String × String)) :=
  contract.inputRoles.mapM (fun role => do
    let value ← found ((indexBy BoundArgument.name obligation.args role).bind (fun item => item.value.asText))
      (.runtime "question obligation lacks a typed text binding")
    return (role, value))

/-- What the input artifact of a manual request says about the question that was asked. -/
structure QuestionEnvelope where
  obligationId : String
  obligationFingerprint : String
  contractId : String
  contractVersion : String
  catalogManifestDigest : String
  contractArtifact : ArtifactRef
  renderedQuestion : String
  generatedCompilationId : Option String := none
  generatedCandidateId : Option String := none
  generatedDecisionId : Option String := none
  generatedProfileId : Option String := none
  generatedComparisonPolicyId : Option String := none
  pins_together : generatedCompilationId.isSome = generatedCandidateId.isSome ∧
    generatedCandidateId.isSome = generatedDecisionId.isSome ∧
    generatedDecisionId.isSome = generatedProfileId.isSome ∧
    generatedProfileId.isSome = generatedComparisonPolicyId.isSome := by decide
deriving DecidableEq

instance : JsonModel QuestionEnvelope :=
  .checked (Fields.of (fun obligationId obligationFingerprint contractId contractVersion catalogManifestDigest
      contractArtifact renderedQuestion generatedCompilationId generatedCandidateId generatedDecisionId
      generatedProfileId generatedComparisonPolicyId =>
      if valid : generatedCompilationId.isSome = generatedCandidateId.isSome ∧
        generatedCandidateId.isSome = generatedDecisionId.isSome ∧
        generatedDecisionId.isSome = generatedProfileId.isSome ∧
        generatedProfileId.isSome = generatedComparisonPolicyId.isSome then
        some ⟨obligationId, obligationFingerprint, contractId, contractVersion, catalogManifestDigest,
          contractArtifact, renderedQuestion, generatedCompilationId, generatedCandidateId, generatedDecisionId,
          generatedProfileId, generatedComparisonPolicyId, valid⟩
      else none)
    |>.literal "schema_version" (.int 1) |>.field "obligation_id" (·.obligationId)
    |>.field "obligation_fingerprint" (·.obligationFingerprint) |>.field "contract_id" (·.contractId)
    |>.field "contract_version" (·.contractVersion) |>.field "catalog_manifest_digest" (·.catalogManifestDigest)
    |>.field "contract_artifact" (·.contractArtifact) |>.field "rendered_question" (·.renderedQuestion)
    |>.optional "generated_compilation_id" (·.generatedCompilationId)
    |>.optional "generated_candidate_id" (·.generatedCandidateId)
    |>.optional "generated_decision_id" (·.generatedDecisionId)
    |>.optional "generated_profile_id" (·.generatedProfileId)
    |>.optional "generated_comparison_policy_id" (·.generatedComparisonPolicyId))
    (by intro envelope; exact dif_pos envelope.pins_together)

end RatchetingInquiry
