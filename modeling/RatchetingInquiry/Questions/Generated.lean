import RatchetingInquiry.Core.State
import RatchetingInquiry.Questions.Catalog

/-! Derived, data-only compilation of admitted question contracts. The compiler creates no writable
registry: it joins project records already owned by the aggregate and emits a rebuildable view only when
the exact active policy, binding, scope and safe question surface agree. -/

namespace RatchetingInquiry

def generatedQuestionPolicyVersion : String := "recursive-question-policy-v1"
def generatedQuestionCompilerVersion : String := "generated-question-compiler-v1"
def generatedQuestionPreconditionPolicy : String := "owned-project-limitation-v1"
def generatedQuestionComparisonPolicy : String := "consequence-distinction-v1"
def generatedQuestionConsumers : List String := ["frontier-builder"]

/-- The identities of the project records by record type, as far as a generated question may refer to
them. Goal candidates and goal admissions are not indexed. -/
def projectReferents (project : ProjectRecords) : List (String × List String) := [
  ("project_anchor", project.projectAnchors.map (·.id)),
  ("capability_limitation", project.capabilityLimitations.map (·.id)),
  ("question_contract_candidate", project.questionContractCandidates.map (·.id)),
  ("question_repertoire_decision", project.questionRepertoireDecisions.map (·.id)),
  ("method_binding_candidate", project.methodBindingCandidates.map (·.id)),
  ("method_admission_decision", project.methodAdmissionDecisions.map (·.id)),
  ("capability_successor_candidate", project.capabilitySuccessorCandidates.map (·.id)),
  ("capability_frontier", project.capabilityFrontiers.map (·.id)),
  ("implementation_goal", project.implementationGoals.map (·.id)),
  ("candidate_environment", project.candidateEnvironments.map (·.id)),
  ("development_evidence", project.developmentEvidence.map (·.id)),
  ("independent_review", project.independentReviews.map (·.id)),
  ("project_successor_decision", project.projectSuccessorDecisions.map (·.id)),
  ("promotion_decision", project.promotionDecisions.map (·.id)),
  ("recursive_cycle_checkpoint", project.recursiveCycleCheckpoints.map (·.id)),
  ("recursive_stop_disposition", project.recursiveStopDispositions.map (·.id))]

/-- The types of the records that carry an identity, one entry for each record. -/
def referentTypes (project : ProjectRecords) (recordId : String) : List String :=
  (projectReferents project).flatMap (fun (recordType, ids) =>
    (ids.filter (fun id => id = recordId)).map (fun _ => recordType))

def compileReferents (project : ProjectRecords) (candidate : QuestionContractCandidate) :
    Except Failure (List CompiledReferent) := do
  require (candidate.limitationId ∈ candidate.typedReferentIds)
    (.validation "generated question must explicitly reference its exact limitation")
  let compiled ← candidate.typedReferentIds.mapM (fun recordId =>
    match referentTypes project recordId with
    | [recordType] => return { recordType, recordId : CompiledReferent }
    | _ => throw (.validation "generated question referents must resolve to one exact owned project record"))
  return compiled.insertionSort (fun left right =>
    left.recordType < right.recordType ∨ (left.recordType = right.recordType ∧ left.recordId ≤ right.recordId))

/-- `_validate_safe_contract`. -/
def validateSafeContract (candidate : QuestionContractCandidate) : Except Failure Unit := do
  let contract := candidate.contract
  require (contract.family = "recursive-project")
    (.validation "generated question is outside the recursive-project family")
  require (contract.maturity = .draft ∨ contract.maturity = .experimental)
    (.validation "generated question must remain draft or experimental")
  require (contract.inputRoles = ["limitation"])
    (.validation "generated question compiler v1 accepts only the exact limitation input role")
  require (contract.key ∉ catalogV04Contracts.map QuestionContract.key)
    (.validation "generated question cannot shadow a sealed catalog contract")
  require (contract.preconditionPolicyId = generatedQuestionPreconditionPolicy ∧
      contract.answerSchemaId = "rci.inert-payload.v1" ∧ contract.bindPolicyId = "bind-l0-v1" ∧
      contract.updateRuleId = "append-provisional-claim-v1" ∧ contract.reifierId = none ∧
      contract.verifierId = none ∧ ¬ contract.recurrentProbe ∧ contract.nextObligationRuleIds = [])
    (.validation "generated question requests an unimplemented or authority-bearing contract seam")
  match renderQuestion contract (contract.inputRoles.map (fun role => (role, role))) with
  | .ok _ => pure ()
  | .error _ => throw (.validation "generated question template and typed input roles do not match")
  require (candidate.preconditionIds = ["owned-limitation"])
    (.validation "generated question has an unknown precondition policy input")
  require (candidate.comparisonPolicyId = generatedQuestionComparisonPolicy)
    (.validation "generated question comparison policy is stale")
  require (candidate.downstreamConsumerIds ⊆ generatedQuestionConsumers)
    (.validation "generated question names an unimplemented downstream consumer")
  require (candidate.possibleReturns.map ConsequentialReturn.returnClassId).Nodup
    (.validation "generated return-class identities must be unique")

/-- The decision admits its candidate into the confined profile under the active policy. -/
def QuestionRepertoireDecision.isActive (decision : QuestionRepertoireDecision) : Bool :=
  decision.outcome = .admitted && decision.profileAdmitted &&
    decision.controllerPolicyVersion = generatedQuestionPolicyVersion

/-- The one decision about a candidate, which has to be an active admission. -/
def activeDecision (project : ProjectRecords) (candidateId : String) : Except Failure QuestionRepertoireDecision :=
  match project.questionRepertoireDecisions.filter (fun item => item.candidateId = candidateId) with
  | [decision] =>
    if decision.isActive then .ok decision
    else .error (.validation "generated question requires one exact active admission decision")
  | _ => .error (.validation "generated question requires one exact active admission decision")

section
variable [Fingerprints]

/-- Compile one exact admitted candidate without mutating aggregate authority. -/
def compileAdmittedQuestion (context : Option InquiryContext) (project : ProjectRecords) (candidateId : String) :
    Except Failure CompiledQuestionContract := do
  let context ← found context (.validation "generated question requires a started inquiry")
  let candidate ← found (project.questionContractCandidates.find? (fun item => item.id = candidateId))
    (.validation "generated question candidate is not owned")
  let decision ← activeDecision project candidate.id
  let limitation ← found (project.capabilityLimitations.find? (fun item => item.id = candidate.limitationId))
    (.validation "generated question limitation is not owned")
  let anchor ← found (project.projectAnchors.find? (fun item => item.id = limitation.anchorId))
    (.validation "generated question requires its clean anchor")
  validateSafeContract candidate
  let referents ← compileReferents project candidate
  let candidateFingerprint := Fingerprints.digest (.questionCandidate candidate)
  let decisionFingerprint := Fingerprints.digest (.questionDecision decision)
  return {
    id := "compiled-question-" ++ shortDigest (Fingerprints.digest (.generatedQuestion {
      candidateFingerprint := candidateFingerprint
      decisionFingerprint := decisionFingerprint
      anchorCommitSha := anchor.commitSha
      bindingRevision := context.bindingRevision
      scopeFingerprint := context.scopeFingerprint
      protectedHorizonId := context.protectedHorizonId
      comparisonPolicyId := candidate.comparisonPolicyId
      compilerVersion := generatedQuestionCompilerVersion }))
    candidateId := candidate.id
    candidateFingerprint := candidateFingerprint
    decisionId := decision.id
    decisionFingerprint := decisionFingerprint
    limitationId := limitation.id
    anchorId := anchor.id
    anchorCommitSha := anchor.commitSha
    bindingRevision := context.bindingRevision
    scopeFingerprint := context.scopeFingerprint
    protectedHorizonId := context.protectedHorizonId
    comparisonPolicyId := candidate.comparisonPolicyId
    contract := candidate.contract
    referents := referents
    possibleReturns := candidate.possibleReturns.insertionSort
      (fun left right => left.returnClassId ≤ right.returnClassId)
    downstreamConsumerIds := candidate.downstreamConsumerIds }

/-- The deterministic confined registry projection for the active policy. -/
def generatedQuestionRegistry (context : Option InquiryContext) (project : ProjectRecords) :
    List CompiledQuestionContract :=
  let active := sortedIds ((project.questionRepertoireDecisions.filter
    QuestionRepertoireDecision.isActive).map (·.candidateId)).dedup
  let compiled := active.filterMap (fun candidateId => (compileAdmittedQuestion context project candidateId).toOption)
  compiled.filter (fun item => compiled.countP (fun other => other.contract.key = item.contract.key) = 1)

end

end RatchetingInquiry
