import RatchetingInquiry.Questions.Generated

/-! Pure confined compilation from an admitted project return to an inert goal candidate. -/

namespace RatchetingInquiry

def goalCompilerVersion : String := "implementation-goal-compiler-v1"
def goalAcceptanceRegistryVersion : String := "project-gate-registry-v1"
def goalMutationRegistryVersion : String := "project-mutation-registry-v1"

def predecessorGateCommands : List String := [
  "uv lock --check",
  "uv sync --dev",
  "uv run python -c \"import rci\"",
  "uv run pytest -q -m \"not optional\"",
  "uv sync --all-extras --dev",
  "uv run ruff format --check .",
  "uv run ruff check .",
  "uv run mypy src/rci tests",
  "uv run pytest -q",
  "uv run pytest -q tests/acceptance",
  "uv run pytest -q tests/acceptance/test_g2a_retrieval_recovery.py",
  "uv run pytest -q tests/acceptance/test_g2b_consolidation_plasticity.py",
  "uv run pytest -q tests/acceptance/test_g3a_history_state.py",
  "uv run pytest -q tests/acceptance/test_recursive_project_inquiry.py",
  "uv run pytest -q tests/acceptance/test_regenerative_questions.py",
  "uv run rci --help",
  "uv build"]

def goalSynthesisCommand : String := "uv run pytest -q tests/acceptance/test_goal_synthesis.py"

def proposedGateCommands : List String := predecessorGateCommands ++ [goalSynthesisCommand]

def allowedMutationRoots : List String :=
  ["src/rci/cli", "src/rci/core", "src/rci/project", "src/rci/sdk.py", "tests"]

def forbiddenAuthorityRoots : List String :=
  [".git", ".github", ".rci/config.toml", "AGENTS.md", "PLAN.md", "RCI_Project_Spec.tex", "docs/adr", "docs/goals",
    "docs/requirements-matrix.md"]

def goalAssumptions : List String :=
  ["existing-effect-protocol-sufficient", "generated-return-is-provisional", "manual-goal-bypass-remains-external",
    "registry-confined-goal-shape-sufficient"]

/-- The text of the one argument with a name. -/
def Obligation.argument (obligation : Obligation) (name : String) : Option String :=
  match obligation.args.filter (fun item => item.name = name) with
  | [item] => item.value.asText
  | _ => none

/-- The records whose identities an admission of the candidate has to cite. -/
def goalAdmissionEvidenceIds (candidate : ImplementationGoalCandidate) : List String :=
  sortedIds [candidate.questionCandidateId, candidate.questionDecisionId, candidate.sourceObligationId,
    candidate.acceptedDecodeId, candidate.sourceClaimId, candidate.downstreamObligationId, candidate.anchorId,
    candidate.limitationId, candidate.frontierId, candidate.selectedCandidateId].dedup

/-- What the compiler reads of the aggregate. -/
structure GoalSources where
  context : Option InquiryContext
  effects : EffectRecords
  claims : ClaimRecords
  project : ProjectRecords

def InquiryState.goalSources (state : InquiryState) : GoalSources where
  context := state.context
  effects := state.toEffectRecords
  claims := state.toClaimRecords
  project := state.toProjectRecords

/-- The requests of an obligation whose result was accepted. -/
def acceptedRequests (effects : EffectRecords) (obligationId : String) : List EffectRequestState :=
  effects.effectRequests.filter (fun item =>
    (indexBy StepPlan.id effects.stepPlans item.request.stepPlanId).any
        (fun plan => plan.selectedObligationId = some obligationId) &&
      item.acceptedDecodedOutcomeId.isSome)

section
variable [Fingerprints]

def gateDigest (commands : List String) : String := Fingerprints.digest (.gate commands)

/-- The goal that an exact source chain derives; every text but the candidate's own comes from a
registry. -/
def derivedGoal (material : GoalMaterial) (anchor : ProjectAnchor) (limitation : CapabilityLimitation)
    (frontier : CapabilityFrontier) (selected : CapabilitySuccessorCandidate) : ImplementationGoalContract where
  id := "goal:" ++ Fingerprints.digest (.goalMaterial material)
  cycleId := "cycle:" ++ Fingerprints.digest (.goalMaterial material)
  anchorId := anchor.id
  frontierId := frontier.id
  candidateId := selected.id
  current := selected.currentState
  desired := selected.desiredState
  separator := limitation.consequentialBoundary
  expectedIncumbentReturn := "No replayable implementation-Goal candidate is derivable."
  expectedCandidateReturn :=
    "One exact admitted return compiles to an inert, controller-admissible Goal candidate."
  preserveCapabilityIds := selected.preservedCapabilityIds
  acceptanceCommands := sortedIds proposedGateCommands
  allowedMutationRoots := sortedIds allowedMutationRoots
  forbiddenAuthorityRoots := sortedIds forbiddenAuthorityRoots
  assumptionIds := sortedIds goalAssumptions
  incumbentGateDigest := gateDigest predecessorGateCommands
  proposedGateDigest := gateDigest proposedGateCommands
  rollbackCondition := "Any protected predecessor command fails or authority expands."
  reopeningCondition :=
    "A lawful return requires a Goal shape, check, or mutation root outside the registries."

/-- Compile one exact source chain. An error is the typed, inert reason why nothing was compiled. -/
def compileImplementationGoalCandidate (sources : GoalSources)
    (sourceObligationId downstreamObligationId frontierId : String) :
    Except String ImplementationGoalCandidate := do
  let context ← found sources.context "inquiry-not-started"
  let source ← found (sources.claims.obligationById sourceObligationId) "source-record-not-owned"
  let downstream ← found (sources.claims.obligationById downstreamObligationId) "source-record-not-owned"
  let frontier ← found (sources.project.capabilityFrontiers.find? (fun item => item.id = frontierId))
    "source-record-not-owned"
  require (downstream.parentObligationIds = [source.id]) "downstream-parent-mismatch"
  require (downstream.argument "generated_return_class_id" = some "goal-derivation-required")
    "return-class-not-goal-derivation"
  let questionCandidateId ← found (source.argument "__rci_generated_question_candidate_id") "question-source-mismatch"
  require (downstream.argument "source_question_candidate_id" = some questionCandidateId) "question-source-mismatch"
  let compiled ← found (compileAdmittedQuestion sources.context sources.project questionCandidateId).toOption
    "question-compilation-not-active"
  require (source.argument "__rci_generated_question_decision_id" = some compiled.decisionId ∧
      source.argument "__rci_generated_question_compilation_id" = some compiled.id ∧
      source.carrierId = compiled.limitationId ∧ source.bindingRevision = compiled.bindingRevision ∧
      source.scope.fingerprint = compiled.scopeFingerprint ∧
      downstream.bindingRevision = compiled.bindingRevision ∧
      downstream.scope.fingerprint = compiled.scopeFingerprint)
    "question-context-mismatch"
  require ((compiled.possibleReturns.filter (fun item => item.returnClassId = "goal-derivation-required" &&
      item.downstreamStateId = downstream.carrierId)).length = 1)
    "return-mapping-ambiguous"
  let request ← match acceptedRequests sources.effects source.id with
    | [request] => pure request
    | _ => throw "accepted-return-not-unique"
  let decoded ← found request.acceptedDecode "accepted-return-not-success"
  let semanticArtifact ← match decoded.result? with
    | some { role := .success _, semanticArtifact, .. } => pure semanticArtifact
    | _ => throw "accepted-return-not-success"
  let claim ← match sources.claims.claims.filter (fun item =>
      some item.id = downstream.argument "source_claim_id") with
    | [claim] => pure claim
    | _ => throw "source-claim-not-unique"
  require (claim.status = .provisional ∧ claim.representationLevel = .l0Opaque ∧
      claim.provenance.sourceId = decoded.externalReturnId ∧
      Fingerprints.digest (.claimRecord claim) = semanticArtifact.digest)
    "source-claim-decode-mismatch"
  let limitation ← found (sources.project.capabilityLimitations.find? (fun item => item.id = compiled.limitationId))
    "frontier-profile-not-applicable"
  let anchor ← found (sources.project.projectAnchors.find? (fun item => item.id = limitation.anchorId))
    "frontier-profile-not-applicable"
  let selected ← found (sources.project.capabilitySuccessorCandidates.find? (fun item =>
      some item.id = frontier.selectedDiscriminatorCandidateId))
    "frontier-profile-not-applicable"
  require (frontier.status = .ready ∧ frontier.anchorId = anchor.id ∧ frontier.limitationId = limitation.id ∧
      selected.anchorId = anchor.id ∧ selected.limitationId = limitation.id ∧
      selected.discriminatorId = some "goal-synthesis-acceptance" ∧
      anchor.gateDigest = gateDigest predecessorGateCommands)
    "frontier-profile-not-applicable"
  let questionCandidate ← found (sources.project.questionContractCandidates.find? (fun item =>
    item.id = compiled.candidateId)) "question-compilation-not-active"
  let questionDecision ← found (sources.project.questionRepertoireDecisions.find? (fun item =>
    item.id = compiled.decisionId)) "question-compilation-not-active"
  let material : GoalMaterial := {
    compiledQuestionId := compiled.id
    acceptedDecodeId := decoded.id
    sourceClaimId := claim.id
    downstreamObligationId := downstream.id
    anchorId := anchor.id
    limitationId := limitation.id
    frontierId := frontier.id
    selectedCandidateId := selected.id
    compilerVersion := goalCompilerVersion
    acceptanceRegistryVersion := goalAcceptanceRegistryVersion
    mutationRegistryVersion := goalMutationRegistryVersion }
  let goal := derivedGoal material anchor limitation frontier selected
  let goalFingerprint := Fingerprints.digest (.goal goal)
  return {
    id := "goal-candidate:" ++ Fingerprints.digest (.goalCandidateMaterial {
      material with
      goalFingerprint := goalFingerprint
      bindingRevision := context.bindingRevision
      scopeFingerprint := context.scopeFingerprint
      protectedHorizonId := context.protectedHorizonId })
    questionCandidateId := questionCandidate.id
    questionCandidateFingerprint := Fingerprints.digest (.questionCandidate questionCandidate)
    questionDecisionId := questionDecision.id
    questionDecisionFingerprint := Fingerprints.digest (.questionDecision questionDecision)
    compiledQuestionId := compiled.id
    compiledQuestionFingerprint := Fingerprints.digest (.compiledQuestion compiled)
    sourceObligationId := source.id
    sourceObligationFingerprint := source.fingerprint
    effectRequestId := request.request.id
    acceptedDecodeId := decoded.id
    acceptedDecodeFingerprint := Fingerprints.digest (.decodeOutcome decoded)
    sourceClaimId := claim.id
    sourceClaimFingerprint := Fingerprints.digest (.claim claim)
    downstreamObligationId := downstream.id
    downstreamObligationFingerprint := downstream.fingerprint
    anchorId := anchor.id
    anchorFingerprint := Fingerprints.digest (.projectAnchor anchor)
    limitationId := limitation.id
    limitationFingerprint := Fingerprints.digest (.capabilityLimitation limitation)
    frontierId := frontier.id
    frontierFingerprint := Fingerprints.digest (.capabilityFrontier frontier)
    selectedCandidateId := selected.id
    selectedCandidateFingerprint := Fingerprints.digest (.capabilitySuccessor selected)
    bindingRevision := context.bindingRevision
    scopeFingerprint := context.scopeFingerprint
    protectedHorizonId := context.protectedHorizonId
    goal := goal
    goalFingerprint := goalFingerprint }

end

end RatchetingInquiry
