import RatchetingInquiry.Project.GoalSynthesis

/-! The compilation of a goal taken apart: the records that it reads, the checks that they pass and the
candidate that they determine. -/

namespace RatchetingInquiry

section
variable [Fingerprints]

/-- The records that one successful compilation joined. -/
structure GoalJoin where
  context : InquiryContext
  source : Obligation
  downstream : Obligation
  frontier : CapabilityFrontier
  questionCandidateId : String
  compiled : CompiledQuestionContract
  request : EffectRequestState
  decoded : DecodeOutcome
  result : CanonicalResult
  claim : Claim
  limitation : CapabilityLimitation
  anchor : ProjectAnchor
  selected : CapabilitySuccessorCandidate
  questionCandidate : QuestionContractCandidate
  questionDecision : QuestionRepertoireDecision

def GoalJoin.material (join : GoalJoin) : GoalMaterial where
  compiledQuestionId := join.compiled.id
  acceptedDecodeId := join.decoded.id
  sourceClaimId := join.claim.id
  downstreamObligationId := join.downstream.id
  anchorId := join.anchor.id
  limitationId := join.limitation.id
  frontierId := join.frontier.id
  selectedCandidateId := join.selected.id
  compilerVersion := goalCompilerVersion
  acceptanceRegistryVersion := goalAcceptanceRegistryVersion
  mutationRegistryVersion := goalMutationRegistryVersion

def GoalJoin.goal (join : GoalJoin) : ImplementationGoalContract :=
  derivedGoal join.material join.anchor join.limitation join.frontier join.selected

/-- The candidate that the joined records determine. -/
def GoalJoin.candidate (join : GoalJoin) : ImplementationGoalCandidate where
  id := "goal-candidate:" ++ Fingerprints.digest (.goalCandidateMaterial {
    join.material with
    goalFingerprint := Fingerprints.digest (.goal join.goal)
    bindingRevision := join.context.bindingRevision
    scopeFingerprint := join.context.scopeFingerprint
    protectedHorizonId := join.context.protectedHorizonId })
  questionCandidateId := join.questionCandidate.id
  questionCandidateFingerprint := Fingerprints.digest (.questionCandidate join.questionCandidate)
  questionDecisionId := join.questionDecision.id
  questionDecisionFingerprint := Fingerprints.digest (.questionDecision join.questionDecision)
  compiledQuestionId := join.compiled.id
  compiledQuestionFingerprint := Fingerprints.digest (.compiledQuestion join.compiled)
  sourceObligationId := join.source.id
  sourceObligationFingerprint := join.source.fingerprint
  effectRequestId := join.request.request.id
  acceptedDecodeId := join.decoded.id
  acceptedDecodeFingerprint := Fingerprints.digest (.decodeOutcome join.decoded)
  sourceClaimId := join.claim.id
  sourceClaimFingerprint := Fingerprints.digest (.claim join.claim)
  downstreamObligationId := join.downstream.id
  downstreamObligationFingerprint := join.downstream.fingerprint
  anchorId := join.anchor.id
  anchorFingerprint := Fingerprints.digest (.projectAnchor join.anchor)
  limitationId := join.limitation.id
  limitationFingerprint := Fingerprints.digest (.capabilityLimitation join.limitation)
  frontierId := join.frontier.id
  frontierFingerprint := Fingerprints.digest (.capabilityFrontier join.frontier)
  selectedCandidateId := join.selected.id
  selectedCandidateFingerprint := Fingerprints.digest (.capabilitySuccessor join.selected)
  bindingRevision := join.context.bindingRevision
  scopeFingerprint := join.context.scopeFingerprint
  protectedHorizonId := join.context.protectedHorizonId
  goal := join.goal
  goalFingerprint := Fingerprints.digest (.goal join.goal)

/-- The checks between the joined records; none of them reads the aggregate. -/
structure GoalJoin.Agrees (join : GoalJoin) : Prop where
  parent : join.downstream.parentObligationIds = [join.source.id]
  return_class : join.downstream.argument "generated_return_class_id" = some "goal-derivation-required"
  question_named : join.source.argument "__rci_generated_question_candidate_id" = some join.questionCandidateId
  question_repeated : join.downstream.argument "source_question_candidate_id" = some join.questionCandidateId
  question_context : join.source.argument "__rci_generated_question_decision_id" = some join.compiled.decisionId ∧
    join.source.argument "__rci_generated_question_compilation_id" = some join.compiled.id ∧
    join.source.carrierId = join.compiled.limitationId ∧
    join.source.bindingRevision = join.compiled.bindingRevision ∧
    join.source.scope.fingerprint = join.compiled.scopeFingerprint ∧
    join.downstream.bindingRevision = join.compiled.bindingRevision ∧
    join.downstream.scope.fingerprint = join.compiled.scopeFingerprint
  return_mapped : (join.compiled.possibleReturns.filter (fun item =>
    item.returnClassId = "goal-derivation-required" &&
      item.downstreamStateId = join.downstream.carrierId)).length = 1
  accepted : join.request.acceptedDecode = some join.decoded
  decoded : join.decoded.result? = some join.result
  success : ∃ operation, join.result.role = .success operation
  claim_sourced : join.claim.status = .provisional ∧ join.claim.representationLevel = .l0Opaque ∧
    join.claim.provenance.sourceId = join.decoded.externalReturnId ∧
    Fingerprints.digest (.claimRecord join.claim) = join.result.semanticArtifact.digest
  profile : join.frontier.status = .ready ∧ join.frontier.anchorId = join.anchor.id ∧
    join.frontier.limitationId = join.limitation.id ∧ join.selected.anchorId = join.anchor.id ∧
    join.selected.limitationId = join.limitation.id ∧
    join.selected.discriminatorId = some "goal-synthesis-acceptance" ∧
    join.anchor.gateDigest = gateDigest predecessorGateCommands

/-- The records that the aggregate returned under the identities that the join names. -/
structure GoalJoin.ReadFrom (join : GoalJoin) (sources : GoalSources)
    (sourceObligationId downstreamObligationId frontierId : String) : Prop where
  context : sources.context = some join.context
  source : sources.claims.obligationById sourceObligationId = some join.source
  downstream : sources.claims.obligationById downstreamObligationId = some join.downstream
  frontier : sources.project.capabilityFrontiers.find? (fun item => item.id = frontierId) = some join.frontier
  compiled : compileAdmittedQuestion sources.context sources.project join.questionCandidateId = .ok join.compiled
  request : acceptedRequests sources.effects join.source.id = [join.request]
  claim : sources.claims.claims.filter (fun item => some item.id = join.downstream.argument "source_claim_id") =
    [join.claim]
  limitation : sources.project.capabilityLimitations.find? (fun item => item.id = join.compiled.limitationId) =
    some join.limitation
  anchor : sources.project.projectAnchors.find? (fun item => item.id = join.limitation.anchorId) = some join.anchor
  selected : sources.project.capabilitySuccessorCandidates.find? (fun item =>
    some item.id = join.frontier.selectedDiscriminatorCandidateId) = some join.selected
  question_candidate : sources.project.questionContractCandidates.find? (fun item =>
    item.id = join.compiled.candidateId) = some join.questionCandidate
  question_decision : sources.project.questionRepertoireDecisions.find? (fun item =>
    item.id = join.compiled.decisionId) = some join.questionDecision

/-- A compilation succeeds exactly when it reads records that agree, and they determine its candidate. -/
theorem compileImplementationGoalCandidate_eq_ok {sources : GoalSources}
    {sourceObligationId downstreamObligationId frontierId : String} {candidate : ImplementationGoalCandidate} :
    compileImplementationGoalCandidate sources sourceObligationId downstreamObligationId frontierId = .ok candidate ↔
      ∃ join : GoalJoin, join.ReadFrom sources sourceObligationId downstreamObligationId frontierId ∧ join.Agrees ∧
        candidate = join.candidate := by
  constructor
  · intro compiled
    unfold compileImplementationGoalCandidate at compiled
    simp only [found_bind_eq_ok, require_bind_eq_ok] at compiled
    obtain ⟨context, started, source, sourceOwned, downstream, downstreamOwned, frontier, frontierOwned, parent,
      returnClass, questionCandidateId, questionNamed, questionRepeated, question, questionCompiled, questionContext,
      returnMapped, rest⟩ := compiled
    split at rest
    next request requested =>
      simp only [pure_bind, found_bind_eq_ok] at rest
      obtain ⟨decoded, accepted, rest⟩ := rest
      split at rest
      next resultId artifact operation decodes =>
        split at rest
        next claim claimed =>
          simp only [found_bind_eq_ok, require_bind_eq_ok] at rest
          obtain ⟨claimSourced, limitation, limited, anchor, anchored, selected, selects, profile, questionCandidate,
            candidateOwned, questionDecision, decisionOwned, built⟩ := rest
          have questionOk : compileAdmittedQuestion sources.context sources.project questionCandidateId =
              .ok question := by
            cases outcome : compileAdmittedQuestion sources.context sources.project questionCandidateId with
            | ok value => simpa [outcome, Except.toOption] using questionCompiled
            | error failure => simp [outcome, Except.toOption] at questionCompiled
          refine ⟨⟨context, source, downstream, frontier, questionCandidateId, question, request, decoded,
            ⟨resultId, artifact, .success operation⟩, claim, limitation, anchor, selected, questionCandidate,
            questionDecision⟩, ?_, ?_, ?_⟩
          · exact ⟨started, sourceOwned, downstreamOwned, frontierOwned, questionOk, requested, claimed, limited,
              anchored, selects, candidateOwned, decisionOwned⟩
          · exact ⟨parent, returnClass, questionNamed, questionRepeated, questionContext, returnMapped, accepted,
              decodes, ⟨operation, rfl⟩, claimSourced, profile⟩
          · exact (Except.ok.inj built).symm
        next => simp [throw, throwThe, MonadExceptOf.throw, bind, Except.bind] at rest
      next => simp [throw, throwThe, MonadExceptOf.throw, bind, Except.bind] at rest
    next => simp [throw, throwThe, MonadExceptOf.throw, bind, Except.bind] at rest
  · intro derived
    obtain ⟨join, read, agrees, rfl⟩ := derived
    obtain ⟨operation, role⟩ := agrees.success
    obtain ⟨context, source, downstream, frontier, questionCandidateId, compiled, request, decoded, result, claim,
      limitation, anchor, selected, questionCandidate, questionDecision⟩ := join
    obtain ⟨resultId, artifact, resultRole⟩ := result
    simp only at role
    subst role
    unfold compileImplementationGoalCandidate
    simp only [found_bind_eq_ok, require_bind_eq_ok]
    refine ⟨context, read.context, source, read.source, downstream, read.downstream, frontier, read.frontier,
      agrees.parent, agrees.return_class, questionCandidateId, agrees.question_named, agrees.question_repeated, compiled,
      by simp [read.compiled, Except.toOption], agrees.question_context, agrees.return_mapped, ?_⟩
    rw [read.request]
    simp only [pure_bind, found_bind_eq_ok]
    refine ⟨decoded, agrees.accepted, ?_⟩
    rw [agrees.decoded]
    simp only
    rw [read.claim]
    simp only [found_bind_eq_ok, require_bind_eq_ok]
    exact ⟨agrees.claim_sourced, limitation, read.limitation, anchor, read.anchor, selected, read.selected,
      agrees.profile, questionCandidate, read.question_candidate, questionDecision, read.question_decision, rfl⟩

end

end RatchetingInquiry
