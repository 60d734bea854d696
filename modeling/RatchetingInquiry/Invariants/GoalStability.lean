import RatchetingInquiry.Invariants.Lawfulness
import RatchetingInquiry.Invariants.Merges
import RatchetingInquiry.Project.Recompilation

/-! Recorded goal candidates are compiled again after every event, from the whole state. Which commands that
are ruled lawful leave every recorded candidate as it compiles. -/

namespace RatchetingInquiry

/-- The state with the records that an event adds, before the aggregate is checked. -/
def InquiryState.extendedBy (state : InquiryState) (event : DomainEvent) : InquiryState :=
  let added := event.body.introduces state
  { state with
    sequence := state.sequence + 1
    backlogEffects := state.backlogEffects ++ added.backlogEffects
    stepPlans := state.stepPlans ++ added.stepPlans
    effectRequests := state.effectRequests.map (event.body.leaves event.head) ++ added.effectRequests
    toClaimRecords := state.toClaimRecords.join added.toClaimRecords
    toWarrantRecords := state.toWarrantRecords.join added.toWarrantRecords
    toProbeRecords := state.toProbeRecords.join added.toProbeRecords
    toRetentionRecords := state.toRetentionRecords.join added.toRetentionRecords
    toRetrievalRecords := state.toRetrievalRecords.join added.toRetrievalRecords
    toRecoveryRecords := state.toRecoveryRecords.join added.toRecoveryRecords
    toLearningRecords := state.toLearningRecords.join added.toLearningRecords
    toCompressionRecords := state.toCompressionRecords.join added.toCompressionRecords
    toProjectRecords := state.toProjectRecords.join added.toProjectRecords }

/-- The step plan of a request selects the obligation. -/
def EffectRecords.plannedFor (effects : EffectRecords) (obligationId : String) (request : EffectRequestState) : Bool :=
  (indexBy StepPlan.id effects.stepPlans request.request.stepPlanId).any (fun plan =>
    plan.selectedObligationId = some obligationId)

/-- The identity that a project command brings in among those that questions may refer to. -/
def ProjectCommand.referentId : ProjectCommand → Option String
  | .recordProjectAnchor anchor => some anchor.id
  | .recordCapabilityLimitation limitation => some limitation.id
  | .recordQuestionContractCandidate candidate => some candidate.id
  | .decideQuestionRepertoire decision => some decision.id
  | .recordMethodBindingCandidate candidate => some candidate.id
  | .decideMethodAdmission decision => some decision.id
  | .recordCapabilitySuccessorCandidate candidate => some candidate.id
  | .recordCapabilityFrontier frontier => some frontier.id
  | .recordImplementationGoalCandidate _ => none
  | .decideGoalAdmission _ => none
  | .sealImplementationGoal goal => some goal.id
  | .recordCandidateEnvironment manifest => some manifest.id
  | .recordDevelopmentEvidence evidence => some evidence.id
  | .recordIndependentReview review => some review.id
  | .decideProjectSuccessor decision => some decision.id
  | .recordPromotionDecision decision => some decision.id
  | .recordRecursiveCycleCheckpoint checkpoint => some checkpoint.id
  | .recordRecursiveStopDisposition disposition => some disposition.id

/-- The question candidate that a project command decides about. -/
def ProjectCommand.decidedQuestion : ProjectCommand → Option String
  | .decideQuestionRepertoire decision => some decision.candidateId
  | _ => none

/-- The command accepts no further result for the source of the goal, decides nothing more about its
question and takes no identity that the question refers to. -/
def CommandBody.keepsGoal (state : InquiryState) (goal : ImplementationGoalCandidate) : CommandBody → Bool
  | .effect (.acceptEffectResult requestId _) =>
    (state.requestById requestId).all (fun request =>
      !state.toEffectRecords.plannedFor goal.sourceObligationId request)
  | .project command =>
    command.decidedQuestion ≠ some goal.questionCandidateId &&
      (state.questionCandidateById goal.questionCandidateId).all (fun candidate =>
        command.referentId.all (fun recordId => recordId ∉ candidate.typedReferentIds))
  | _ => true

def keepsGoals (state : InquiryState) (command : DomainCommand) : Bool :=
  state.implementationGoalCandidates.all (fun goal => command.body.keepsGoal state goal)

section
variable {effects : EffectRecords} {event : EffectEvent} {head : EventMetadata} {request : EffectRequestState}

theorem leaves_decodes : request.decodeOutcomes <+: (event.leaves head request).decodeOutcomes := by
  cases event <;> simp only [EffectEvent.leaves] <;> try split
  all_goals simp

/-- Only the acceptance of a result changes what a request accepted. -/
theorem leaves_accepted (other : ∀ decodeId, event ≠ .effectResultAccepted request.request.id decodeId) :
    (event.leaves head request).acceptedDecodedOutcomeId = request.acceptedDecodedOutcomeId := by
  cases event with
  | effectResultAccepted requestId decodeId =>
    simp only [EffectEvent.leaves]
    split
    next same =>
      subst same
      exact absurd rfl (other decodeId)
    next => rfl
  | _ => simp only [EffectEvent.leaves] <;> try split
         all_goals rfl

end

/-- The accepted requests of an obligation when requests go on and new ones come: those planned for it that
have accepted a result now. -/
theorem acceptedRequests_extended {effects added next : EffectRecords} {leaves : EffectRequestState → EffectRequestState}
    {obligationId : String} (planned : ∀ request ∈ effects.effectRequests,
      request.request.stepPlanId ∈ effects.stepPlans.map StepPlan.id)
    (unique : ((effects.stepPlans ++ added.stepPlans).map StepPlan.id).Nodup)
    (fresh : ∀ request ∈ added.effectRequests, request.acceptedDecodedOutcomeId = none)
    (itself : ∀ request, (leaves request).request = request.request)
    (plans : next.stepPlans = effects.stepPlans ++ added.stepPlans)
    (requests : next.effectRequests = effects.effectRequests.map leaves ++ added.effectRequests) :
    acceptedRequests next obligationId = (effects.effectRequests.filter (fun request =>
      effects.plannedFor obligationId request && (leaves request).acceptedDecodedOutcomeId.isSome)).map leaves := by
  have newcomers : added.effectRequests.filter (fun item =>
      (indexBy StepPlan.id next.stepPlans item.request.stepPlanId).any
        (fun plan => plan.selectedObligationId = some obligationId) && item.acceptedDecodedOutcomeId.isSome) = [] := by
    rw [List.filter_eq_nil_iff]
    intro request member
    simp [fresh request member]
  rw [acceptedRequests, requests, List.filter_append, newcomers, List.append_nil, List.filter_map]
  congr 1
  apply List.filter_congr
  intro request member
  have owned : (indexBy StepPlan.id effects.stepPlans request.request.stepPlanId).isSome :=
    indexBy_isSome_iff.mpr (planned request member)
  obtain ⟨plan, hit⟩ := Option.isSome_iff_exists.mp owned
  have kept : indexBy StepPlan.id next.stepPlans request.request.stepPlanId = some plan := by
    rw [plans]
    exact indexBy_grown (List.prefix_append _ _) unique hit
  simp only [Function.comp_apply, itself, EffectRecords.plannedFor, hit, kept]

/-! What an event brings to the sources of a compilation. -/

section
variable {state : InquiryState} {body : EventBody}

theorem introduced_decision {decision : QuestionRepertoireDecision}
    (member : decision ∈ (body.introduces state).questionRepertoireDecisions) :
    body = .project (.questionRepertoireDecided decision) := by
  cases body with
  | project event => cases event <;> simp_all [EventBody.introduces, ProjectRecords.apply]
  | memory event => cases event <;> simp [EventBody.introduces, InquiryState.applyMemory] at member
  | learning event => cases event <;> simp [EventBody.introduces] at member
  | _ => simp [EventBody.introduces] at member

theorem referentIds_apply (event : ProjectEvent) :
    (ProjectRecords.apply {} event).referentIds = event.command.referentId.toList := by
  cases event <;> simp [ProjectRecords.apply, ProjectRecords.referentIds, projectReferents, ProjectEvent.command,
    ProjectCommand.referentId]

theorem introduced_referent {recordId : String}
    (member : recordId ∈ (body.introduces state).toProjectRecords.referentIds) :
    ∃ event, body = .project event ∧ event.command.referentId = some recordId := by
  cases body with
  | project event =>
    have listed : recordId ∈ event.command.referentId.toList := referentIds_apply event ▸ member
    exact ⟨event, rfl, Option.mem_toList.mp listed⟩
  | memory event =>
    cases event <;> simp [EventBody.introduces, InquiryState.applyMemory, ProjectRecords.referentIds,
      projectReferents] at member
  | learning event =>
    cases event <;> simp [EventBody.introduces, ProjectRecords.referentIds, projectReferents] at member
  | _ => simp [EventBody.introduces, ProjectRecords.referentIds, projectReferents] at member

theorem introduced_request {request : EffectRequestState}
    (member : request ∈ (body.introduces state).effectRequests) : request.acceptedDecodedOutcomeId = none := by
  cases body with
  | effect event =>
    cases event with
    | effectRequested added =>
      obtain rfl : request = { request := added } := by simpa [EventBody.introduces, EffectEvent.introduces] using member
      rfl
    | _ => simp [EventBody.introduces, EffectEvent.introduces] at member
  | memory event => cases event <;> simp [EventBody.introduces, InquiryState.applyMemory] at member
  | learning event => cases event <;> simp [EventBody.introduces] at member
  | _ => simp [EventBody.introduces] at member

theorem introduced_plan {plan : StepPlan} (member : plan ∈ (body.introduces state).stepPlans) :
    body = .effect (.stepPlanRecorded plan) ∧ (body.introduces state).stepPlans = [plan] := by
  cases body with
  | effect event => cases event <;> simp_all [EventBody.introduces, EffectEvent.introduces]
  | memory event => cases event <;> simp [EventBody.introduces, InquiryState.applyMemory] at member
  | learning event => cases event <;> simp [EventBody.introduces] at member
  | _ => simp [EventBody.introduces] at member

theorem introduced_claim {claim : Claim} (member : claim ∈ (body.introduces state).claims) :
    ∃ conflicts obligations, body = .claim (.claimAdmitted claim conflicts obligations) := by
  cases body with
  | claim event => cases event <;> simp_all [EventBody.introduces, ClaimRecords.apply]
  | memory event => cases event <;> simp [EventBody.introduces, InquiryState.applyMemory] at member
  | learning event => cases event <;> simp [EventBody.introduces] at member
  | _ => simp [EventBody.introduces] at member

theorem body_leaves_request {head : EventMetadata} {request : EffectRequestState} :
    (body.leaves head request).request = request.request := by
  cases body with
  | effect event => exact event.leaves_request head request
  | _ => rfl

theorem body_leaves_decodes {head : EventMetadata} {request : EffectRequestState} :
    request.decodeOutcomes <+: (body.leaves head request).decodeOutcomes := by
  cases body with
  | effect event => exact leaves_decodes
  | _ => exact List.prefix_rfl

theorem body_leaves_accepted {head : EventMetadata} {request : EffectRequestState}
    (other : ∀ decodeId, body ≠ .effect (.effectResultAccepted request.request.id decodeId)) :
    (body.leaves head request).acceptedDecodedOutcomeId = request.acceptedDecodedOutcomeId := by
  cases body with
  | effect event => exact leaves_accepted (fun decodeId same => other decodeId (congrArg EventBody.effect same))
  | _ => rfl

section
variable [Fingerprints] {inquiryId : String} {command : CommandBody}

theorem Proposed.plans_unique (valid : AggregateValid state) (proposed : Proposed state inquiryId command body) :
    ((state.stepPlans ++ (body.introduces state).stepPlans).map StepPlan.id).Nodup := by
  have checked := valid.effects
  simp only [validateEffectRecords, require_bind_eq_ok] at checked
  have unique := checked.2.2.1
  cases added : (body.introduces state).stepPlans with
  | nil => simpa using unique
  | cons plan rest =>
    obtain ⟨rfl, alone⟩ := introduced_plan (added ▸ List.mem_cons_self)
    obtain rfl : rest = [] := by simpa [added] using alone
    cases proposed with
    | effect command event active lawful =>
      obtain rfl := decideEffect_command command _ lawful _ rfl
      have unowned := find_eq_none_iff.mp (recordOnce_eq_some.mp lawful).1
      rw [List.map_append, List.map_singleton]
      exact List.nodup_append.mpr ⟨unique, by simp, fun left owned right same => by
        rw [List.mem_singleton] at same
        exact fun equal => unowned (same ▸ equal ▸ owned)⟩

theorem Proposed.claim_fresh (proposed : Proposed state inquiryId command body) {claim : Claim}
    (member : claim ∈ (body.introduces state).claims) : claim.id ∉ state.claims.map Claim.id := by
  obtain ⟨conflicts, obligations, rfl⟩ := introduced_claim member
  cases proposed with
  | claim command event active lawful =>
    obtain rfl := decideClaim_command command _ lawful _ rfl
    exact find_eq_none_iff.mp (recordOnce_eq_some.mp lawful).1

/-- A proposed acceptance is for a request that accepted nothing yet. -/
theorem Proposed.accepts_unresolved {requestId decodeId : String}
    (proposed : Proposed state inquiryId command (.effect (.effectResultAccepted requestId decodeId))) :
    command = .effect (.acceptEffectResult requestId decodeId) ∧
      ∃ request, state.requestById requestId = some request ∧ request.acceptedDecodedOutcomeId = none := by
  cases proposed with
  | effect command event active lawful =>
    obtain rfl := decideEffect_command command _ lawful _ rfl
    refine ⟨rfl, ?_⟩
    simp only [EffectEvent.command, decideEffect, decideAcceptEffectResult, requireRequest, found_bind_eq_ok] at lawful
    obtain ⟨request, hit, rest⟩ := lawful
    refine ⟨request, hit, ?_⟩
    split at rest
    next accepted =>
      split at rest
      next => simp [pure, Except.pure] at rest
      next => simp [throw, throwThe, MonadExceptOf.throw] at rest
    next unresolved => exact unresolved

/-- A request that accepted a result keeps it. -/
theorem Proposed.leaves_resolved {head : EventMetadata} (valid : AggregateValid state)
    (proposed : Proposed state head.inquiryId command body) {request : EffectRequestState}
    (owned : request ∈ state.effectRequests) (resolved : request.acceptedDecodedOutcomeId.isSome) :
    (body.leaves head request).acceptedDecodedOutcomeId = request.acceptedDecodedOutcomeId := by
  refine body_leaves_accepted ?_
  intro decodeId accepting
  subst accepting
  obtain ⟨-, target, hit, unresolved⟩ := proposed.accepts_unresolved
  obtain ⟨targetOwned, named⟩ := requestById_some hit
  obtain rfl : target = request := List.inj_on_of_nodup_map valid.effect_ids.1 targetOwned owned named
  simp [unresolved] at resolved

/-- A command that accepts nothing for the source of the goal leaves its accepted requests as they go on. -/
theorem acceptedRequests_kept {head : EventMetadata} (valid : AggregateValid state)
    (proposed : Proposed state head.inquiryId command body) {goal : ImplementationGoalCandidate}
    (keeps : command.keepsGoal state goal = true) :
    acceptedRequests (state.extendedBy ⟨head, body⟩).toEffectRecords goal.sourceObligationId =
      (acceptedRequests state.toEffectRecords goal.sourceObligationId).map (body.leaves head) := by
  have checked := valid.effects
  simp only [validateEffectRecords, require_bind_eq_ok] at checked
  have planned := checked.2.2.2.1
  rw [acceptedRequests_extended planned (proposed.plans_unique valid) (fun request => introduced_request)
    (fun request => body_leaves_request) rfl rfl]
  congr 1
  apply List.filter_congr
  intro request owned
  by_cases forGoal : state.toEffectRecords.plannedFor goal.sourceObligationId request
  · suffices same : (body.leaves head request).acceptedDecodedOutcomeId = request.acceptedDecodedOutcomeId by
      simp only [same]
      rfl
    refine body_leaves_accepted ?_
    intro decodeId accepting
    subst accepting
    obtain ⟨rfl, target, hit, -⟩ := proposed.accepts_unresolved
    obtain ⟨targetOwned, named⟩ := requestById_some hit
    obtain rfl : target = request := List.inj_on_of_nodup_map valid.effect_ids.1 targetOwned owned named
    simp only [CommandBody.keepsGoal, hit, Option.all_some, forGoal, Bool.not_true] at keeps
    simp at keeps
  · have elsewhere : ¬ (indexBy StepPlan.id state.stepPlans request.request.stepPlanId).any (fun plan =>
        plan.selectedObligationId = some goal.sourceObligationId) = true := forGoal
    simp [forGoal, elsewhere]

theorem goal_joined (valid : AggregateValid state) {goal : ImplementationGoalCandidate}
    (recorded : goal ∈ state.implementationGoalCandidates) :
    ∃ join : GoalJoin, join.ReadFrom state.goalSources goal.sourceObligationId goal.downstreamObligationId
      goal.frontierId ∧ join.Agrees ∧ goal = join.candidate := by
  have checked := valid.project_parts.2.1
  simp only [validateGoals, require_bind_eq_ok] at checked
  exact compileImplementationGoalCandidate_eq_ok.mp (checked.1 goal recorded)

/-- The question candidate that the source obligation names is the one that the goal records. -/
theorem GoalJoin.ReadFrom.question {join : GoalJoin} {sources : GoalSources} {sourceId downstreamId frontierId : String}
    (read : join.ReadFrom sources sourceId downstreamId frontierId) :
    ∃ candidate, sources.project.questionContractCandidates.find? (fun item => item.id = join.questionCandidateId) =
        some candidate ∧ candidate.id = join.questionCandidate.id ∧
      sources.project.questionCandidateById join.questionCandidate.id = some candidate := by
  obtain ⟨candidate, decision, hit, names, -⟩ := compileAdmittedQuestion_unique read.compiled
  have itself : candidate.id = join.questionCandidateId := by simpa using List.find?_some hit
  have recorded : join.questionCandidate.id = join.compiled.candidateId := by
    simpa using List.find?_some read.question_candidate
  refine ⟨candidate, hit, (recorded.trans names).symm, ?_⟩
  rw [ProjectRecords.questionCandidateById, recorded, names, itself]
  exact hit

/-- The records that other commands add change neither what a goal joined nor what it determines. -/
theorem recompiles_of_keeps {head : EventMetadata} (valid : AggregateValid state)
    (proposed : Proposed state head.inquiryId command body) {goal : ImplementationGoalCandidate}
    (recorded : goal ∈ state.implementationGoalCandidates) (keeps : command.keepsGoal state goal = true) :
    compileImplementationGoalCandidate (state.extendedBy ⟨head, body⟩).goalSources goal.sourceObligationId
      goal.downstreamObligationId goal.frontierId = .ok goal := by
  obtain ⟨join, read, agrees, rfl⟩ := goal_joined valid recorded
  obtain ⟨candidate, hit, candidateNamed, owned⟩ := read.question
  have accepted : join.request ∈ acceptedRequests state.toEffectRecords join.source.id := by
    rw [show acceptedRequests state.toEffectRecords join.source.id = [join.request] from read.request]
    exact List.mem_singleton.mpr rfl
  obtain ⟨requestOwned, resolved⟩ := List.mem_filter.mp accepted
  simp only [Bool.and_eq_true] at resolved
  -- the accepted request keeps its result: a proposed acceptance is for another one
  have kept : (body.leaves head join.request).acceptedDecodedOutcomeId = join.request.acceptedDecodedOutcomeId :=
    proposed.leaves_resolved valid requestOwned resolved.2
  have requests := acceptedRequests_kept valid proposed keeps
  rw [show acceptedRequests state.toEffectRecords join.candidate.sourceObligationId = [join.request] from
    read.request] at requests
  refine compileImplementationGoalCandidate_eq_ok.mpr
    ⟨{ join with request := body.leaves head join.request }, ?_, ?_, ?_⟩
  · refine ⟨read.context, (List.prefix_append _ _).find?_eq_some read.source,
      (List.prefix_append _ _).find?_eq_some read.downstream, (List.prefix_append _ _).find?_eq_some read.frontier,
      compileAdmittedQuestion_join read.compiled hit ?_ ?_, requests, ?_,
      (List.prefix_append _ _).find?_eq_some read.limitation, (List.prefix_append _ _).find?_eq_some read.anchor,
      (List.prefix_append _ _).find?_eq_some read.selected,
      (List.prefix_append _ _).find?_eq_some read.question_candidate,
      (List.prefix_append _ _).find?_eq_some read.question_decision⟩
    · intro decision member about
      obtain rfl := introduced_decision member
      obtain ⟨rfl, -⟩ := proposed.project_command
      simp only [CommandBody.keepsGoal, Bool.and_eq_true, decide_eq_true_eq] at keeps
      exact keeps.1 (congrArg some (about.trans candidateNamed))
    · intro recordId typed member
      obtain ⟨event, rfl, names⟩ := introduced_referent member
      obtain ⟨rfl, -⟩ := proposed.project_command
      simp only [CommandBody.keepsGoal, Bool.and_eq_true] at keeps
      have looked : state.questionCandidateById join.candidate.questionCandidateId = some candidate := owned
      rw [looked, names] at keeps
      simp [typed] at keeps
    · have newcomers : (body.introduces state).claims.filter (fun item =>
          some item.id = join.downstream.argument "source_claim_id") = [] := by
        rw [List.filter_eq_nil_iff]
        intro claim member named
        have sourced : join.claim ∈ state.claims.filter (fun item =>
            some item.id = join.downstream.argument "source_claim_id") := by
          rw [show state.claims.filter _ = [join.claim] from read.claim]
          exact List.mem_singleton.mpr rfl
        obtain ⟨claimOwned, claimNamed⟩ := List.mem_filter.mp sourced
        simp only [decide_eq_true_eq] at named claimNamed
        have same : join.claim.id = claim.id := Option.some.inj (claimNamed.trans named.symm)
        exact proposed.claim_fresh member (List.mem_map.mpr ⟨join.claim, claimOwned, same⟩)
      show (state.claims ++ (body.introduces state).claims).filter _ = [join.claim]
      rw [List.filter_append, newcomers, List.append_nil]
      exact read.claim
  · refine { agrees with accepted := ?_ }
    obtain ⟨decodeId, isAccepted, found⟩ := Option.bind_eq_some_iff.mp agrees.accepted
    rw [EffectRequestState.acceptedDecode, kept, isAccepted]
    exact (body_leaves_decodes).find?_eq_some found
  · simp only [GoalJoin.candidate, GoalJoin.goal, GoalJoin.material, body_leaves_request]

/-- The goal is compiled from the same obligations and the same question as before. -/
theorem GoalJoin.ReadFrom.same_question {join later : GoalJoin} {event : DomainEvent} {sourceId downstreamId frontierId : String}
    (read : join.ReadFrom state.goalSources sourceId downstreamId frontierId) (agrees : join.Agrees)
    (readLater : later.ReadFrom (state.extendedBy event).goalSources sourceId downstreamId frontierId)
    (agreesLater : later.Agrees) :
    later.source = join.source ∧ later.questionCandidateId = join.questionCandidateId := by
  have kept : (state.extendedBy event).goalSources.claims.obligationById sourceId = some join.source :=
    (List.prefix_append _ _).find?_eq_some read.source
  have same : later.source = join.source := Option.some.inj (readLater.source.symm.trans kept)
  refine ⟨same, ?_⟩
  have named := agreesLater.question_named
  rw [same, agrees.question_named] at named
  exact (Option.some.inj named).symm

/-- A second accepted result for the source of a goal leaves its accepted request ambiguous. -/
theorem accepts_elsewhere {head : EventMetadata} (valid : AggregateValid state) {requestId decodeId : String}
    (proposed : Proposed state head.inquiryId command (.effect (.effectResultAccepted requestId decodeId)))
    {obligationId : String} {accepted only : EffectRequestState}
    (before : acceptedRequests state.toEffectRecords obligationId = [accepted])
    (after : acceptedRequests (state.extendedBy ⟨head, .effect (.effectResultAccepted requestId decodeId)⟩).toEffectRecords
      obligationId = [only])
    {request : EffectRequestState} (hit : state.requestById requestId = some request) :
    state.toEffectRecords.plannedFor obligationId request = false := by
  by_contra forGoal
  rw [Bool.not_eq_false] at forGoal
  have checked := valid.effects
  simp only [validateEffectRecords, require_bind_eq_ok] at checked
  have planned := checked.2.2.2.1
  rw [acceptedRequests_extended planned (proposed.plans_unique valid) (fun request => introduced_request)
    (fun request => body_leaves_request) rfl rfl] at after
  obtain ⟨owned, named⟩ := requestById_some hit
  obtain ⟨-, target, targetHit, unresolved⟩ := proposed.accepts_unresolved
  obtain rfl : target = request := Option.some.inj (targetHit.symm.trans hit)
  have earlier : accepted ∈ acceptedRequests state.toEffectRecords obligationId := by
    rw [before]
    exact List.mem_singleton.mpr rfl
  obtain ⟨acceptedOwned, resolved⟩ := List.mem_filter.mp earlier
  simp only [Bool.and_eq_true] at resolved
  have kept := proposed.leaves_resolved valid acceptedOwned resolved.2
  have alone : ∀ item ∈ state.effectRequests, state.toEffectRecords.plannedFor obligationId item = true →
      (EventBody.leaves head (.effect (.effectResultAccepted requestId decodeId)) item).acceptedDecodedOutcomeId.isSome →
      EventBody.leaves head (.effect (.effectResultAccepted requestId decodeId)) item = only := by
    intro item member selected acceptedNow
    rw [← List.mem_singleton, ← after]
    exact List.mem_map.mpr ⟨item, List.mem_filter.mpr ⟨member, Bool.and_eq_true_iff.mpr ⟨selected, acceptedNow⟩⟩, rfl⟩
  have first := alone accepted acceptedOwned resolved.1 (kept ▸ resolved.2)
  have second := alone target owned forGoal (by simp [EventBody.leaves, EffectEvent.leaves, named])
  -- both are the one accepted request, but only one of them had accepted a result
  have same := congrArg (fun item => item.request.id) (second.trans first.symm)
  simp only [body_leaves_request] at same
  obtain rfl : target = accepted := List.inj_on_of_nodup_map valid.effect_ids.1 owned acceptedOwned same
  simp [unresolved] at resolved

theorem keeps_of_recompiles {head : EventMetadata} (valid : AggregateValid state)
    (proposed : Proposed state head.inquiryId command body) {goal : ImplementationGoalCandidate}
    (recorded : goal ∈ state.implementationGoalCandidates)
    (again : compileImplementationGoalCandidate (state.extendedBy ⟨head, body⟩).goalSources goal.sourceObligationId
      goal.downstreamObligationId goal.frontierId = .ok goal) : command.keepsGoal state goal = true := by
  obtain ⟨join, read, agrees, rfl⟩ := goal_joined valid recorded
  obtain ⟨later, readLater, agreesLater, -⟩ := compileImplementationGoalCandidate_eq_ok.mp again
  obtain ⟨sameSource, sameQuestion⟩ := read.same_question agrees readLater agreesLater
  obtain ⟨candidate, hit, candidateNamed, owned⟩ := read.question
  cases proposed with
  | effect command event active lawful =>
    obtain rfl := decideEffect_command command _ lawful _ rfl
    cases event with
    | effectResultAccepted requestId decodeId =>
      have accepting := Proposed.effect _ _ active lawful
      have after := readLater.request
      rw [sameSource] at after
      show (state.requestById requestId).all _ = true
      rw [Option.all_eq_true]
      intro request requestHit
      have elsewhere : state.toEffectRecords.plannedFor join.candidate.sourceObligationId request = false :=
        accepts_elsewhere valid accepting read.request after requestHit
      rw [elsewhere]
      rfl
    | _ => rfl
  | project command event active lawful =>
    obtain rfl := decideProject_command command _ lawful _ rfl
    have compiledLater := readLater.compiled
    rw [sameQuestion] at compiledLater
    obtain ⟨undecided, unnamed⟩ := compileAdmittedQuestion_join_unique read.compiled hit compiledLater
    have looked : state.questionCandidateById join.candidate.questionCandidateId = some candidate := owned
    simp only [CommandBody.keepsGoal, Bool.and_eq_true, decide_eq_true_eq, looked, Option.all_some, Option.all_eq_true]
    constructor
    · intro about
      cases event with
      | questionRepertoireDecided decision =>
        refine undecided decision (List.mem_singleton.mpr rfl) ?_
        exact (Option.some.inj about).trans candidateNamed.symm
      | _ => simp [ProjectEvent.command, ProjectCommand.decidedQuestion] at about
    · intro recordId brings typed
      refine unnamed recordId typed ?_
      show recordId ∈ (ProjectRecords.apply {} event).referentIds
      rw [referentIds_apply, Option.mem_toList]
      exact brings
  | _ => rfl

/-- A running inquiry goes on to the state with the added records, when the aggregate check accepts it. -/
theorem evolve_extendedBy {event : DomainEvent} {next : InquiryState} (reached : Reachable state)
    (running : state.status ≠ .notStarted) (evolved : evolve state event = .ok next) :
    next = state.extendedBy event := by
  have appended := append_only reached evolved
  have effects : next.toEffectRecords = (state.extendedBy event).toEffectRecords := by
    rw [EffectRecords.mk.injEq]
    exact ⟨appended.effects.backlog, appended.effects.plans, appended.effects.requests⟩
  exact InquiryState.mk.injEq .. ▸ ⟨appended.pins running, effects, appended.records.claims, appended.records.warrants,
    appended.records.probes, appended.records.retention, appended.records.retrieval, appended.records.recovery,
    appended.records.learning, appended.records.compression, appended.records.project⟩

/-- After a command that is ruled lawful, the recorded goal candidates compile as before exactly when the
command keeps their sources unique; and the state with its records is the one that the reducer goes on to,
if it accepts the event. -/
theorem goals_stable (state : InquiryState) (command : DomainCommand) (event : DomainEvent) (reached : Reachable state)
    (decided : decide state command = .ok [event]) :
    ((∀ goal ∈ state.implementationGoalCandidates,
      compileImplementationGoalCandidate (state.extendedBy event).goalSources goal.sourceObligationId
        goal.downstreamObligationId goal.frontierId = .ok goal) ↔ keepsGoals state command = true) ∧
      ∀ next, state.status ≠ .notStarted → evolve state event = .ok next → next = state.extendedBy event := by
  have valid := reached.replayable.aggregateValid
  obtain ⟨head, bodyDecided⟩ := decide_singleton.mp decided
  rw [← head] at bodyDecided
  have proposed := decideBody_proposed bodyDecided
  refine ⟨?_, fun next running evolved => evolve_extendedBy reached running evolved⟩
  rw [keepsGoals, List.all_eq_true]
  constructor
  · intro stable goal recorded
    exact keeps_of_recompiles valid proposed recorded (stable goal recorded)
  · intro keeps goal recorded
    exact recompiles_of_keeps valid proposed recorded (keeps goal recorded)

end

end

/-! A generated question of the worked project is admitted and answered, and its answer compiles to a goal. -/

namespace Worked

theorem not_recurrent : false = true → (none : Option String).isSome ∧ (none : Option String).isSome ∧
    (none : Option String).isSome := by simp

def generatedContract : QuestionContract where
  id := "generated"
  version := "1.0.0"
  family := "recursive-project"
  inputRoles := ["limitation"]
  outputClaimRole := .characterization
  preconditionPolicyId := generatedQuestionPreconditionPolicy
  renderTemplate := "What removes \x7blimitation\x7d?"
  recurrent_pinned := not_recurrent

def generatedQuestion : QuestionContractCandidate where
  id := "question"
  limitationId := "limitation"
  contract := generatedContract
  typedReferentIds := ["limitation"]
  preconditionIds := ["owned-limitation"]
  possibleReturns := [⟨"goal-derivation-required", "derive", .implementation⟩, ⟨"nothing", "stop", .theory⟩]
  comparisonPolicyId := generatedQuestionComparisonPolicy
  downstreamConsumerIds := ["frontier-builder"]
  falsifyingAttackIds := ["attack"]

/-- The generated question is admitted on the evidence of the first goal. -/
def questionAdmission (id : String) : CommandBody :=
  .project (.decideQuestionRepertoire {
    id := id
    candidateId := "question"
    outcome := .admitted
    controllerPolicyVersion := generatedQuestionPolicyVersion
    evidenceIds := ["evidence"]
    profileAdmitted := true
    evidence_canonical := given_singleton "evidence" })

def generatedObligation : Obligation where
  id := "source"
  kind := .characterize
  carrierId := "limitation"
  args := [⟨"__rci_generated_question_candidate_id", .text "question"⟩,
    ⟨"__rci_generated_question_decision_id", .text "admission"⟩,
    ⟨"__rci_generated_question_compilation_id", .text "compiled-question-other"⟩]
  scope := scope
  bindingRevision := "binding"

def generatedPlan : StepPlan where
  id := "plan"
  inputFingerprint := "input"
  policyVersion := "scheduler"
  status := .ready
  selectedObligationId := some "source"
  selectedAttemptKey := some ⟨generatedObligation.fingerprint, "contract", "1", "binding"⟩
  reason := .deterministicPriority
  remainingBudget := 1
  ready_selects := by simp

def answerClaim : Claim where
  id := "claim-answer"
  role := .characterization
  boundArgs := []
  payload := .json .null
  scope := scope
  provenance := ⟨"manual", "return-a", none⟩

def downstreamObligation : Obligation where
  id := "downstream"
  kind := .characterize
  carrierId := "derive"
  args := [⟨"generated_return_class_id", .text "goal-derivation-required"⟩,
    ⟨"source_question_candidate_id", .text "question"⟩, ⟨"source_claim_id", .text "claim-answer"⟩]
  scope := scope
  bindingRevision := "binding"
  parentObligationIds := ["source"]

/-- The claim arrives as the decoded result of the captured return. -/
def answerDecode : DecodeOutcome :=
  { decoding "decode-a" "a" "result-a" with
    body := .decoded ⟨"result-a", artifact (Fingerprints.digest (.claimRecord answerClaim)), .success "operation"⟩ }

def answered : List CommandBody := start :: developed ++ [
  .project (.recordQuestionContractCandidate generatedQuestion),
  questionAdmission "admission",
  .claim (.openObligation generatedObligation),
  .effect (.recordStepPlan generatedPlan)] ++ (acceptance "a" "result-a").take 4 ++ [
  .effect (.recordDecodeOutcome "request-a" answerDecode),
  .effect (.acceptEffectResult "request-a" "decode-a"),
  .claim (.admitClaim answerClaim),
  .claim (.openObligation downstreamObligation)]

/-- The goal that the answered question compiles to. -/
def answeredGoal : Except String ImplementationGoalCandidate :=
  compileImplementationGoalCandidate (reached answered).goalSources "source" "downstream" "frontier"

/-- The inquiry after the compiled goal was recorded. -/
def goalRecorded : InquiryState :=
  further (reached answered) (answeredGoal.toOption.toList.map (fun goal =>
    .project (.recordImplementationGoalCandidate goal)))

theorem reachable_goalRecorded : Reachable goalRecorded := (reachable_reached answered).trans (runsTo_further _ _)

def laterAnchor : ProjectAnchor := { projectAnchor with id := "anchor-later" }

/-- The event of a second admission of the same question. -/
def admittedAgain : DomainEvent :=
  ⟨⟨"event", "inquiry", 0⟩, .project (.questionRepertoireDecided {
    id := "admission-again"
    candidateId := "question"
    outcome := .admitted
    controllerPolicyVersion := generatedQuestionPolicyVersion
    evidenceIds := ["evidence"]
    profileAdmitted := true
    evidence_canonical := given_singleton "evidence" })⟩

-- One evaluation of the run serves both results below.
theorem goalRecorded_evaluated : goalRecorded.implementationGoalCandidates.map (·.goal.id) = ["goal:other"] ∧
    decide goalRecorded (command (.project (.recordProjectAnchor laterAnchor))) =
      .ok [⟨⟨"event", "inquiry", 0⟩, .project (.projectAnchorRecorded laterAnchor)⟩] ∧
    keepsGoals goalRecorded (command (.project (.recordProjectAnchor laterAnchor))) = true ∧
    decide goalRecorded (command (questionAdmission "admission-again")) = .ok [admittedAgain] ∧
    ∃ goal ∈ goalRecorded.implementationGoalCandidates,
      compileImplementationGoalCandidate (goalRecorded.extendedBy admittedAgain).goalSources goal.sourceObligationId
        goal.downstreamObligationId goal.frontierId ≠ .ok goal := by
  decide +kernel

theorem goalRecorded_stable : goalRecorded.implementationGoalCandidates.map (·.goal.id) = ["goal:other"] ∧
    ∀ goal ∈ goalRecorded.implementationGoalCandidates,
      compileImplementationGoalCandidate
        (goalRecorded.extendedBy ⟨⟨"event", "inquiry", 0⟩, .project (.projectAnchorRecorded laterAnchor)⟩).goalSources
        goal.sourceObligationId goal.downstreamObligationId goal.frontierId = .ok goal := by
  obtain ⟨recorded, decided, keeps, -⟩ := goalRecorded_evaluated
  exact ⟨recorded, (goals_stable goalRecorded _ _ reachable_goalRecorded decided).1.mpr keeps⟩

/-- A second admission of the same question is lawful, and the recorded goal no longer compiles. -/
theorem goalRecorded_unstable : ¬ ∀ state command event, Reachable state → decide state command = .ok [event] →
    ∀ goal ∈ state.implementationGoalCandidates,
      compileImplementationGoalCandidate (state.extendedBy event).goalSources goal.sourceObligationId
        goal.downstreamObligationId goal.frontierId = .ok goal := by
  intro claimed
  obtain ⟨-, -, -, decided, goal, recorded, moved⟩ := goalRecorded_evaluated
  exact moved (claimed goalRecorded _ admittedAgain reachable_goalRecorded decided goal recorded)

end Worked

end RatchetingInquiry
