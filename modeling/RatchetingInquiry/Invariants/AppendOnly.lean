import RatchetingInquiry.Invariants.Effects

/-! The aggregate only grows. Every collection of a state begins the same collection of the next one, what
is behind it is what the event introduces, and a request changes only by the facts of an event about it. -/

namespace RatchetingInquiry

/-! Earlier records with added ones behind them, collection by collection. -/

def ClaimRecords.join (earlier added : ClaimRecords) : ClaimRecords where
  claims := earlier.claims ++ added.claims
  conflicts := earlier.conflicts ++ added.conflicts
  obligations := earlier.obligations ++ added.obligations
  obligationDispositions := earlier.obligationDispositions ++ added.obligationDispositions
  candidates := earlier.candidates ++ added.candidates
  residuals := earlier.residuals ++ added.residuals
  corrections := earlier.corrections ++ added.corrections
  guardChanges := earlier.guardChanges ++ added.guardChanges

def WarrantRecords.join (earlier added : WarrantRecords) : WarrantRecords where
  nogoods := earlier.nogoods ++ added.nogoods
  supportRouteStandingChanges := earlier.supportRouteStandingChanges ++ added.supportRouteStandingChanges
  nogoodStandingChanges := earlier.nogoodStandingChanges ++ added.nogoodStandingChanges
  evidenceRecords := earlier.evidenceRecords ++ added.evidenceRecords
  checkerVerdicts := earlier.checkerVerdicts ++ added.checkerVerdicts
  warrantDecisions := earlier.warrantDecisions ++ added.warrantDecisions
  lemmaVersions := earlier.lemmaVersions ++ added.lemmaVersions
  lemmaSupports := earlier.lemmaSupports ++ added.lemmaSupports
  promotionLinks := earlier.promotionLinks ++ added.promotionLinks

def ProbeRecords.join (earlier added : ProbeRecords) : ProbeRecords where
  admittedProbes := earlier.admittedProbes ++ added.admittedProbes
  cognitivePlans := earlier.cognitivePlans ++ added.cognitivePlans
  predictions := earlier.predictions ++ added.predictions
  probeObservations := earlier.probeObservations ++ added.probeObservations
  reconstructions := earlier.reconstructions ++ added.reconstructions
  mismatches := earlier.mismatches ++ added.mismatches
  semanticDeltas := earlier.semanticDeltas ++ added.semanticDeltas

def RetentionRecords.join (earlier added : RetentionRecords) : RetentionRecords where
  directUseRoutes := earlier.directUseRoutes ++ added.directUseRoutes
  reconstructionRoutes := earlier.reconstructionRoutes ++ added.reconstructionRoutes
  consequenceEvaluationRoutes := earlier.consequenceEvaluationRoutes ++ added.consequenceEvaluationRoutes
  reacquisitionRoutes := earlier.reacquisitionRoutes ++ added.reacquisitionRoutes
  reacquisitionScaffolds := earlier.reacquisitionScaffolds ++ added.reacquisitionScaffolds
  recoveryProtocols := earlier.recoveryProtocols ++ added.recoveryProtocols
  retentionPackages := earlier.retentionPackages ++ added.retentionPackages

def RetrievalRecords.join (earlier added : RetrievalRecords) : RetrievalRecords where
  retrievalPolicies := earlier.retrievalPolicies ++ added.retrievalPolicies
  retrievalQueries := earlier.retrievalQueries ++ added.retrievalQueries
  retrievalResults := earlier.retrievalResults ++ added.retrievalResults

def RecoveryRecords.join (earlier added : RecoveryRecords) : RecoveryRecords where
  reacquisitionRequests := earlier.reacquisitionRequests ++ added.reacquisitionRequests
  reacquisitionInquiryLinks := earlier.reacquisitionInquiryLinks ++ added.reacquisitionInquiryLinks
  recoveryObservations := earlier.recoveryObservations ++ added.recoveryObservations
  recoveryComparisons := earlier.recoveryComparisons ++ added.recoveryComparisons

def LearningRecords.join (earlier added : LearningRecords) : LearningRecords where
  consolidationCheckpoints := earlier.consolidationCheckpoints ++ added.consolidationCheckpoints
  consolidationCandidates := earlier.consolidationCandidates ++ added.consolidationCandidates
  memoryPatchCandidates := earlier.memoryPatchCandidates ++ added.memoryPatchCandidates
  reconsolidationLinks := earlier.reconsolidationLinks ++ added.reconsolidationLinks
  semanticFieldEvaluations := earlier.semanticFieldEvaluations ++ added.semanticFieldEvaluations
  representationGaps := earlier.representationGaps ++ added.representationGaps
  learnedProbeCandidates := earlier.learnedProbeCandidates ++ added.learnedProbeCandidates
  probeEvaluations := earlier.probeEvaluations ++ added.probeEvaluations
  probeAdmissionDecisions := earlier.probeAdmissionDecisions ++ added.probeAdmissionDecisions

def CompressionRecords.join (earlier added : CompressionRecords) : CompressionRecords where
  bindingCarrierManifests := earlier.bindingCarrierManifests ++ added.bindingCarrierManifests
  realizedHistoryDerivations := earlier.realizedHistoryDerivations ++ added.realizedHistoryDerivations
  compressionContracts := earlier.compressionContracts ++ added.compressionContracts
  compressionValidations := earlier.compressionValidations ++ added.compressionValidations
  exactCompressionLicenses := earlier.exactCompressionLicenses ++ added.exactCompressionLicenses
  pathResidues := earlier.pathResidues ++ added.pathResidues
  compressionApplications := earlier.compressionApplications ++ added.compressionApplications
  recoveryLicenses := earlier.recoveryLicenses ++ added.recoveryLicenses
  retentionCapabilityLinks := earlier.retentionCapabilityLinks ++ added.retentionCapabilityLinks
  representationSuccessorDecisions := earlier.representationSuccessorDecisions ++ added.representationSuccessorDecisions
  representationReopenings := earlier.representationReopenings ++ added.representationReopenings

def ProjectRecords.join (earlier added : ProjectRecords) : ProjectRecords where
  projectAnchors := earlier.projectAnchors ++ added.projectAnchors
  capabilityLimitations := earlier.capabilityLimitations ++ added.capabilityLimitations
  questionContractCandidates := earlier.questionContractCandidates ++ added.questionContractCandidates
  questionRepertoireDecisions := earlier.questionRepertoireDecisions ++ added.questionRepertoireDecisions
  methodBindingCandidates := earlier.methodBindingCandidates ++ added.methodBindingCandidates
  methodAdmissionDecisions := earlier.methodAdmissionDecisions ++ added.methodAdmissionDecisions
  capabilitySuccessorCandidates := earlier.capabilitySuccessorCandidates ++ added.capabilitySuccessorCandidates
  capabilityFrontiers := earlier.capabilityFrontiers ++ added.capabilityFrontiers
  implementationGoalCandidates := earlier.implementationGoalCandidates ++ added.implementationGoalCandidates
  goalAdmissionDecisions := earlier.goalAdmissionDecisions ++ added.goalAdmissionDecisions
  implementationGoals := earlier.implementationGoals ++ added.implementationGoals
  candidateEnvironments := earlier.candidateEnvironments ++ added.candidateEnvironments
  developmentEvidence := earlier.developmentEvidence ++ added.developmentEvidence
  independentReviews := earlier.independentReviews ++ added.independentReviews
  projectSuccessorDecisions := earlier.projectSuccessorDecisions ++ added.projectSuccessorDecisions
  promotionDecisions := earlier.promotionDecisions ++ added.promotionDecisions
  recursiveCycleCheckpoints := earlier.recursiveCycleCheckpoints ++ added.recursiveCycleCheckpoints
  recursiveStopDispositions := earlier.recursiveStopDispositions ++ added.recursiveStopDispositions

/-- The records that an effect event introduces; the other effect events are about a request that exists. -/
def EffectEvent.introduces : EffectEvent → EffectRecords
  | .backlogEffectRecorded effect => { backlogEffects := [effect] }
  | .stepPlanRecorded plan => { stepPlans := [plan] }
  | .effectRequested request => { effectRequests := [{ request := request }] }
  | _ => {}

/-- What an effect event leaves of a request. Attempt identities belong to one request, so a start names its
attempt alone. -/
def EffectEvent.leaves (head : EventMetadata) (event : EffectEvent) (request : EffectRequestState) :
    EffectRequestState :=
  match event with
  | .effectAttemptPlanned plan =>
    if plan.requestId = request.request.id then { request with attempts := request.attempts ++ [{ plan := plan }] }
    else request
  | .effectAttemptStarted attemptId => { request with
      attempts := request.attempts.map (fun item => if item.plan.id = attemptId then item.start head else item) }
  | .effectNoAttemptDispositionRecorded disposition =>
    if disposition.requestId = request.request.id then
      { request with noAttemptDispositions := request.noAttemptDispositions ++ [disposition] }
    else request
  | .effectAttemptOutcomeRecorded requestId outcome =>
    if requestId = request.request.id then
      { request with attempts := request.attempts.map (fun item =>
          if item.plan.id = outcome.attemptId then { item with outcome := some outcome } else item) }
    else request
  | .effectDecodeOutcomeRecorded requestId outcome =>
    if requestId = request.request.id then { request with decodeOutcomes := request.decodeOutcomes ++ [outcome] }
    else request
  | .effectResultAccepted requestId decodedOutcomeId =>
    if requestId = request.request.id then { request with acceptedDecodedOutcomeId := some decodedOutcomeId }
    else request
  | _ => request

theorem EffectEvent.leaves_request (event : EffectEvent) (head : EventMetadata) (request : EffectRequestState) :
    (event.leaves head request).request = request.request := by
  cases event <;> simp only [EffectEvent.leaves] <;> split <;> rfl

/-- The records that an event introduces. An admission of a learned probe introduces the probe that the
recorded candidate describes. -/
def EventBody.introduces (state : InquiryState) : EventBody → InquiryState
  | .inquiryStarted _ _ _ => {}
  | .effect event => { toEffectRecords := event.introduces }
  | .claim event => { toClaimRecords := ClaimRecords.apply {} event }
  | .warrant event => { toWarrantRecords := WarrantRecords.apply {} event }
  | .probe event => { toProbeRecords := ProbeRecords.apply {} event }
  | .memory event => InquiryState.applyMemory {} event
  | .learning event =>
    match event with
    | .semanticFieldEvaluationRecorded _ residual => {
        toLearningRecords := LearningRecords.apply {} event, residuals := residual.toList }
    | .probeAdmissionDecisionRecorded decision => {
        toLearningRecords := LearningRecords.apply {} event
        admittedProbes := (decision.admittedProbe state.toLearningRecords).toList }
    | _ => { toLearningRecords := LearningRecords.apply {} event }
  | .compression event => { toCompressionRecords := CompressionRecords.apply {} event }
  | .project event => { toProjectRecords := ProjectRecords.apply {} event }

/-- What an event leaves of a request: the request itself, unless it is an effect event about it. -/
def EventBody.leaves (head : EventMetadata) (body : EventBody) (request : EffectRequestState) : EffectRequestState :=
  match body with
  | .effect event => event.leaves head request
  | _ => request

/-- The later request is the earlier one with more attempts, dispositions and decodes behind its own. -/
structure EffectRequestState.Extends (earlier later : EffectRequestState) : Prop where
  request : later.request = earlier.request
  attempt_plans : earlier.attempts.map (·.plan) <+: later.attempts.map (·.plan)
  dispositions : earlier.noAttemptDispositions <+: later.noAttemptDispositions
  decodes : earlier.decodeOutcomes <+: later.decodeOutcomes
  continued : earlier.Continues later

/-- The records of the later state are the earlier ones with the added ones behind them. -/
structure RecordsAppended (state added next : InquiryState) : Prop where
  claims : next.toClaimRecords = state.toClaimRecords.join added.toClaimRecords
  warrants : next.toWarrantRecords = state.toWarrantRecords.join added.toWarrantRecords
  probes : next.toProbeRecords = state.toProbeRecords.join added.toProbeRecords
  retention : next.toRetentionRecords = state.toRetentionRecords.join added.toRetentionRecords
  retrieval : next.toRetrievalRecords = state.toRetrievalRecords.join added.toRetrievalRecords
  recovery : next.toRecoveryRecords = state.toRecoveryRecords.join added.toRecoveryRecords
  learning : next.toLearningRecords = state.toLearningRecords.join added.toLearningRecords
  compression : next.toCompressionRecords = state.toCompressionRecords.join added.toCompressionRecords
  project : next.toProjectRecords = state.toProjectRecords.join added.toProjectRecords

/-- The effect records of the later state: requests go on in their order, each as the event leaves it. -/
structure EffectsAppended (effects added : EffectRecords) (leaves : EffectRequestState → EffectRequestState)
    (next : EffectRecords) : Prop where
  backlog : next.backlogEffects = effects.backlogEffects ++ added.backlogEffects
  plans : next.stepPlans = effects.stepPlans ++ added.stepPlans
  requests : next.effectRequests = effects.effectRequests.map leaves ++ added.effectRequests
  extended : ∀ request ∈ effects.effectRequests, request.Extends (leaves request)

/-- One step of an append-only aggregate. -/
structure AppendOnly (state : InquiryState) (event : DomainEvent) (next : InquiryState) : Prop where
  sequence : next.sequence = state.sequence + 1
  pins : state.status ≠ .notStarted →
    next.toInquiryHeader = { state.toInquiryHeader with sequence := state.sequence + 1 }
  effects : EffectsAppended state.toEffectRecords (event.body.introduces state).toEffectRecords
    (event.body.leaves event.head) next.toEffectRecords
  records : RecordsAppended state (event.body.introduces state) next

section
variable {effects : EffectRecords} {head : EventMetadata} {request replacement : EffectRequestState}

/-- The event replaces one request by a step of it and leaves every other request alone. -/
def EffectEvent.StepsOne (event : EffectEvent) (head : EventMetadata) (effects : EffectRecords)
    (replacement : EffectRequestState) : Prop :=
  ∃ request ∈ effects.effectRequests, RequestStep request replacement ∧ event.leaves head request = replacement ∧
    ∀ item ∈ effects.effectRequests, item.request.id ≠ request.request.id → event.leaves head item = item

theorem evolveAttemptPlanned_stepsOne {plan : EffectAttemptPlan}
    (rebuilt : evolveAttemptPlanned effects plan = .ok replacement) :
    (EffectEvent.effectAttemptPlanned plan).StepsOne head effects replacement := by
  simp only [evolveAttemptPlanned, found_bind_eq_ok, require_bind_eq_ok] at rebuilt
  obtain ⟨request, hit, -, unresolved, rebuilt⟩ := rebuilt
  obtain ⟨rfl, -⟩ := rebuildRequest_built rebuilt
  obtain ⟨owned, names⟩ := requestById_some hit
  exact ⟨request, owned, .planned plan names.symm unresolved, if_pos names.symm,
    fun item _ other => if_neg (fun same => other (same.symm.trans names.symm))⟩

theorem evolveNoAttemptDisposition_stepsOne {disposition : NoAttemptDisposition}
    (rebuilt : evolveNoAttemptDisposition effects disposition = .ok replacement) :
    (EffectEvent.effectNoAttemptDispositionRecorded disposition).StepsOne head effects replacement := by
  simp only [evolveNoAttemptDisposition, found_bind_eq_ok, require_bind_eq_ok] at rebuilt
  obtain ⟨request, hit, -, -, unresolved, rebuilt⟩ := rebuilt
  obtain ⟨rfl, -⟩ := rebuildRequest_built rebuilt
  obtain ⟨owned, names⟩ := requestById_some hit
  exact ⟨request, owned, .disposed disposition unresolved, if_pos names.symm,
    fun item _ other => if_neg (fun same => other (same.symm.trans names.symm))⟩

theorem evolveDecodeOutcome_stepsOne {requestId : String} {outcome : DecodeOutcome}
    (rebuilt : evolveDecodeOutcome effects requestId outcome = .ok replacement) :
    (EffectEvent.effectDecodeOutcomeRecorded requestId outcome).StepsOne head effects replacement := by
  simp only [evolveDecodeOutcome, found_bind_eq_ok, require_bind_eq_ok] at rebuilt
  obtain ⟨request, hit, -, -, rebuilt⟩ := rebuilt
  obtain ⟨rfl, -⟩ := rebuildRequest_built rebuilt
  obtain ⟨owned, names⟩ := requestById_some hit
  exact ⟨request, owned, .decoded outcome, if_pos names.symm,
    fun item _ other => if_neg (fun same => other (same.symm.trans names.symm))⟩

theorem evolveResultAccepted_stepsOne {requestId decodedOutcomeId : String}
    (rebuilt : evolveResultAccepted effects requestId decodedOutcomeId = .ok replacement) :
    (EffectEvent.effectResultAccepted requestId decodedOutcomeId).StepsOne head effects replacement := by
  simp only [evolveResultAccepted, found_bind_eq_ok, require_bind_eq_ok] at rebuilt
  obtain ⟨request, hit, unresolved, -, rebuilt⟩ := rebuilt
  obtain ⟨rfl, -⟩ := rebuildRequest_built rebuilt
  obtain ⟨owned, names⟩ := requestById_some hit
  exact ⟨request, owned, .accepted decodedOutcomeId unresolved, if_pos names.symm,
    fun item _ other => if_neg (fun same => other (same.symm.trans names.symm))⟩

theorem evolveAttemptOutcome_stepsOne {requestId : String} {outcome : AttemptOutcome}
    (rebuilt : evolveAttemptOutcome effects requestId outcome = .ok replacement) :
    (EffectEvent.effectAttemptOutcomeRecorded requestId outcome).StepsOne head effects replacement := by
  simp only [evolveAttemptOutcome, found_bind_eq_ok, require_bind_eq_ok] at rebuilt
  obtain ⟨request, hit, attempt, attemptHit, -, unended, route, rebuilt⟩ := rebuilt
  obtain ⟨rfl, -⟩ := rebuildRequest_built rebuilt
  obtain ⟨owned, names⟩ := requestById_some hit
  obtain ⟨attemptOwned, attemptNames⟩ := attemptById_some attemptHit
  refine ⟨request, owned, .ended attempt outcome attemptOwned unended attemptNames.symm route.symm, ?_, ?_⟩
  · simp only [EffectEvent.leaves, if_pos names.symm, attemptNames]
  · exact fun item _ other => if_neg (fun same => other (same.symm.trans names.symm))

theorem evolveAttemptStarted_stepsOne {attemptId : String} (sound : EffectsSound effects)
    (rebuilt : evolveAttemptStarted effects head attemptId = .ok replacement) :
    (EffectEvent.effectAttemptStarted attemptId).StepsOne head effects replacement := by
  simp only [evolveAttemptStarted, found_bind_eq_ok, require_bind_eq_ok] at rebuilt
  obtain ⟨request, hit, attempt, attemptHit, unstarted, unresolved, rebuilt⟩ := rebuilt
  obtain ⟨rfl, -⟩ := rebuildRequest_built rebuilt
  obtain ⟨attemptOwned, rfl⟩ := attemptById_some attemptHit
  have owned : request ∈ effects.effectRequests := List.mem_of_find?_eq_some hit
  refine ⟨request, owned, .started head attempt attemptOwned unstarted unresolved, rfl, ?_⟩
  intro item member other
  -- an attempt of another request with this identity would be the same attempt, and name that request
  have unnamed : ∀ candidate ∈ item.attempts, candidate.plan.id ≠ attempt.plan.id := by
    intro candidate candidateOwned same
    have listed : candidate ∈ effects.attempts := List.mem_flatMap.mpr ⟨item, member, candidateOwned⟩
    have attemptListed : attempt ∈ effects.attempts := List.mem_flatMap.mpr ⟨request, owned, attemptOwned⟩
    obtain rfl := List.inj_on_of_nodup_map sound.attempt_ids listed attemptListed same
    apply other
    rw [← (sound.requests item member).attempts_own candidate candidateOwned,
      (sound.requests request owned).attempts_own candidate attemptOwned]
  have kept : item.attempts.map (fun candidate =>
      if candidate.plan.id = attempt.plan.id then candidate.start head else candidate) = item.attempts := by
    rw [List.map_congr_left (fun candidate candidateOwned => if_neg (unnamed candidate candidateOwned)), List.map_id']
  simp only [EffectEvent.leaves, kept]

/-- Replacing one request by its step is what the event leaves of all requests. -/
theorem EffectEvent.StepsOne.replaced {event : EffectEvent} (steps : event.StepsOne head effects replacement)
    (unique : (effects.effectRequests.map (·.request.id)).Nodup) :
    effects.replaceRequest replacement = effects.effectRequests.map (event.leaves head) := by
  obtain ⟨request, owned, step, becomes, others⟩ := steps
  apply List.map_congr_left
  intro item member
  rw [step.request_eq]
  by_cases same : item.request.id = request.request.id
  · obtain rfl := List.inj_on_of_nodup_map unique member owned same
    rw [if_pos rfl, becomes]
  · rw [if_neg same, others item member same]

theorem RequestStep.extends (step : RequestStep request replacement) (sound : request.IsSound) :
    request.Extends replacement := by
  have continued := step.continues sound
  cases step with
  | planned plan => exact ⟨rfl, by simp, List.prefix_rfl, List.prefix_rfl, continued⟩
  | started head attempt =>
    refine ⟨rfl, ?_, List.prefix_rfl, List.prefix_rfl, continued⟩
    rw [List.map_map]
    refine (List.map_congr_left fun item _ => ?_) ▸ List.prefix_rfl
    simp only [Function.comp_apply]
    split <;> rfl
  | disposed disposition => exact ⟨rfl, List.prefix_rfl, List.prefix_append _ _, List.prefix_rfl, continued⟩
  | ended attempt outcome =>
    refine ⟨rfl, ?_, List.prefix_rfl, List.prefix_rfl, continued⟩
    rw [List.map_map]
    refine (List.map_congr_left fun item _ => ?_) ▸ List.prefix_rfl
    simp only [Function.comp_apply]
    split <;> rfl
  | decoded outcome => exact ⟨rfl, List.prefix_rfl, List.prefix_rfl, List.prefix_append _ _, continued⟩
  | accepted decodedOutcomeId => exact ⟨rfl, List.prefix_rfl, List.prefix_rfl, List.prefix_rfl, continued⟩

theorem EffectRequestState.Extends.refl (request : EffectRequestState) : request.Extends request :=
  ⟨rfl, List.prefix_rfl, List.prefix_rfl, List.prefix_rfl, .refl request⟩

theorem EffectEvent.StepsOne.extended {event : EffectEvent} (steps : event.StepsOne head effects replacement)
    (sound : EffectsSound effects) : ∀ item ∈ effects.effectRequests, item.Extends (event.leaves head item) := by
  obtain ⟨request, owned, step, becomes, others⟩ := steps
  intro item member
  by_cases same : item.request.id = request.request.id
  · obtain rfl := List.inj_on_of_nodup_map sound.request_ids member owned same
    rw [becomes]
    exact step.extends (sound.requests item member)
  · rw [others item member same]
    exact .refl item

end

theorem EffectEvent.StepsOne.appended {effects : EffectRecords} {head : EventMetadata} {event : EffectEvent}
    {replacement : EffectRequestState} (steps : event.StepsOne head effects replacement) (sound : EffectsSound effects)
    (nothing : event.introduces = {}) :
    EffectsAppended effects event.introduces (event.leaves head)
      { effects with effectRequests := effects.replaceRequest replacement } := by
  refine ⟨?_, ?_, ?_, steps.extended sound⟩
  · simp [nothing]
  · simp [nothing]
  · simp [nothing, steps.replaced sound.request_ids]

/-- Records added behind untouched requests. -/
theorem effectsAppended_untouched {effects added next : EffectRecords}
    (backlog : next.backlogEffects = effects.backlogEffects ++ added.backlogEffects)
    (plans : next.stepPlans = effects.stepPlans ++ added.stepPlans)
    (requests : next.effectRequests = effects.effectRequests ++ added.effectRequests) :
    EffectsAppended effects added (fun request => request) next := by
  refine ⟨backlog, plans, ?_, fun request _ => .refl request⟩
  rw [List.map_id', requests]

section
variable [Fingerprints] {state next : InquiryState}

theorem EffectStep.appended {head : EventMetadata} {event : EffectEvent} {records : EffectRecords}
    (step : EffectStep state head event records) (sound : EffectsSound state.toEffectRecords) :
    EffectsAppended state.toEffectRecords event.introduces (event.leaves head) records := by
  cases step with
  | backlogEffect => exact effectsAppended_untouched rfl (List.append_nil _).symm (List.append_nil _).symm
  | stepPlan => exact effectsAppended_untouched (List.append_nil _).symm rfl (List.append_nil _).symm
  | requested => exact effectsAppended_untouched (List.append_nil _).symm (List.append_nil _).symm rfl
  | attemptPlanned _ _ rebuilt => exact (evolveAttemptPlanned_stepsOne rebuilt).appended sound rfl
  | attemptStarted _ _ rebuilt => exact (evolveAttemptStarted_stepsOne sound rebuilt).appended sound rfl
  | noAttemptDisposition _ _ rebuilt => exact (evolveNoAttemptDisposition_stepsOne rebuilt).appended sound rfl
  | attemptOutcome _ _ _ rebuilt => exact (evolveAttemptOutcome_stepsOne rebuilt).appended sound rfl
  | decodeOutcome _ _ _ rebuilt => exact (evolveDecodeOutcome_stepsOne rebuilt).appended sound rfl
  | resultAccepted _ _ _ rebuilt => exact (evolveResultAccepted_stepsOne rebuilt).appended sound rfl

end

/-! What an event adds to the records of its area is what it adds to none. -/

theorem ProjectRecords.apply_eq_join (records : ProjectRecords) (event : ProjectEvent) :
    records.apply event = records.join (ProjectRecords.apply {} event) := by
  cases event <;> simp [ProjectRecords.apply, ProjectRecords.join]

theorem RecordsAppended.refl (state : InquiryState) : RecordsAppended state {} state := by
  constructor <;> simp [ClaimRecords.join, WarrantRecords.join, ProbeRecords.join, RetentionRecords.join,
    RetrievalRecords.join, RecoveryRecords.join, LearningRecords.join, CompressionRecords.join, ProjectRecords.join]

theorem RecordsAppended.trans {state before next added further : InquiryState}
    (first : RecordsAppended state added before)
    (second : RecordsAppended before further next) : ∃ all, RecordsAppended state all next := by
  refine ⟨{
    toClaimRecords := added.toClaimRecords.join further.toClaimRecords
    toWarrantRecords := added.toWarrantRecords.join further.toWarrantRecords
    toProbeRecords := added.toProbeRecords.join further.toProbeRecords
    toRetentionRecords := added.toRetentionRecords.join further.toRetentionRecords
    toRetrievalRecords := added.toRetrievalRecords.join further.toRetrievalRecords
    toRecoveryRecords := added.toRecoveryRecords.join further.toRecoveryRecords
    toLearningRecords := added.toLearningRecords.join further.toLearningRecords
    toCompressionRecords := added.toCompressionRecords.join further.toCompressionRecords
    toProjectRecords := added.toProjectRecords.join further.toProjectRecords }, ?_⟩
  constructor <;> simp [second.claims, first.claims, second.warrants, first.warrants, second.probes, first.probes,
    second.retention, first.retention, second.retrieval, first.retrieval, second.recovery, first.recovery,
    second.learning, first.learning, second.compression, first.compression, second.project, first.project,
    ClaimRecords.join, WarrantRecords.join, ProbeRecords.join, RetentionRecords.join, RetrievalRecords.join,
    RecoveryRecords.join, LearningRecords.join, CompressionRecords.join, ProjectRecords.join]

section
variable [Fingerprints] {state next : InquiryState}

/-- A step adds what its event introduces, in the area of the event. -/
theorem Transition.recordsAppended {head : EventMetadata} {body : EventBody}
    (fresh : state.status = .notStarted → state = initialState) (transition : Transition state head body next) :
    RecordsAppended state (body.introduces state) next := by
  -- Outside the area of the event nothing changes and nothing is introduced.
  have kept := RecordsAppended.refl state
  cases transition with
  | started _ _ _ unstarted =>
    obtain rfl := fresh unstarted
    constructor <;> rfl
  | effect => exact { kept with }
  | claim event =>
    have added : state.toClaimRecords.apply event = state.toClaimRecords.join (ClaimRecords.apply {} event) := by
      cases event <;> simp [ClaimRecords.apply, ClaimRecords.join]
    exact { kept with claims := added }
  | warrant event =>
    have added : state.toWarrantRecords.apply event = state.toWarrantRecords.join (WarrantRecords.apply {} event) := by
      cases event <;> simp [WarrantRecords.apply, WarrantRecords.join]
    exact { kept with warrants := added }
  | probe event =>
    have added : state.toProbeRecords.apply event = state.toProbeRecords.join (ProbeRecords.apply {} event) := by
      cases event <;> simp [ProbeRecords.apply, ProbeRecords.join]
    exact { kept with probes := added }
  | memory event =>
    cases event with
    | retentionPackageRegistered registration =>
      exact { kept with retention := by simp [EventBody.introduces, InquiryState.applyMemory, RetentionRecords.register,
        RetentionRecords.join] }
    | retrievalCompleted policy query result =>
      exact { kept with retrieval := by simp [EventBody.introduces, InquiryState.applyMemory, RetrievalRecords.complete,
        RetrievalRecords.join] }
    | _ => exact { kept with recovery := by simp [EventBody.introduces, InquiryState.applyMemory, RecoveryRecords.join] }
  | learning event =>
    have added : state.toLearningRecords.apply event =
        state.toLearningRecords.join (LearningRecords.apply {} event) := by
      cases event <;> simp [LearningRecords.apply, LearningRecords.join]
    cases event with
    | semanticFieldEvaluationRecorded evaluation residual =>
      exact { kept with learning := added, claims := by simp [EventBody.introduces, InquiryState.applyLearning,
        ClaimRecords.join] }
    | probeAdmissionDecisionRecorded decision =>
      exact { kept with learning := added, probes := by simp [EventBody.introduces, InquiryState.applyLearning,
        ProbeRecords.join] }
    | _ => exact { kept with learning := added }
  | compression event =>
    have added : state.toCompressionRecords.apply event =
        state.toCompressionRecords.join (CompressionRecords.apply {} event) := by
      cases event <;> simp [CompressionRecords.apply, CompressionRecords.join]
    exact { kept with compression := added }
  | project event => exact { kept with project := ProjectRecords.apply_eq_join _ event }

theorem Transition.effectsAppended {head : EventMetadata} {body : EventBody}
    (sound : EffectsSound state.toEffectRecords) (fresh : state.status = .notStarted → state = initialState)
    (transition : Transition state head body next) :
    EffectsAppended state.toEffectRecords (body.introduces state).toEffectRecords (body.leaves head)
      next.toEffectRecords := by
  have kept : EffectsAppended state.toEffectRecords {} (fun request => request) state.toEffectRecords :=
    effectsAppended_untouched (List.append_nil _).symm (List.append_nil _).symm (List.append_nil _).symm
  cases transition with
  | started _ _ _ unstarted =>
    obtain rfl := fresh unstarted
    exact kept
  | effect event records _ step => exact step.appended sound
  | memory event => cases event <;> exact kept
  | learning event => cases event <;> exact kept
  | _ => exact kept

/-- Along a run, records are only added. -/
theorem records_joined (replayed : Replayable state) (run : Relation.ReflTransGen EventStep state next) :
    ∃ added, RecordsAppended state added next := by
  induction run with
  | refl => exact ⟨{}, .refl state⟩
  | tail earlier step ih =>
    obtain ⟨added, joined⟩ := ih
    obtain ⟨event, evolved⟩ := step
    obtain ⟨transition, -⟩ := evolve_eq_ok.mp evolved
    have fresh := Replayable.unstarted_eq_initial (Relation.ReflTransGen.trans replayed earlier)
    exact joined.trans (transition.recordsAppended fresh)

/-- Every event of every reachable state appends: the inquiry stays itself, the sequence grows by one, and
only what the event introduces is new. -/
theorem append_only {event : DomainEvent} (reached : Reachable state) (evolved : evolve state event = .ok next) :
    AppendOnly state event next := by
  obtain ⟨transition, -⟩ := evolve_eq_ok.mp evolved
  have replayed := reached.replayable
  have fresh := replayed.unstarted_eq_initial
  have effects := transition.effectsAppended replayed.effectsSound fresh
  have records := transition.recordsAppended fresh
  rcases transition.headerView with ⟨unstarted, manifest, policy, context, rfl⟩ | ⟨-, header⟩
  · obtain rfl := fresh unstarted
    exact ⟨rfl, fun running => absurd unstarted running, effects, records⟩
  · exact ⟨congrArg InquiryHeader.sequence header, fun _ => header, effects, records⟩

end

namespace Worked

/-- The late interpretation of the worked inquiry as an event. -/
def lateDecode : DomainEvent where
  head := ⟨"event", "inquiry", 0⟩
  body := .effect (.effectDecodeOutcomeRecorded "request-a" (decoding "decode-late" "a" "result-late"))

theorem lateDecode_append_only : evolve acceptedOnce lateDecode = .ok decodedLate ∧
    AppendOnly acceptedOnce lateDecode decodedLate := by
  have evolved : evolve acceptedOnce lateDecode = .ok decodedLate := by decide +kernel
  exact ⟨evolved, append_only (reachable_reached _) evolved⟩

end Worked

end RatchetingInquiry
