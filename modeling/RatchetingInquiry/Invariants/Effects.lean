import RatchetingInquiry.Core.Growth

/-! The effect lifecycle over whole runs: what a request, an attempt, a return and a decode may become,
however commands on many requests interleave. -/

namespace RatchetingInquiry

/-- What the validators of a request and of its attempts ask. -/
structure EffectRequestState.IsBuilt (request : EffectRequestState) : Prop where
  start_complete : ∀ attempt ∈ request.attempts,
    attempt.started = (attempt.startedEventId.isSome && attempt.startedAt.isSome)
  ended_started : ∀ attempt ∈ request.attempts, attempt.outcome.isSome → attempt.started = true
  attempts_unique : request.attemptIds.Nodup
  decodes_interpret : ∀ outcome ∈ request.decodeOutcomes, outcome.externalReturnId ∈ request.capturedReturnIds
  accepted_decoded : request.acceptedDecodedOutcomeId.isSome → request.acceptedResult.isSome

theorem rebuildRequest_built {request replacement : EffectRequestState}
    (rebuilt : rebuildRequest request = .ok replacement) : replacement = request ∧ request.IsBuilt := by
  simp only [rebuildRequest, forM_bind_eq_ok, EffectRequestState.validateCardinalities, require_bind_eq_ok, pure,
    Except.pure, Except.ok.injEq] at rebuilt
  obtain ⟨attempts, unique, -, -, -, interpret, accepted, rfl⟩ := rebuilt
  have checked : ∀ attempt ∈ request.attempts,
      attempt.started = (attempt.startedEventId.isSome && attempt.startedAt.isSome) ∧
        (attempt.outcome.isSome → attempt.started = true) := by
    intro attempt member
    have passed := attempts attempt member
    cases validated : attempt.validateLifecycle with
    | error failure => simp [validated, Except.map] at passed
    | ok result =>
      simp only [AttemptState.validateLifecycle, require_bind_eq_ok] at validated
      exact ⟨validated.1, validated.2.1⟩
  exact ⟨rfl, fun attempt member => (checked attempt member).1, fun attempt member => (checked attempt member).2,
    unique, interpret, accepted⟩

/-- One event of the effect lifecycle, seen from the request that it concerns. -/
inductive RequestStep (request : EffectRequestState) : EffectRequestState → Prop
  | planned (plan : EffectAttemptPlan) (own : plan.requestId = request.request.id)
      (unresolved : request.acceptedDecodedOutcomeId = none) :
      RequestStep request { request with attempts := request.attempts ++ [{ plan := plan }] }
  | started (head : EventMetadata) (attempt : AttemptState) (owned : attempt ∈ request.attempts)
      (unstarted : attempt.started = false) (unresolved : request.acceptedDecodedOutcomeId = none) :
      RequestStep request { request with attempts := request.attempts.map (fun item =>
        if item.plan.id = attempt.plan.id then item.start head else item) }
  | disposed (disposition : NoAttemptDisposition) (unresolved : request.acceptedDecodedOutcomeId = none) :
      RequestStep request { request with
        noAttemptDispositions := request.noAttemptDispositions ++ [disposition] }
  | ended (attempt : AttemptState) (outcome : AttemptOutcome) (owned : attempt ∈ request.attempts)
      (unended : attempt.outcome = none) (names_attempt : outcome.attemptId = attempt.plan.id)
      (names_route : outcome.routeId = attempt.plan.route.id) :
      RequestStep request { request with attempts := request.attempts.map (fun item =>
        if item.plan.id = attempt.plan.id then { item with outcome := some outcome } else item) }
  | decoded (outcome : DecodeOutcome) :
      RequestStep request { request with decodeOutcomes := request.decodeOutcomes ++ [outcome] }
  | accepted (decodedOutcomeId : String) (unresolved : request.acceptedDecodedOutcomeId = none) :
      RequestStep request { request with acceptedDecodedOutcomeId := some decodedOutcomeId }

theorem requestById_some {effects : EffectRecords} {requestId : String} {request : EffectRequestState}
    (hit : effects.requestById requestId = some request) :
    request ∈ effects.effectRequests ∧ request.request.id = requestId :=
  ⟨List.mem_of_find?_eq_some hit, by simpa using List.find?_some hit⟩

theorem attemptById_some {request : EffectRequestState} {attemptId : String} {attempt : AttemptState}
    (hit : request.attemptById attemptId = some attempt) :
    attempt ∈ request.attempts ∧ attempt.plan.id = attemptId :=
  ⟨List.mem_of_find?_eq_some hit, by simpa using List.find?_some hit⟩

/-- A step on an owned request, with the validated request that replaces it. -/
def StepsTo (effects : EffectRecords) (replacement : EffectRequestState) : Prop :=
  ∃ request ∈ effects.effectRequests, RequestStep request replacement ∧ replacement.IsBuilt

section
variable {effects : EffectRecords} {head : EventMetadata} {replacement : EffectRequestState}

theorem evolveAttemptPlanned_steps {plan : EffectAttemptPlan}
    (rebuilt : evolveAttemptPlanned effects plan = .ok replacement) : StepsTo effects replacement := by
  simp only [evolveAttemptPlanned, found_bind_eq_ok, require_bind_eq_ok] at rebuilt
  obtain ⟨request, hit, -, unresolved, rebuilt⟩ := rebuilt
  obtain ⟨rfl, built⟩ := rebuildRequest_built rebuilt
  obtain ⟨owned, names⟩ := requestById_some hit
  exact ⟨request, owned, .planned plan names.symm unresolved, built⟩

theorem evolveAttemptStarted_steps {attemptId : String}
    (rebuilt : evolveAttemptStarted effects head attemptId = .ok replacement) : StepsTo effects replacement := by
  simp only [evolveAttemptStarted, found_bind_eq_ok, require_bind_eq_ok] at rebuilt
  obtain ⟨request, hit, attempt, attemptHit, unstarted, unresolved, rebuilt⟩ := rebuilt
  obtain ⟨rfl, built⟩ := rebuildRequest_built rebuilt
  obtain ⟨owned, rfl⟩ := attemptById_some attemptHit
  exact ⟨request, List.mem_of_find?_eq_some hit, .started head attempt owned unstarted unresolved, built⟩

theorem evolveNoAttemptDisposition_steps {disposition : NoAttemptDisposition}
    (rebuilt : evolveNoAttemptDisposition effects disposition = .ok replacement) : StepsTo effects replacement := by
  simp only [evolveNoAttemptDisposition, found_bind_eq_ok, require_bind_eq_ok] at rebuilt
  obtain ⟨request, hit, -, -, unresolved, rebuilt⟩ := rebuilt
  obtain ⟨rfl, built⟩ := rebuildRequest_built rebuilt
  exact ⟨request, (requestById_some hit).1, .disposed disposition unresolved, built⟩

theorem evolveAttemptOutcome_steps {requestId : String} {outcome : AttemptOutcome}
    (rebuilt : evolveAttemptOutcome effects requestId outcome = .ok replacement) : StepsTo effects replacement := by
  simp only [evolveAttemptOutcome, found_bind_eq_ok, require_bind_eq_ok] at rebuilt
  obtain ⟨request, hit, attempt, attemptHit, -, unended, route, rebuilt⟩ := rebuilt
  obtain ⟨rfl, built⟩ := rebuildRequest_built rebuilt
  obtain ⟨owned, names⟩ := attemptById_some attemptHit
  exact ⟨request, (requestById_some hit).1, .ended attempt outcome owned unended names.symm route.symm, built⟩

theorem evolveDecodeOutcome_steps {requestId : String} {outcome : DecodeOutcome}
    (rebuilt : evolveDecodeOutcome effects requestId outcome = .ok replacement) : StepsTo effects replacement := by
  simp only [evolveDecodeOutcome, found_bind_eq_ok, require_bind_eq_ok] at rebuilt
  obtain ⟨request, hit, -, -, rebuilt⟩ := rebuilt
  obtain ⟨rfl, built⟩ := rebuildRequest_built rebuilt
  exact ⟨request, (requestById_some hit).1, .decoded outcome, built⟩

theorem evolveResultAccepted_steps {requestId decodedOutcomeId : String}
    (rebuilt : evolveResultAccepted effects requestId decodedOutcomeId = .ok replacement) :
    StepsTo effects replacement := by
  simp only [evolveResultAccepted, found_bind_eq_ok, require_bind_eq_ok] at rebuilt
  obtain ⟨request, hit, unresolved, -, rebuilt⟩ := rebuilt
  obtain ⟨rfl, built⟩ := rebuildRequest_built rebuilt
  exact ⟨request, (requestById_some hit).1, .accepted decodedOutcomeId unresolved, built⟩

end

/-- What one event does to the requests: nothing, a new empty one, or a step on an owned one. -/
inductive RequestsView (effects : EffectRecords) : List EffectRequestState → Prop
  | kept : RequestsView effects effects.effectRequests
  | added (request : EffectRequest) : RequestsView effects (effects.effectRequests ++ [{ request := request }])
  | stepped (replacement : EffectRequestState) (steps : StepsTo effects replacement) :
      RequestsView effects (effects.replaceRequest replacement)

theorem EffectStep.requestsView [Fingerprints] {state : InquiryState} {head : EventMetadata} {event : EffectEvent}
    {records : EffectRecords} (step : EffectStep state head event records) :
    RequestsView state.toEffectRecords records.effectRequests := by
  cases step with
  | backlogEffect => exact .kept
  | stepPlan => exact .kept
  | requested request => exact .added request
  | attemptPlanned _ replacement rebuilt => exact .stepped replacement (evolveAttemptPlanned_steps rebuilt)
  | attemptStarted _ replacement rebuilt => exact .stepped replacement (evolveAttemptStarted_steps rebuilt)
  | noAttemptDisposition _ replacement rebuilt =>
    exact .stepped replacement (evolveNoAttemptDisposition_steps rebuilt)
  | attemptOutcome _ _ replacement rebuilt => exact .stepped replacement (evolveAttemptOutcome_steps rebuilt)
  | decodeOutcome _ _ replacement rebuilt => exact .stepped replacement (evolveDecodeOutcome_steps rebuilt)
  | resultAccepted _ _ replacement rebuilt => exact .stepped replacement (evolveResultAccepted_steps rebuilt)

/-- What holds of a request in every reachable state. -/
structure EffectRequestState.IsSound (request : EffectRequestState) : Prop where
  attempts_unique : request.attemptIds.Nodup
  attempts_own : ∀ attempt ∈ request.attempts, attempt.plan.requestId = request.request.id
  start_complete : ∀ attempt ∈ request.attempts,
    attempt.started = (attempt.startedEventId.isSome && attempt.startedAt.isSome)
  outcomes : ∀ attempt ∈ request.attempts, ∀ outcome, attempt.outcome = some outcome →
    attempt.started = true ∧ outcome.attemptId = attempt.plan.id ∧ outcome.routeId = attempt.plan.route.id
  decodes : ∀ decode ∈ request.decodeOutcomes, ∃ attempt ∈ request.attempts, ∃ captured,
    attempt.outcome = some (.returned captured) ∧ captured.id = decode.externalReturnId
  accepted : ∀ decodeId, request.acceptedDecodedOutcomeId = some decodeId →
    ∃ decode ∈ request.decodeOutcomes, decode.id = decodeId ∧ decode.result?.isSome

/-- The facts that plan and start an attempt. -/
def AttemptState.startFacts (attempt : AttemptState) : EffectAttemptPlan × Bool × Option String × Option Timestamp :=
  (attempt.plan, attempt.started, attempt.startedEventId, attempt.startedAt)

/-- An attempt keeps its plan; once recorded, its start facts and its outcome stay. -/
structure AttemptState.Continues (earlier later : AttemptState) : Prop where
  plan : later.plan = earlier.plan
  start : earlier.started = true → later.startFacts = earlier.startFacts
  outcome : ∀ outcome, earlier.outcome = some outcome → later.outcome = some outcome

/-- A request keeps its attempts and its decodes; an accepted result stays and closes the request to
further plans, starts and dispositions. -/
structure EffectRequestState.Continues (earlier later : EffectRequestState) : Prop where
  request : later.request = earlier.request
  attempts : ∀ attempt ∈ earlier.attempts, ∃ next ∈ later.attempts, attempt.Continues next
  decodes : earlier.decodeOutcomes ⊆ later.decodeOutcomes
  accepted : ∀ decodeId, earlier.acceptedDecodedOutcomeId = some decodeId →
    later.acceptedDecodedOutcomeId = some decodeId
  resolved : earlier.acceptedDecodedOutcomeId ≠ none →
    later.attempts.map AttemptState.startFacts = earlier.attempts.map AttemptState.startFacts ∧
      later.noAttemptDispositions = earlier.noAttemptDispositions

theorem AttemptState.Continues.refl (attempt : AttemptState) : attempt.Continues attempt :=
  ⟨rfl, fun _ => rfl, fun _ recorded => recorded⟩

theorem AttemptState.Continues.trans {first second third : AttemptState} (earlier : first.Continues second)
    (later : second.Continues third) : first.Continues third where
  plan := later.plan.trans earlier.plan
  start started := by
    have kept := earlier.start started
    have stillStarted : second.started = true := by
      rw [← started]
      exact congrArg (fun facts => facts.2.1) kept
    exact (later.start stillStarted).trans kept
  outcome outcome recorded := later.outcome outcome (earlier.outcome outcome recorded)

theorem EffectRequestState.Continues.refl (request : EffectRequestState) : request.Continues request where
  request := rfl
  attempts attempt member := ⟨attempt, member, .refl attempt⟩
  decodes := List.Subset.refl _
  accepted _ recorded := recorded
  resolved _ := ⟨rfl, rfl⟩

theorem EffectRequestState.Continues.trans {first second third : EffectRequestState}
    (earlier : first.Continues second) (later : second.Continues third) : first.Continues third where
  request := later.request.trans earlier.request
  attempts attempt member := by
    obtain ⟨middle, middleMember, toMiddle⟩ := earlier.attempts attempt member
    obtain ⟨last, lastMember, toLast⟩ := later.attempts middle middleMember
    exact ⟨last, lastMember, toMiddle.trans toLast⟩
  decodes := List.Subset.trans earlier.decodes later.decodes
  accepted decodeId recorded := later.accepted decodeId (earlier.accepted decodeId recorded)
  resolved closed := by
    obtain ⟨decodeId, recorded⟩ := Option.ne_none_iff_exists'.mp closed
    have stillClosed : second.acceptedDecodedOutcomeId ≠ none := by simp [earlier.accepted decodeId recorded]
    obtain ⟨laterFacts, laterDispositions⟩ := later.resolved stillClosed
    obtain ⟨earlierFacts, earlierDispositions⟩ := earlier.resolved closed
    exact ⟨laterFacts.trans earlierFacts, laterDispositions.trans earlierDispositions⟩

section
variable {request replacement : EffectRequestState}

theorem RequestStep.request_eq (step : RequestStep request replacement) : replacement.request = request.request := by
  cases step <;> rfl

/-- The attempt of a given identity is the only one that a step on attempts touches. -/
theorem EffectRequestState.IsSound.attempt_eq (sound : request.IsSound) {left right : AttemptState}
    (leftOwned : left ∈ request.attempts) (rightOwned : right ∈ request.attempts)
    (same : left.plan.id = right.plan.id) : left = right :=
  List.inj_on_of_nodup_map sound.attempts_unique leftOwned rightOwned same

theorem RequestStep.continues (step : RequestStep request replacement) (sound : request.IsSound) :
    request.Continues replacement := by
  cases step with
  | planned plan own unresolved =>
    refine ⟨rfl, ?_, List.Subset.refl _, fun _ recorded => recorded, fun closed => absurd unresolved closed⟩
    intro attempt member
    exact ⟨attempt, List.mem_append_left _ member, .refl attempt⟩
  | started head attempt owned unstarted unresolved =>
    refine ⟨rfl, ?_, List.Subset.refl _, fun _ recorded => recorded, fun closed => absurd unresolved closed⟩
    intro item member
    refine ⟨_, List.mem_map_of_mem member, ?_⟩
    split
    next same =>
      -- the attempt had neither start facts nor an outcome
      obtain rfl := sound.attempt_eq member owned same
      refine ⟨rfl, ?_, ?_⟩
      · intro started
        simp [unstarted] at started
      · intro outcome recorded
        have started := (sound.outcomes item member outcome recorded).1
        simp [unstarted] at started
    next => exact .refl item
  | disposed disposition unresolved =>
    refine ⟨rfl, ?_, List.Subset.refl _, fun _ recorded => recorded, fun closed => absurd unresolved closed⟩
    intro attempt member
    exact ⟨attempt, member, .refl attempt⟩
  | ended attempt outcome owned unended =>
    refine ⟨rfl, ?_, List.Subset.refl _, fun _ recorded => recorded, ?_⟩
    · intro item member
      refine ⟨_, List.mem_map_of_mem member, ?_⟩
      split
      next same =>
        obtain rfl := sound.attempt_eq member owned same
        refine ⟨rfl, fun _ => rfl, ?_⟩
        intro recordedOutcome recorded
        simp [unended] at recorded
      next => exact .refl item
    · intro _
      refine ⟨?_, rfl⟩
      rw [List.map_map]
      apply List.map_congr_left
      intro item _
      simp only [Function.comp_apply]
      split <;> rfl
  | decoded outcome =>
    refine ⟨rfl, ?_, List.subset_append_left _ _, fun _ recorded => recorded, fun _ => ⟨rfl, rfl⟩⟩
    intro attempt member
    exact ⟨attempt, member, .refl attempt⟩
  | accepted decodedOutcomeId unresolved =>
    refine ⟨rfl, ?_, List.Subset.refl _, ?_, fun closed => absurd unresolved closed⟩
    · intro attempt member
      exact ⟨attempt, member, .refl attempt⟩
    · intro decodeId recorded
      simp [unresolved] at recorded

/-- The validators of a request give everything but the names that attempts and outcomes carry. -/
theorem EffectRequestState.IsBuilt.sound (built : request.IsBuilt)
    (own : ∀ attempt ∈ request.attempts, attempt.plan.requestId = request.request.id)
    (named : ∀ attempt ∈ request.attempts, ∀ outcome, attempt.outcome = some outcome →
      outcome.attemptId = attempt.plan.id ∧ outcome.routeId = attempt.plan.route.id) : request.IsSound where
  attempts_unique := built.attempts_unique
  attempts_own := own
  start_complete := built.start_complete
  outcomes attempt member outcome recorded :=
    ⟨built.ended_started attempt member (by simp [recorded]), named attempt member outcome recorded⟩
  decodes decode member := by
    have captured := built.decodes_interpret decode member
    simp only [EffectRequestState.capturedReturnIds, EffectRequestState.capturedReturns, List.mem_map,
      List.mem_filterMap, Option.bind_eq_some_iff] at captured
    obtain ⟨captured, ⟨attempt, attemptMember, outcome, recorded, returned⟩, names⟩ := captured
    cases outcome with
    | returned externalReturn =>
      simp only [AttemptOutcome.externalReturn?, Option.some.injEq] at returned
      subst returned
      exact ⟨attempt, attemptMember, externalReturn, recorded, names⟩
    | _ => simp [AttemptOutcome.externalReturn?] at returned
  accepted decodeId recorded := by
    have result := built.accepted_decoded (by simp [recorded])
    simp only [EffectRequestState.acceptedResult, EffectRequestState.acceptedDecode, recorded,
      Option.bind_some] at result
    cases hit : request.decodeById decodeId with
    | none => simp [hit] at result
    | some decode =>
      simp only [hit, Option.bind_some] at result
      exact ⟨decode, List.mem_of_find?_eq_some hit, by simpa using List.find?_some hit, result⟩

theorem RequestStep.sound (step : RequestStep request replacement) (built : replacement.IsBuilt)
    (sound : request.IsSound) : replacement.IsSound := by
  have named : ∀ attempt ∈ request.attempts, ∀ outcome, attempt.outcome = some outcome →
      outcome.attemptId = attempt.plan.id ∧ outcome.routeId = attempt.plan.route.id :=
    fun attempt member outcome recorded => (sound.outcomes attempt member outcome recorded).2
  apply built.sound
  · cases step with
    | planned plan own unresolved =>
      intro attempt member
      simp only [List.mem_append, List.mem_singleton] at member
      rcases member with earlier | rfl
      · exact sound.attempts_own attempt earlier
      · exact own
    | started head attempt =>
      intro item member
      obtain ⟨prior, priorMember, rfl⟩ := List.mem_map.mp member
      split <;> exact sound.attempts_own prior priorMember
    | ended attempt outcome =>
      intro item member
      obtain ⟨prior, priorMember, rfl⟩ := List.mem_map.mp member
      split <;> exact sound.attempts_own prior priorMember
    | _ => exact sound.attempts_own
  · cases step with
    | planned plan own unresolved =>
      intro attempt member outcome recorded
      simp only [List.mem_append, List.mem_singleton] at member
      rcases member with earlier | rfl
      · exact named attempt earlier outcome recorded
      · simp at recorded
    | started head attempt =>
      intro item member outcome recorded
      obtain ⟨prior, priorMember, rfl⟩ := List.mem_map.mp member
      split at recorded
      next => simp [AttemptState.start] at recorded
      next different =>
        rw [if_neg different]
        exact named prior priorMember outcome recorded
    | ended attempt recordedOutcome owned _ namesAttempt namesRoute =>
      intro item member outcome recorded
      obtain ⟨prior, priorMember, rfl⟩ := List.mem_map.mp member
      split at recorded
      next same =>
        obtain rfl := sound.attempt_eq priorMember owned same
        simp only [Option.some.injEq] at recorded
        subst recorded
        rw [if_pos rfl]
        exact ⟨namesAttempt, namesRoute⟩
      next different =>
        rw [if_neg different]
        exact named prior priorMember outcome recorded
    | _ => exact named

end

/-- The effect records of a reachable state: identities are unique in the inquiry, every attempt belongs
to one request, and every request is sound. -/
structure EffectsSound (effects : EffectRecords) : Prop where
  request_ids : (effects.effectRequests.map (·.request.id)).Nodup
  attempt_ids : (effects.attempts.map (·.plan.id)).Nodup
  return_ids : effects.capturedExternalReturnIds.Nodup
  decode_ids : effects.recordedDecodeOutcomeIds.Nodup
  attempts_owned : ∀ attempt ∈ effects.attempts, ∃! request, request ∈ effects.effectRequests ∧
    attempt ∈ request.attempts
  requests : ∀ request ∈ effects.effectRequests, request.IsSound

/-- Every request goes on as itself. -/
def EffectsContinue (earlier later : EffectRecords) : Prop :=
  ∀ request ∈ earlier.effectRequests, ∃ next ∈ later.effectRequests, request.Continues next

theorem EffectsContinue.refl (effects : EffectRecords) : EffectsContinue effects effects :=
  fun request member => ⟨request, member, .refl request⟩

theorem EffectsContinue.trans {first second third : EffectRecords} (earlier : EffectsContinue first second)
    (later : EffectsContinue second third) : EffectsContinue first third := by
  intro request member
  obtain ⟨middle, middleMember, toMiddle⟩ := earlier request member
  obtain ⟨last, lastMember, toLast⟩ := later middle middleMember
  exact ⟨last, lastMember, toMiddle.trans toLast⟩

section
variable {effects : EffectRecords} {requests : List EffectRequestState}

theorem RequestsView.sound (view : RequestsView effects requests)
    (sound : ∀ request ∈ effects.effectRequests, request.IsSound) : ∀ request ∈ requests, request.IsSound := by
  cases view with
  | kept => exact sound
  | added request =>
    intro item member
    simp only [List.mem_append, List.mem_singleton] at member
    rcases member with earlier | rfl
    · exact sound item earlier
    · constructor <;> simp [EffectRequestState.attemptIds]
  | stepped replacement steps =>
    obtain ⟨request, owned, step, built⟩ := steps
    intro item member
    obtain ⟨prior, priorMember, rfl⟩ := List.mem_map.mp member
    split
    next => exact step.sound built (sound request owned)
    next => exact sound prior priorMember

theorem RequestsView.continues (view : RequestsView effects requests)
    (unique : (effects.effectRequests.map (·.request.id)).Nodup)
    (sound : ∀ request ∈ effects.effectRequests, request.IsSound) :
    ∀ request ∈ effects.effectRequests, ∃ next ∈ requests, request.Continues next := by
  intro item member
  cases view with
  | kept => exact ⟨item, member, .refl item⟩
  | added request => exact ⟨item, List.mem_append_left _ member, .refl item⟩
  | stepped replacement steps =>
    obtain ⟨request, owned, step, -⟩ := steps
    refine ⟨_, List.mem_map_of_mem member, ?_⟩
    split
    next same =>
      -- the replaced request is the one that made the step
      rw [step.request_eq] at same
      obtain rfl := List.inj_on_of_nodup_map unique member owned same
      exact step.continues (sound item member)
    next => exact .refl item

end

section
variable [Fingerprints] {state next : InquiryState}

theorem Replayable.requests_sound (replayed : Replayable state) :
    ∀ request ∈ state.effectRequests, request.IsSound := by
  refine eventRun_induction (P := fun state => ∀ request ∈ state.effectRequests, request.IsSound) replayed ?_ ?_
  · intro before head body after sound transition _
    rcases transition.effectView with ⟨-, records⟩ | records | ⟨event, -, step⟩
    · intro request member
      rw [show after.effectRequests = after.toEffectRecords.effectRequests from rfl, records] at member
      simp at member
    · rw [show after.effectRequests = after.toEffectRecords.effectRequests from rfl, records]
      exact sound
    · exact step.requestsView.sound sound
  · simp [initialState]

theorem AggregateValid.effect_ids (valid : AggregateValid state) :
    (state.effectRequests.map (·.request.id)).Nodup ∧ (state.attempts.map (·.plan.id)).Nodup ∧
      state.capturedExternalReturnIds.Nodup ∧ state.recordedDecodeOutcomeIds.Nodup := by
  have checked := valid.effects
  simp only [validateEffectRecords, require_bind_eq_ok, require_eq_ok] at checked
  obtain ⟨requests, -, -, -, attempts, returns, decodes, -⟩ := checked
  exact ⟨requests, attempts, returns, decodes⟩

theorem Replayable.effectsSound (replayed : Replayable state) : EffectsSound state.toEffectRecords := by
  obtain ⟨requestIds, attemptIds, returnIds, decodeIds⟩ := replayed.aggregateValid.effect_ids
  have sound := replayed.requests_sound
  refine ⟨requestIds, attemptIds, returnIds, decodeIds, ?_, sound⟩
  intro attempt member
  obtain ⟨request, owned, planned⟩ := List.mem_flatMap.mp member
  refine ⟨request, ⟨owned, planned⟩, ?_⟩
  rintro other ⟨otherOwned, otherPlanned⟩
  -- the plan of the attempt names its request
  have same : other.request.id = request.request.id := by
    rw [← (sound other otherOwned).attempts_own attempt otherPlanned, (sound request owned).attempts_own attempt planned]
  exact List.inj_on_of_nodup_map requestIds otherOwned owned same

theorem effectsContinue_run (replayed : Replayable state) (run : Relation.ReflTransGen EventStep state next) :
    EffectsContinue state.toEffectRecords next.toEffectRecords := by
  induction run with
  | refl => exact .refl _
  | tail earlier step ih =>
    rename_i middle last
    refine ih.trans ?_
    have middleReplayed : Replayable middle := Relation.ReflTransGen.trans replayed earlier
    have sound := middleReplayed.effectsSound
    obtain ⟨event, evolved⟩ := step
    obtain ⟨transition, -⟩ := evolve_eq_ok.mp evolved
    rcases transition.effectView with ⟨unstarted, -⟩ | records | ⟨effectEvent, -, effectStep⟩
    · rw [middleReplayed.unstarted_eq_initial unstarted]
      intro request member
      simp [initialState] at member
    · rw [records]
      exact .refl _
    · exact effectStep.requestsView.continues sound.request_ids sound.requests

/-- In every reachable state the effect records are sound, and along every further run each request, each
attempt start, each outcome and each accepted result goes on as it was. -/
theorem effect_lifecycle (reached : Reachable state) (run : RunsTo state next) :
    EffectsSound state.toEffectRecords ∧ EffectsContinue state.toEffectRecords next.toEffectRecords :=
  ⟨reached.replayable.effectsSound, effectsContinue_run reached.replayable run.eventRun⟩

end

/-! A request of the worked inquiry that is planned, attempted, captured, decoded and accepted, and a late
second interpretation of its return. -/

namespace Worked

def openQuestion : Obligation where
  id := "obligation"
  kind := .characterize
  carrierId := "carrier"
  args := [⟨"carrier", .text "carrier"⟩]
  scope := scope
  bindingRevision := "binding"

def readyPlan : StepPlan where
  id := "plan"
  inputFingerprint := "input"
  policyVersion := "scheduler"
  status := .ready
  selectedObligationId := some "obligation"
  selectedAttemptKey := some ⟨openQuestion.fingerprint, "contract", "1", "binding"⟩
  reason := .deterministicPriority
  remainingBudget := 1
  ready_selects := by simp

def questionRoute : RouteSnapshot where
  id := "route"
  definitionId := "definition"
  definitionVersion := "1"
  definitionArtifact := artifact "definition"
  backendId := "backend"
  adapterId := "adapter"
  adapterVersion := "1"
  executionEnvironmentArtifact := artifact "execution"
  requestOrActionDigest := "action"

def capturedReturn (name : String) : ExternalReturn where
  id := "return-" ++ name
  attemptId := "attempt-" ++ name
  routeId := "route"
  captureBoundary := "boundary"
  captureEncoding := "utf-8"
  capturedAt := 0
  rawPayload := .null

/-- A successful interpretation of a return. -/
def decoding (id returnName resultId : String) : DecodeOutcome where
  id := id
  externalReturnId := "return-" ++ returnName
  decoderId := "decoder"
  decoderVersion := "1"
  body := .decoded ⟨resultId, artifact "semantic", .success "operation"⟩

/-- A request is planned, attempted, captured, decoded into the given result and accepted. -/
def acceptance (name resultId : String) : List CommandBody := [
  .effect (.requestEffect {
    id := "request-" ++ name
    stepPlanId := "plan"
    effectKind := "question"
    adapterId := "adapter"
    inputArtifact := artifact "input" }),
  .effect (.planEffectAttempt ⟨"attempt-" ++ name, "request-" ++ name, questionRoute⟩),
  .effect (.startEffectAttempt ("attempt-" ++ name)),
  .effect (.recordAttemptOutcome ("request-" ++ name) (.returned (capturedReturn name))),
  .effect (.recordDecodeOutcome ("request-" ++ name) (decoding ("decode-" ++ name) name resultId)),
  .effect (.acceptEffectResult ("request-" ++ name) ("decode-" ++ name))]

def planned : List CommandBody :=
  [start, .claim (.openObligation openQuestion), .effect (.recordStepPlan readyPlan)]

def acceptedOnce : InquiryState := reached (planned ++ acceptance "a" "result-a")

/-- A second interpretation of the captured return arrives after the acceptance. -/
def decodedLate : InquiryState :=
  further acceptedOnce [.effect (.recordDecodeOutcome "request-a" (decoding "decode-late" "a" "result-late"))]

theorem accepted_lifecycle :
    (acceptedOnce.effectRequests.map (·.acceptedDecodedOutcomeId) = [some "decode-a"] ∧
      decodedLate.decodeOutcomes.length = 2) ∧
    EffectsSound acceptedOnce.toEffectRecords ∧
      EffectsContinue acceptedOnce.toEffectRecords decodedLate.toEffectRecords :=
  ⟨by decide +kernel, effect_lifecycle (reachable_reached _) (runsTo_further _ _)⟩

end Worked

end RatchetingInquiry
