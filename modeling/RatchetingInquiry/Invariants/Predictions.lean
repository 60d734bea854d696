import RatchetingInquiry.Invariants.Lawfulness
import RatchetingInquiry.Invariants.Origins
import RatchetingInquiry.Invariants.Warrants

/-! Predictions and the returns that they are compared with. A prediction is sealed before the attempt that it
is about returns, however plans, attempts, seals and returns interleave. That the attempt belongs to the request
of the cognitive plan is checked only when the attempt is planned first. -/

namespace RatchetingInquiry

/-- The attempt has a recorded outcome. -/
def EffectRecords.HasOutcome (effects : EffectRecords) (attemptId : String) : Prop :=
  ∃ attempt ∈ effects.attempts, attempt.plan.id = attemptId ∧ attempt.outcome.isSome

/-- The records that a mismatch compares: a sealed prediction, the plan that it is about, the attempt of that
plan with the return that it captured, and the interpretation of the return. -/
structure Mismatch.Judges (mismatch : Mismatch) (state : InquiryState) (prediction : PredictionSeal)
    (plan : CognitiveAttemptPlan) (attempt : AttemptState) (captured : ExternalReturn) (decode : DecodeOutcome) :
    Prop where
  prediction_owned : state.predictions.find? (fun item => item.id = mismatch.predictionId) = some prediction
  plan_owned : state.cognitivePlanById prediction.cognitivePlanId = some plan
  attempt_owned : attempt ∈ state.attempts
  predicted : plan.effectAttemptPlanId = some attempt.plan.id
  returned : attempt.outcome = some (.returned captured)
  cited : captured.id = mismatch.externalReturnId
  decode_owned : decode ∈ state.decodeOutcomes ∧ decode.id = mismatch.decodeOutcomeId
  decodes : decode.externalReturnId = captured.id
  succeeded : decode.result?.isSome

/-- The mismatch cites a return of the attempt. -/
def Mismatch.Cites (mismatch : Mismatch) (effects : EffectRecords) (attemptId : String) : Prop :=
  ∃ captured ∈ effects.capturedReturns, captured.id = mismatch.externalReturnId ∧ captured.attemptId = attemptId

/-- The attempt whose return the mismatch cites belongs to the request of the cognitive plan. -/
def Mismatch.JudgesPlannedRequest (mismatch : Mismatch) (state : InquiryState) : Prop :=
  ∃ prediction plan attempt captured decode, mismatch.Judges state prediction plan attempt captured decode ∧
    ∃ request ∈ state.effectRequests, request.request.id = plan.effectRequestId ∧ attempt ∈ request.attempts

/-- The cognitive plans that already name a planned attempt are about its request. -/
def plansForRequest (state : InquiryState) (command : DomainCommand) : Bool :=
  match command.body with
  | .effect (.planEffectAttempt plan) => state.cognitivePlans.all (fun cognitive =>
      cognitive.effectAttemptPlanId ≠ some plan.id || cognitive.effectRequestId = plan.requestId)
  | _ => true

section
variable {earlier later : EffectRecords} {attempt : AttemptState}

theorem EffectsContinue.keeps_attempt (continued : EffectsContinue earlier later) (member : attempt ∈ earlier.attempts) :
    ∃ next ∈ later.attempts, attempt.Continues next := by
  obtain ⟨request, owned, planned⟩ := List.mem_flatMap.mp member
  obtain ⟨nextRequest, nextOwned, toNext⟩ := continued request owned
  obtain ⟨next, nextPlanned, goesOn⟩ := toNext.attempts attempt planned
  exact ⟨next, List.mem_flatMap.mpr ⟨nextRequest, nextOwned, nextPlanned⟩, goesOn⟩

theorem EffectsContinue.keeps_decodes (continued : EffectsContinue earlier later) :
    earlier.decodeOutcomes ⊆ later.decodeOutcomes := by
  intro decode member
  obtain ⟨request, owned, recorded⟩ := List.mem_flatMap.mp member
  obtain ⟨nextRequest, nextOwned, toNext⟩ := continued request owned
  exact List.mem_flatMap.mpr ⟨nextRequest, nextOwned, toNext.decodes recorded⟩

theorem EffectsContinue.keeps_outcome (continued : EffectsContinue earlier later) {attemptId : String}
    (ended : earlier.HasOutcome attemptId) : later.HasOutcome attemptId := by
  obtain ⟨attempt, member, named, recorded⟩ := ended
  obtain ⟨next, nextMember, goesOn⟩ := continued.keeps_attempt member
  obtain ⟨outcome, isOutcome⟩ := Option.isSome_iff_exists.mp recorded
  refine ⟨next, nextMember, by rw [goesOn.plan, named], ?_⟩
  rw [goesOn.outcome outcome isOutcome]
  rfl

/-- The attempt that captured a return is named by it. -/
theorem EffectsSound.captured_by (sound : EffectsSound earlier) {captured : ExternalReturn}
    (member : attempt ∈ earlier.attempts) (returned : attempt.outcome = some (.returned captured)) :
    captured ∈ earlier.capturedReturns ∧ captured.attemptId = attempt.plan.id := by
  obtain ⟨request, owned, planned⟩ := List.mem_flatMap.mp member
  constructor
  · refine List.mem_flatMap.mpr ⟨request, owned, List.mem_filterMap.mpr ⟨attempt, planned, ?_⟩⟩
    simp [returned, AttemptOutcome.externalReturn?]
  · exact ((sound.requests request owned).outcomes attempt planned _ returned).2.1

theorem introduced_unattempted {event : EffectEvent} {request : EffectRequestState}
    (member : request ∈ event.introduces.effectRequests) : request.attempts = [] := by
  cases event with
  | effectRequested added =>
    obtain rfl : request = { request := added } := by simpa [EffectEvent.introduces] using member
    rfl
  | _ => simp [EffectEvent.introduces] at member

/-- An event leaves the plans of the attempts as they are and adds at most the one that it plans. -/
theorem leaves_plans {event : EffectEvent} {head : EventMetadata} {request : EffectRequestState}
    (member : attempt ∈ (event.leaves head request).attempts) :
    (∃ prior ∈ request.attempts, prior.plan = attempt.plan) ∨ event = .effectAttemptPlanned attempt.plan := by
  cases event with
  | effectAttemptPlanned plan =>
    simp only [EffectEvent.leaves] at member
    split at member
    next =>
      simp only [List.mem_append, List.mem_singleton] at member
      rcases member with prior | rfl
      · exact .inl ⟨attempt, prior, rfl⟩
      · exact .inr rfl
    next => exact .inl ⟨attempt, member, rfl⟩
  | effectAttemptStarted attemptId =>
    obtain ⟨prior, owned, rfl⟩ := List.mem_map.mp member
    refine .inl ⟨prior, owned, ?_⟩
    split <;> rfl
  | effectAttemptOutcomeRecorded requestId outcome =>
    simp only [EffectEvent.leaves] at member
    split at member
    next =>
      obtain ⟨prior, owned, rfl⟩ := List.mem_map.mp member
      refine .inl ⟨prior, owned, ?_⟩
      split <;> rfl
    next => exact .inl ⟨attempt, member, rfl⟩
  | _ =>
    simp only [EffectEvent.leaves] at member
    refine .inl ⟨attempt, ?_, rfl⟩
    first
      | exact member
      | split at member <;> exact member

end

section
variable [Fingerprints] {state before after later : InquiryState} {prediction : PredictionSeal}
  {plan : CognitiveAttemptPlan} {mismatch : Mismatch}

omit [Fingerprints] in
theorem collects_predictions : Collects (fun state => state.predictions) := collects_probe rfl (fun _ _ => rfl)

omit [Fingerprints] in
theorem collects_plans : Collects (fun state => state.cognitivePlans) := collects_probe rfl (fun _ _ => rfl)

omit [Fingerprints] in
theorem plan_kept {planId : String} (joined : ∃ added, RecordsAppended before added later)
    (owned : before.cognitivePlanById planId = some plan) : later.cognitivePlanById planId = some plan :=
  (collects_plans.kept joined).find?_eq_some owned

omit [Fingerprints] in
/-- A prediction is sealed at its own position, for an attempt that has no outcome. -/
theorem freshPrediction_open {event : ProbeDomainEvent} (sound : EffectsSound state.toEffectRecords)
    (judged : freshPrediction state.sequence state.toEffectRecords state.toClaimRecords state.toProbeRecords prediction =
      .ok event) :
    prediction.sealedSequence = state.sequence + 1 ∧ ∃ plan,
      state.cognitivePlanById prediction.cognitivePlanId = some plan ∧
        ∀ attemptId, plan.effectAttemptPlanId = some attemptId → ¬ state.HasOutcome attemptId := by
  simp only [freshPrediction, found_bind_eq_ok, require_bind_eq_ok] at judged
  obtain ⟨plan, owned, -, -, position, unended, -⟩ := judged
  refine ⟨position, plan, owned, ?_⟩
  intro attemptId named ended
  obtain ⟨attempt, member, attemptNamed, recorded⟩ := ended
  have hit := find_of_mem sound.attempt_ids member
  rw [attemptNamed] at hit
  simp only [named, Option.bind_some, hit, Option.all_some, decide_eq_true_eq] at unended
  simp [unended] at recorded

/-- A cognitive plan for an attempt that is planned already is about its request. -/
theorem freshCognitivePlan_agrees {sequence : Nat} {effects : EffectRecords} {claims : ClaimRecords}
    {event : ProbeDomainEvent} (sound : EffectsSound effects)
    (judged : freshCognitivePlan sequence effects claims plan = .ok event) {attempt : AttemptState}
    (member : attempt ∈ effects.attempts) (about : plan.effectAttemptPlanId = some attempt.plan.id) :
    attempt.plan.requestId = plan.effectRequestId := by
  simp only [freshCognitivePlan, found_bind_eq_ok, require_bind_eq_ok] at judged
  obtain ⟨obligation, -, request, requestHit, -, -, -, -, known, -⟩ := judged
  have hit := find_of_mem sound.attempt_ids member
  simp only [about, Option.bind_some, hit, Option.all_some, decide_eq_true_eq] at known
  rw [known, (requestById_some requestHit).2]

/-- Once an attempt has an outcome, no later command seals a prediction about it. -/
theorem sealed_before_outcome (reached : Reachable state) (run : RunsTo state later) {attemptId : String}
    (ended : state.HasOutcome attemptId) (member : prediction ∈ later.predictions)
    (owned : later.cognitivePlanById prediction.cognitivePlanId = some plan)
    (about : plan.effectAttemptPlanId = some attemptId) : prediction ∈ state.predictions := by
  by_contra absent
  obtain ⟨before, command, body, after, step, earlier, introduced⟩ := reached.record_between collects_predictions run absent member
  obtain ⟨event, rfl, listed, -, lawful⟩ := step.introduces_probe (fun _ => rfl) introduced
  obtain rfl : event = .predictionSealed prediction := by
    cases event <;> simp_all [ProbeRecords.apply]
  obtain ⟨-, sealedPlan, sealedOwned, unended⟩ :=
    freshPrediction_open step.replayable.effectsSound (recordOnce_eq_some.mp lawful).2
  obtain rfl : sealedPlan = plan := Option.some.inj ((plan_kept step.joined sealedOwned).symm.trans owned)
  exact unended attemptId about ((effectsContinue_run reached.replayable earlier.eventRun).keeps_outcome ended)

/-- A sealed prediction names a position that the ledger has reached. -/
theorem sealed_within (reached : Reachable state) (member : prediction ∈ state.predictions) :
    prediction.sealedSequence ≤ state.sequence := by
  obtain ⟨before, command, event, after, step, introduced, -, lawful⟩ :=
    (reachableUnder_of_reachable reached).probe_origin ProbeRecords.predictions (fun _ _ => rfl) (fun _ => rfl) member
  obtain rfl : event = .predictionSealed prediction := by
    cases event <;> simp_all [ProbeRecords.apply]
  obtain ⟨position, -⟩ := freshPrediction_open step.replayable.effectsSound (recordOnce_eq_some.mp lawful).2
  rw [position, ← step.sequence_succ]
  exact sequence_le (step.replayable.trans step.commandStep.eventRun) step.run.eventRun

/-- What a mismatch compares is owned from its record on. -/
theorem Reachable.mismatch_judges (reached : Reachable state) (member : mismatch ∈ state.mismatches) :
    ∃ prediction plan attempt captured decode, mismatch.Judges state prediction plan attempt captured decode := by
  obtain ⟨before, command, event, after, step, introduced, -, lawful⟩ :=
    (reachableUnder_of_reachable reached).probe_origin ProbeRecords.mismatches (fun _ _ => rfl) (fun _ => rfl) member
  obtain rfl : event = .mismatchRecorded mismatch := by
    cases event <;> simp_all [ProbeRecords.apply]
  have judged := (recordOnce_eq_some.mp lawful).2
  simp only [freshMismatch, found_bind_eq_ok, require_bind_eq_ok, Option.filter_eq_some_iff,
    Option.bind_eq_some_iff] at judged
  obtain ⟨prediction, predictionHit, -, -, decode, ⟨decodeHit, succeeded⟩, decodes, attemptId,
    ⟨plan, planHit, about⟩, fromPlan, -⟩ := judged
  simp only [returnedFromPlan, List.any_eq_true, Bool.and_eq_true, decide_eq_true_eq, Option.any_eq_true,
    Option.bind_eq_some_iff] at fromPlan
  obtain ⟨attempt, attemptOwned, attemptNamed, captured, ⟨outcome, recorded, returned⟩, cited⟩ := fromPlan
  obtain rfl : outcome = .returned captured := by
    cases outcome <;> simp_all [AttemptOutcome.externalReturn?]
  have continued := effectsContinue_run step.replayable step.eventRun
  obtain ⟨next, nextOwned, goesOn⟩ := continued.keeps_attempt attemptOwned
  refine ⟨prediction, plan, next, captured, decode, ?_⟩
  exact {
    prediction_owned := (collects_predictions.kept step.joined).find?_eq_some predictionHit
    plan_owned := plan_kept step.joined planHit
    attempt_owned := nextOwned
    predicted := by rw [about, goesOn.plan, attemptNamed]
    returned := goesOn.outcome _ recorded
    cited := cited
    decode_owned := ⟨continued.keeps_decodes (List.mem_of_find?_eq_some decodeHit),
      by simpa using List.find?_some decodeHit⟩
    decodes := decodes.trans cited.symm
    succeeded := succeeded }

/-- The step of a run that recorded the outcome of an attempt. -/
structure OutcomeRecorded (attemptId : String) (before after state : InquiryState) : Prop where
  reached : Reachable before
  step : CommandStep before after
  run : RunsTo after state
  unended : ¬ before.HasOutcome attemptId
  ended : after.HasOutcome attemptId

/-- A probe event leaves the effect records alone. -/
theorem Transition.probe_effects {head : EventMetadata} {event : ProbeDomainEvent}
    (transition : Transition before head (.probe event) after) : after.toEffectRecords = before.toEffectRecords := by
  cases transition
  rfl

/-- Whenever the outcome was recorded, the predictions about the attempt were already sealed. -/
theorem OutcomeRecorded.sealed_earlier {attemptId : String} (recorded : OutcomeRecorded attemptId before after state)
    (member : prediction ∈ state.predictions) (owned : state.cognitivePlanById prediction.cognitivePlanId = some plan)
    (about : plan.effectAttemptPlanId = some attemptId) :
    prediction ∈ before.predictions ∧ prediction.sealedSequence < after.sequence := by
  have reachedAfter : Reachable after := Relation.ReflTransGen.tail recorded.reached recorded.step
  have sealedAfter := sealed_before_outcome reachedAfter recorded.run recorded.ended member owned about
  rcases recorded.step.runStep recorded.reached recorded.run with rfl | ⟨command, body, step⟩
  · exact absurd recorded.ended recorded.unended
  · -- one command cannot both seal a prediction and record an outcome
    have sealedBefore : prediction ∈ before.predictions := by
      by_contra unsealed
      obtain ⟨event, rfl, -⟩ :=
        step.introduces_probe (fun _ => rfl) (step.introduces collects_predictions unsealed sealedAfter)
      have ended := recorded.ended
      rw [step.transition.probe_effects] at ended
      exact recorded.unended ended
    have within := sealed_within recorded.reached sealedBefore
    have succ := step.sequence_succ
    exact ⟨sealedBefore, by omega⟩

/-- The prediction of every mismatch was sealed before the outcome that it judges was recorded, the cited
decode interprets exactly the return of that outcome, and no prediction for an attempt that has an outcome is
ever sealed for a mismatch to cite. -/
theorem no_hindsight (reached : Reachable state) :
    (∀ mismatch ∈ state.mismatches, ∃ prediction plan attempt captured decode,
        mismatch.Judges state prediction plan attempt captured decode ∧
        (∃ before after, OutcomeRecorded attempt.plan.id before after state) ∧
        ∀ before after, OutcomeRecorded attempt.plan.id before after state →
          prediction ∈ before.predictions ∧ prediction.sealedSequence < after.sequence) ∧
      ∀ attemptId later, state.HasOutcome attemptId → RunsTo state later → ∀ mismatch ∈ later.mismatches,
        mismatch.Cites later.toEffectRecords attemptId →
          ∃ prediction ∈ state.predictions, prediction.id = mismatch.predictionId := by
  constructor
  · intro mismatch member
    obtain ⟨prediction, plan, attempt, captured, decode, judges⟩ := reached.mismatch_judges member
    refine ⟨prediction, plan, attempt, captured, decode, judges, ?_, ?_⟩
    · have ended : state.HasOutcome attempt.plan.id :=
        ⟨attempt, judges.attempt_owned, rfl, by simp [judges.returned]⟩
      have unended : ¬ initialState.HasOutcome attempt.plan.id := by
        simp [EffectRecords.HasOutcome, EffectRecords.attempts, initialState]
      obtain ⟨before, command, body, after, step, -, absent, present⟩ :=
        Reachable.origin_between (P := fun state => state.HasOutcome attempt.plan.id) .refl reached unended ended
      exact ⟨before, after, step.reached.reachable, step.commandStep, step.run, absent, present⟩
    · intro before after recorded
      exact recorded.sealed_earlier (List.mem_of_find?_eq_some judges.prediction_owned) judges.plan_owned
        judges.predicted
  · intro attemptId later ended run mismatch member cites
    have reachedLater : Reachable later := Relation.ReflTransGen.trans reached run
    obtain ⟨prediction, plan, attempt, captured, decode, judges⟩ := reachedLater.mismatch_judges member
    -- returns are captured once, so the cited attempt is the predicted one
    obtain ⟨cited, citedOwned, citedNamed, citedAttempt⟩ := cites
    have sound := reachedLater.replayable.effectsSound
    obtain ⟨capturedOwned, capturedAttempt⟩ := sound.captured_by judges.attempt_owned judges.returned
    obtain rfl : cited = captured := List.inj_on_of_nodup_map sound.return_ids citedOwned capturedOwned
      (citedNamed.trans judges.cited.symm)
    have about : plan.effectAttemptPlanId = some attemptId := by
      rw [judges.predicted, ← capturedAttempt, citedAttempt]
    refine ⟨prediction, ?_, by simpa using List.find?_some judges.prediction_owned⟩
    exact sealed_before_outcome reached run ended (List.mem_of_find?_eq_some judges.prediction_owned)
      judges.plan_owned about

section
variable {condition : InquiryState → DomainCommand → Prop} {command : DomainCommand} {body : EventBody}

/-- An attempt that a command brought in was planned by it. -/
theorem RunStep.attempt_planned (step : RunStep condition before command body after later) {attemptId : String}
    (absent : ¬ ∃ attempt ∈ before.attempts, attempt.plan.id = attemptId) {attempt : AttemptState}
    (present : attempt ∈ after.attempts) (named : attempt.plan.id = attemptId) :
    command.body = .effect (.planEffectAttempt attempt.plan) ∧ after.toProbeRecords = before.toProbeRecords := by
  rcases step.transition.effectView with ⟨-, records⟩ | records | ⟨event, rfl, -⟩
  · rw [records] at present
    simp [EffectRecords.attempts] at present
  · rw [records] at present
    exact absurd ⟨attempt, present, named⟩ absent
  · have appended := step.transition.effectsAppended step.replayable.effectsSound step.replayable.unstarted_eq_initial
    obtain ⟨request, owned, planned⟩ := List.mem_flatMap.mp present
    rw [appended.requests] at owned
    rcases List.mem_append.mp owned with continued | introduced
    · obtain ⟨prior, priorOwned, rfl⟩ := List.mem_map.mp continued
      rcases leaves_plans planned with ⟨earlier, earlierPlanned, samePlan⟩ | rfl
      · exact absurd ⟨earlier, List.mem_flatMap.mpr ⟨prior, priorOwned, earlierPlanned⟩, samePlan ▸ named⟩ absent
      · refine ⟨?_, by cases step.transition; rfl⟩
        exact step.proposed.effect_command.1
    · rw [introduced_unattempted introduced] at planned
      simp at planned

/-- In every run whose attempts are planned for the requests of the cognitive plans that name them, every
attempt belongs to the request of every cognitive plan that names it. -/
theorem plans_agree (reached : ReachableUnder (fun state command => plansForRequest state command) state)
    (recorded : plan ∈ state.cognitivePlans) {attempt : AttemptState} (member : attempt ∈ state.attempts)
    (about : plan.effectAttemptPlanId = some attempt.plan.id) : attempt.plan.requestId = plan.effectRequestId := by
  obtain ⟨before, command, body, after, step, absent, present⟩ := reached.origin
    (P := fun state => ∃ item ∈ state.attempts, item.plan.id = attempt.plan.id)
    (by simp [EffectRecords.attempts, initialState]) ⟨attempt, member, rfl⟩
  obtain ⟨first, firstOwned, firstNamed⟩ := present
  obtain ⟨commanded, probes⟩ := step.attempt_planned absent firstOwned firstNamed
  have reachedAfter : Reachable after := Relation.ReflTransGen.tail step.reached.reachable step.commandStep
  -- the attempt goes on with the plan that it was given
  have samePlan : first.plan = attempt.plan := by
    obtain ⟨next, nextOwned, goesOn⟩ :=
      (effectsContinue_run reachedAfter.replayable step.run.eventRun).keeps_attempt firstOwned
    have sound := reached.reachable.replayable.effectsSound
    obtain rfl := List.inj_on_of_nodup_map sound.attempt_ids nextOwned member
      (show next.plan.id = attempt.plan.id by rw [goesOn.plan, firstNamed])
    exact goesOn.plan.symm
  by_cases earlier : plan ∈ before.cognitivePlans
  · have meets := step.meets
    simp only [plansForRequest, commanded, List.all_eq_true, Bool.or_eq_true, decide_eq_true_eq] at meets
    rcases meets plan earlier with other | same
    · exact absurd (by rw [about, samePlan]) other
    · rw [← samePlan]
      exact same.symm
  · have unplanned : plan ∉ after.cognitivePlans := by
      rw [probes]
      exact earlier
    obtain ⟨inner, innerCommand, innerBody, outer, planning, between, introduced⟩ :=
      reachedAfter.record_between collects_plans step.run unplanned recorded
    obtain ⟨event, rfl, listed, -, lawful⟩ := planning.introduces_probe (fun _ => rfl) introduced
    obtain rfl : event = .cognitivePlanRecorded plan := by
      cases event <;> simp_all [ProbeRecords.apply]
    obtain ⟨known, knownOwned, goesOn⟩ :=
      (effectsContinue_run reachedAfter.replayable between.eventRun).keeps_attempt firstOwned
    have agreed := freshCognitivePlan_agrees planning.replayable.effectsSound (recordOnce_eq_some.mp lawful).2 knownOwned
      (by rw [about, goesOn.plan, samePlan])
    rw [← agreed, goesOn.plan, samePlan]

/-- In every such run every mismatch judges an attempt of the request that was planned. -/
theorem mismatches_judge_planned
    (reached : ReachableUnder (fun state command => plansForRequest state command) state) :
    ∀ mismatch ∈ state.mismatches, mismatch.JudgesPlannedRequest state := by
  intro mismatch member
  obtain ⟨prediction, plan, attempt, captured, decode, judges⟩ := reached.reachable.mismatch_judges member
  refine ⟨prediction, plan, attempt, captured, decode, judges, ?_⟩
  have agreed := plans_agree reached (List.mem_of_find?_eq_some judges.plan_owned) judges.attempt_owned judges.predicted
  have sound := reached.reachable.replayable.effectsSound
  obtain ⟨request, owned, planned⟩ := List.mem_flatMap.mp judges.attempt_owned
  exact ⟨request, owned, ((sound.requests request owned).attempts_own attempt planned).symm.trans agreed, planned⟩

end

end

/-! A prediction of the worked inquiry about an attempt that is planned after its cognitive plan, for the request
of that plan or for another one. -/

namespace Worked

def prediction : PredictionSeal where
  id := "prediction"
  cognitivePlanId := "cognitive-plan"
  probeOrActionId := "probe"
  predictedReturnClass := "class"
  predictedConsequence := .null
  acceptableVariation := .null
  scopeFingerprint := scope.fingerprint
  basisClaimIds := []
  sealedSequence := 6

def mismatch : Mismatch :=
  ⟨"mismatch", "prediction", "return-a", "decode-a", "claim-a", scope.fingerprint, true, "difference"⟩

/-- The cognitive plan is about the request of the given name and the attempt of the first request. -/
def predicted (name : String) : List CommandBody :=
  planned ++ (acceptance name "result").take 1 ++ [
    .probe (.recordCognitivePlan
      ⟨"cognitive-plan", "obligation", "probe", "request-" ++ name, some "attempt-a", 0, scope.fingerprint, 5⟩),
    .probe (.sealPrediction prediction)]

/-- The attempt returns, and the difference from the prediction is claimed. -/
def observed : List CommandBody :=
  (acceptance "a" "result-a").take 5 ++
    [.claim (.admitClaim (claim "claim-a" "a")), .probe (.recordMismatch mismatch)]

theorem predicted_no_hindsight :
    (mismatch ∈ (reached (predicted "a" ++ observed)).mismatches ∧
      ∃ attempt ∈ (reached (predicted "a" ++ observed)).attempts, attempt.plan.id = "attempt-a" ∧
        attempt.outcome.isSome) ∧
    (∀ mismatch ∈ (reached (predicted "a" ++ observed)).mismatches, ∃ prediction plan attempt captured decode,
        mismatch.Judges (reached (predicted "a" ++ observed)) prediction plan attempt captured decode ∧
        (∃ before after, OutcomeRecorded attempt.plan.id before after (reached (predicted "a" ++ observed))) ∧
        ∀ before after, OutcomeRecorded attempt.plan.id before after (reached (predicted "a" ++ observed)) →
          prediction ∈ before.predictions ∧ prediction.sealedSequence < after.sequence) ∧
      ∀ attemptId later, (reached (predicted "a" ++ observed)).HasOutcome attemptId →
        RunsTo (reached (predicted "a" ++ observed)) later → ∀ mismatch ∈ later.mismatches,
          mismatch.Cites later.toEffectRecords attemptId →
            ∃ prediction ∈ (reached (predicted "a" ++ observed)).predictions, prediction.id = mismatch.predictionId :=
  ⟨by decide +kernel, no_hindsight (reachable_reached _)⟩

theorem predicted_judges_planned :
    mismatch ∈ (reachedUnder plansForRequest (predicted "a" ++ observed)).mismatches ∧
      mismatch.JudgesPlannedRequest (reachedUnder plansForRequest (predicted "a" ++ observed)) := by
  have member : mismatch ∈ (reachedUnder plansForRequest (predicted "a" ++ observed)).mismatches := by decide +kernel
  exact ⟨member, mismatches_judge_planned (reachableUnder_reachedUnder _ _) mismatch member⟩

/-- The attempt that the cognitive plan of one request names is planned afterwards for another. -/
theorem predicted_judges_unplanned : ¬ ∀ state, Reachable state → ∀ mismatch ∈ state.mismatches,
    mismatch.JudgesPlannedRequest state := by
  intro claimed
  have facts : mismatch ∈ (reached (predicted "b" ++ observed)).mismatches ∧
      (∀ plan ∈ (reached (predicted "b" ++ observed)).cognitivePlans, plan.effectRequestId = "request-b") ∧
      ∀ request ∈ (reached (predicted "b" ++ observed)).effectRequests, request.request.id = "request-b" →
        request.attempts = [] := by decide +kernel
  obtain ⟨member, plans, requests⟩ := facts
  obtain ⟨prediction, plan, attempt, captured, decode, judges, request, owned, named, planned⟩ :=
    claimed _ (reachable_reached _) mismatch member
  rw [plans plan (List.mem_of_find?_eq_some judges.plan_owned)] at named
  rw [requests request owned named] at planned
  simp at planned

end Worked

end RatchetingInquiry
