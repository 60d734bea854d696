import RatchetingInquiry.Invariants.Lawfulness

/-! What a command does to the state that it is applied to, whatever that state is: an exact repetition leaves it, and
otherwise the records of one event are added. -/

namespace RatchetingInquiry

theorem recordOnce_eq_none {α β : Type} [RecordEq α] {existing : Option α} {record : α} {reused : String}
    {fresh : Except Failure β} :
    recordOnce existing record reused fresh = .ok none ↔
      ∃ prior, existing = some prior ∧ RecordEq.same prior record := by
  cases existing with
  | none => cases fresh <;> simp [recordOnce, Except.map]
  | some prior =>
    by_cases same : RecordEq.same prior record
    · simp [recordOnce, same]
    · simp [recordOnce, same]

section
variable [Fingerprints] {state next : InquiryState} {head : EventMetadata}

theorem applyCommand_start {manifest : ArtifactRef} {policyVersion : String} {context : InquiryContext}
    (applied : applyCommand state ⟨head, .startInquiry manifest policyVersion context⟩ = .ok next) :
    (state.status = .notStarted ∧ next = startedState head manifest policyVersion context) ∨
      (state.status ≠ .notStarted ∧ state.context = some context ∧ next = state) := by
  rcases applyCommand_eq_ok.mp applied with ⟨decided, rfl⟩ | ⟨event, decided, evolved⟩
  · right
    obtain ⟨body, chosen, nothing⟩ := decide_eq_ok.mp decided
    simp only [decideBody, decideStart] at chosen
    split at chosen
    next =>
      rw [← Except.ok.inj chosen] at nothing
      simp at nothing
    next started =>
      split at chosen
      next pinned => exact ⟨started, pinned.2.2.2, rfl⟩
      next => cases chosen
  · left
    obtain ⟨sameHead, chosen⟩ := decide_singleton.mp decided
    obtain ⟨transition, -⟩ := evolve_eq_ok.mp evolved
    simp only [decideBody, decideStart] at chosen
    split at chosen
    next unstarted =>
      rw [← Option.some.inj (Except.ok.inj chosen), sameHead] at transition
      cases transition
      exact ⟨unstarted, rfl⟩
    next => split at chosen <;> simp at chosen

theorem applyCommand_effect {command : EffectCommand}
    (applied : applyCommand state ⟨head, .effect command⟩ = .ok next) :
    (decideEffect state command = .ok none ∧ next = state) ∨
      ∃ event records, decideEffect state command = .ok (some event) ∧ EffectStep state head event records ∧
        next = { state with toEffectRecords := records, sequence := state.sequence + 1 } := by
  rcases applyCommand_eq_ok.mp applied with ⟨decided, rfl⟩ | ⟨event, decided, evolved⟩
  · left
    refine ⟨?_, rfl⟩
    obtain ⟨body, chosen, nothing⟩ := decide_eq_ok.mp decided
    obtain ⟨-, chosen⟩ := unit_bind_eq_ok.mp chosen
    obtain ⟨decision, lawful, wrapped⟩ := bind_eq_ok.mp chosen
    obtain rfl := Except.ok.inj wrapped
    cases decision with
    | none => exact lawful
    | some event => simp at nothing
  · right
    obtain ⟨sameHead, chosen⟩ := decide_singleton.mp decided
    obtain ⟨active, effect, lawful, same⟩ := activeDecision_eq_some.mp chosen
    obtain ⟨transition, -⟩ := evolve_eq_ok.mp evolved
    rw [same, sameHead] at transition
    cases transition with
    | effect _ records _ step => exact ⟨effect, records, lawful, step, rfl⟩

theorem applyCommand_claim {command : ClaimCommand}
    (applied : applyCommand state ⟨head, .claim command⟩ = .ok next) :
    (decideClaim state command = .ok none ∧ next = state) ∨ ∃ event, decideClaim state command = .ok (some event) ∧
      next = { state with toClaimRecords := state.toClaimRecords.apply event, sequence := state.sequence + 1 } := by
  rcases applyCommand_eq_ok.mp applied with ⟨decided, rfl⟩ | ⟨event, decided, evolved⟩
  · left
    refine ⟨?_, rfl⟩
    obtain ⟨body, chosen, nothing⟩ := decide_eq_ok.mp decided
    obtain ⟨-, chosen⟩ := unit_bind_eq_ok.mp chosen
    obtain ⟨decision, lawful, wrapped⟩ := bind_eq_ok.mp chosen
    obtain rfl := Except.ok.inj wrapped
    cases decision with
    | none => exact lawful
    | some event => simp at nothing
  · right
    obtain ⟨sameHead, chosen⟩ := decide_singleton.mp decided
    obtain ⟨active, claim, lawful, same⟩ := activeDecision_eq_some.mp chosen
    obtain ⟨transition, -⟩ := evolve_eq_ok.mp evolved
    rw [same, sameHead] at transition
    cases transition with
    | claim _ _ _ _ _ => exact ⟨claim, lawful, rfl⟩

theorem runCommands_cons {command : DomainCommand} {rest : List DomainCommand} :
    runCommands state (command :: rest) = .ok next ↔
      ∃ middle, applyCommand state command = .ok middle ∧ runCommands middle rest = .ok next := by
  unfold runCommands
  rw [List.foldlM_cons, bind_eq_ok]

/-! The commands on effects. -/

theorem applyCommand_plan {plan : StepPlan}
    (applied : applyCommand state ⟨head, .effect (.recordStepPlan plan)⟩ = .ok next) :
    (state.stepPlanById plan.id = some plan ∧ next = state) ∨
      (state.stepPlanById plan.id = none ∧
        freshStepPlan state.context state.toClaimRecords plan = .ok (.stepPlanRecorded plan) ∧
        next = { state with stepPlans := state.stepPlans ++ [plan], sequence := state.sequence + 1 }) := by
  rcases applyCommand_effect applied with ⟨decided, rfl⟩ | ⟨event, records, decided, step, rfl⟩
  · obtain ⟨prior, known, same⟩ := recordOnce_eq_none.mp decided
    obtain rfl : prior = plan := by simpa [RecordEq.same] using same
    exact .inl ⟨known, rfl⟩
  · obtain ⟨unknown, fresh⟩ := recordOnce_eq_some.mp decided
    have command := decideEffect_command _ _ decided event rfl
    cases step with
    | stepPlan recorded _ =>
      obtain rfl := EffectCommand.recordStepPlan.inj command
      exact .inr ⟨unknown, fresh, rfl⟩
    | _ => cases command

theorem applyCommand_request {request : EffectRequest}
    (applied : applyCommand state ⟨head, .effect (.requestEffect request)⟩ = .ok next) :
    ((∃ known, state.requestById request.id = some known ∧ known.request = request) ∧ next = state) ∨
      (state.requestById request.id = none ∧ next = { state with
        effectRequests := state.effectRequests ++ [{ request := request }], sequence := state.sequence + 1 }) := by
  rcases applyCommand_effect applied with ⟨decided, rfl⟩ | ⟨event, records, decided, step, rfl⟩
  · obtain ⟨prior, known, same⟩ := recordOnce_eq_none.mp decided
    obtain rfl : prior = request := by simpa [RecordEq.same] using same
    obtain ⟨owned, listed, named⟩ := Option.map_eq_some_iff.mp known
    exact .inl ⟨⟨owned, listed, named⟩, rfl⟩
  · obtain ⟨unknown, -⟩ := recordOnce_eq_some.mp decided
    have command := decideEffect_command _ _ decided event rfl
    cases step with
    | requested added _ _ =>
      obtain rfl := EffectCommand.requestEffect.inj command
      exact .inr ⟨Option.map_eq_none_iff.mp unknown, rfl⟩
    | _ => cases command

theorem applyCommand_attempt {plan : EffectAttemptPlan}
    (applied : applyCommand state ⟨head, .effect (.planEffectAttempt plan)⟩ = .ok next) :
    ∃ request, state.requestById plan.requestId = some request ∧
      (((∃ known ∈ state.attempts, known.plan = plan) ∧ next = state) ∨
        ((∀ known ∈ state.attempts, known.plan.id ≠ plan.id) ∧ next = { state with
          effectRequests := state.replaceRequest { request with attempts := request.attempts ++ [{ plan := plan }] }
          sequence := state.sequence + 1 })) := by
  rcases applyCommand_effect applied with ⟨decided, rfl⟩ | ⟨event, records, decided, step, rfl⟩
  · simp only [decideEffect, decidePlanEffectAttempt, requireRequest, found_bind_eq_ok] at decided
    obtain ⟨request, owned, decided⟩ := decided
    obtain ⟨prior, known, same⟩ := recordOnce_eq_none.mp decided
    obtain rfl : prior = plan := by simpa [RecordEq.same] using same
    obtain ⟨attempt, listed, named⟩ := Option.map_eq_some_iff.mp known
    exact ⟨request, owned, .inl ⟨⟨attempt, List.mem_of_find?_eq_some listed, named⟩, rfl⟩⟩
  · have command := decideEffect_command _ _ decided event rfl
    cases step with
    | attemptPlanned planned replacement rebuilt =>
      obtain rfl := EffectCommand.planEffectAttempt.inj command
      simp only [evolveAttemptPlanned, found_bind_eq_ok, require_bind_eq_ok] at rebuilt
      obtain ⟨request, owned, unknown, -, rebuilt⟩ := rebuilt
      obtain ⟨rfl, -⟩ := rebuildRequest_built rebuilt
      exact ⟨request, owned, .inr ⟨unknown, rfl⟩⟩
    | _ => cases command

theorem applyCommand_attemptStart {attemptId : String}
    (applied : applyCommand state ⟨head, .effect (.startEffectAttempt attemptId)⟩ = .ok next) :
    ∃ request attempt, state.containingRequest attemptId = some request ∧
      request.attemptById attemptId = some attempt ∧
      ((attempt.started = true ∧ next = state) ∨
        (attempt.started = false ∧ next = { state with
          effectRequests := state.replaceRequest { request with
            attempts := request.attempts.map (fun item => if item.plan.id = attemptId then item.start head else item) }
          sequence := state.sequence + 1 })) := by
  rcases applyCommand_effect applied with ⟨decided, rfl⟩ | ⟨event, records, decided, step, rfl⟩
  · simp only [decideEffect, decideStartEffectAttempt, found_bind_eq_ok] at decided
    obtain ⟨request, owned, attempt, listed, decided⟩ := decided
    split at decided
    next started => exact ⟨request, attempt, owned, listed, .inl ⟨started, rfl⟩⟩
    next => simp [pure, Except.pure] at decided
  · have command := decideEffect_command _ _ decided event rfl
    cases step with
    | attemptStarted started replacement rebuilt =>
      obtain rfl := EffectCommand.startEffectAttempt.inj command
      simp only [evolveAttemptStarted, found_bind_eq_ok, require_bind_eq_ok] at rebuilt
      obtain ⟨request, owned, attempt, listed, unstarted, -, rebuilt⟩ := rebuilt
      obtain ⟨rfl, -⟩ := rebuildRequest_built rebuilt
      exact ⟨request, attempt, owned, listed, .inr ⟨unstarted, rfl⟩⟩
    | _ => cases command

theorem applyCommand_outcome {requestId : String} {outcome : AttemptOutcome}
    (applied : applyCommand state ⟨head, .effect (.recordAttemptOutcome requestId outcome)⟩ = .ok next) :
    ∃ request attempt, state.requestById requestId = some request ∧
      request.attemptById outcome.attemptId = some attempt ∧
      ((attempt.outcome = some outcome ∧ next = state) ∨
        (attempt.outcome = none ∧ next = { state with
          effectRequests := state.replaceRequest { request with
            attempts := request.attempts.map (fun item =>
              if item.plan.id = attempt.plan.id then { item with outcome := some outcome } else item) }
          sequence := state.sequence + 1 })) := by
  rcases applyCommand_effect applied with ⟨decided, rfl⟩ | ⟨event, records, decided, step, rfl⟩
  · simp only [decideEffect, decideAttemptOutcome, requireRequest, found_bind_eq_ok, require_bind_eq_ok] at decided
    obtain ⟨request, owned, attempt, listed, -, -, decided⟩ := decided
    split at decided
    next prior ended =>
      split at decided
      next same => exact ⟨request, attempt, owned, listed, .inl ⟨same ▸ ended, rfl⟩⟩
      next => cases decided
    next => simp [pure, Except.pure] at decided
  · have command := decideEffect_command _ _ decided event rfl
    cases step with
    | attemptOutcome named recorded replacement rebuilt =>
      obtain ⟨rfl, rfl⟩ := EffectCommand.recordAttemptOutcome.inj command
      simp only [evolveAttemptOutcome, found_bind_eq_ok, require_bind_eq_ok] at rebuilt
      obtain ⟨request, owned, attempt, listed, -, unended, -, rebuilt⟩ := rebuilt
      obtain ⟨rfl, -⟩ := rebuildRequest_built rebuilt
      exact ⟨request, attempt, owned, listed, .inr ⟨unended, rfl⟩⟩
    | _ => cases command

theorem applyCommand_decode {requestId : String} {outcome : DecodeOutcome}
    (applied : applyCommand state ⟨head, .effect (.recordDecodeOutcome requestId outcome)⟩ = .ok next) :
    ∃ request, state.requestById requestId = some request ∧
      ((outcome ∈ state.decodeOutcomes ∧ next = state) ∨
        ((∀ known ∈ state.decodeOutcomes, known.id ≠ outcome.id) ∧ next = { state with
          effectRequests := state.replaceRequest { request with decodeOutcomes := request.decodeOutcomes ++ [outcome] }
          sequence := state.sequence + 1 })) := by
  rcases applyCommand_effect applied with ⟨decided, rfl⟩ | ⟨event, records, decided, step, rfl⟩
  · simp only [decideEffect, decideDecodeOutcome, requireRequest, found_bind_eq_ok] at decided
    obtain ⟨request, owned, decided⟩ := decided
    obtain ⟨prior, known, same⟩ := recordOnce_eq_none.mp decided
    obtain rfl : prior = outcome := by simpa [RecordEq.same] using same
    exact ⟨request, owned, .inl ⟨List.mem_of_find?_eq_some known, rfl⟩⟩
  · have command := decideEffect_command _ _ decided event rfl
    cases step with
    | decodeOutcome named recorded replacement rebuilt =>
      obtain ⟨rfl, rfl⟩ := EffectCommand.recordDecodeOutcome.inj command
      simp only [evolveDecodeOutcome, found_bind_eq_ok, require_bind_eq_ok] at rebuilt
      obtain ⟨request, owned, unknown, -, rebuilt⟩ := rebuilt
      obtain ⟨rfl, -⟩ := rebuildRequest_built rebuilt
      exact ⟨request, owned, .inr ⟨unknown, rfl⟩⟩
    | _ => cases command

theorem applyCommand_accept {requestId decodedOutcomeId : String}
    (applied : applyCommand state ⟨head, .effect (.acceptEffectResult requestId decodedOutcomeId)⟩ = .ok next) :
    ∃ request, state.requestById requestId = some request ∧
      ((request.acceptedDecodedOutcomeId = some decodedOutcomeId ∧ next = state) ∨
        (request.acceptedDecodedOutcomeId = none ∧ next = { state with
          effectRequests := state.replaceRequest { request with acceptedDecodedOutcomeId := some decodedOutcomeId }
          sequence := state.sequence + 1 })) := by
  rcases applyCommand_effect applied with ⟨decided, rfl⟩ | ⟨event, records, decided, step, rfl⟩
  · simp only [decideEffect, decideAcceptEffectResult, requireRequest, found_bind_eq_ok] at decided
    obtain ⟨request, owned, decided⟩ := decided
    split at decided
    next accepted resolved =>
      split at decided
      next same => exact ⟨request, owned, .inl ⟨same ▸ resolved, rfl⟩⟩
      next => cases decided
    next => simp [pure, Except.pure] at decided
  · have command := decideEffect_command _ _ decided event rfl
    cases step with
    | resultAccepted named accepted replacement rebuilt =>
      obtain ⟨rfl, rfl⟩ := EffectCommand.acceptEffectResult.inj command
      simp only [evolveResultAccepted, found_bind_eq_ok, require_bind_eq_ok] at rebuilt
      obtain ⟨request, owned, unresolved, -, rebuilt⟩ := rebuilt
      obtain ⟨rfl, -⟩ := rebuildRequest_built rebuilt
      exact ⟨request, owned, .inr ⟨unresolved, rfl⟩⟩
    | _ => cases command

/-! The commands on claims and obligations. -/

theorem applyCommand_admit {claim : Claim}
    (applied : applyCommand state ⟨head, .claim (.admitClaim claim)⟩ = .ok next) :
    ((state.claimById claim.id).isSome ∧ next = state) ∨
      (state.claimById claim.id = none ∧ next = { state with
        claims := state.claims ++ [claim]
        conflicts := state.conflicts ++ derivedConflicts state.toClaimRecords claim
        obligations := state.obligations ++ derivedObligations state claim
        sequence := state.sequence + 1 }) := by
  rcases applyCommand_claim applied with ⟨decided, rfl⟩ | ⟨event, decided, rfl⟩
  · obtain ⟨prior, known, -⟩ := recordOnce_eq_none.mp decided
    exact .inl ⟨Option.isSome_of_eq_some known, rfl⟩
  · obtain ⟨unknown, fresh⟩ := recordOnce_eq_some.mp decided
    simp only [freshClaim, require_bind_eq_ok, pure, Except.pure, Except.ok.injEq] at fresh
    obtain ⟨-, -, rfl⟩ := fresh
    exact .inr ⟨unknown, rfl⟩

theorem applyCommand_openObligation {obligation : Obligation}
    (applied : applyCommand state ⟨head, .claim (.openObligation obligation)⟩ = .ok next) :
    (obligation.id ∈ state.obligations.map Obligation.id ∨
        obligation.fingerprint ∈ state.obligations.map Obligation.fingerprint) ∧ next = state ∨
      state.obligationById obligation.id = none ∧ next = { state with
        obligations := state.obligations ++ [obligation], sequence := state.sequence + 1 } := by
  rcases applyCommand_claim applied with ⟨decided, rfl⟩ | ⟨event, decided, rfl⟩
  · simp only [decideClaim, decideOpenObligation] at decided
    split at decided
    next prior known =>
      have named := List.find?_some known
      refine .inl ⟨.inl (List.mem_map.mpr ⟨prior, List.mem_of_find?_eq_some known, by simpa using named⟩), rfl⟩
    next =>
      split at decided
      next repeated => exact .inl ⟨.inr repeated, rfl⟩
      next => simp [require_bind_eq_ok, pure, Except.pure] at decided
  · have command := decideClaim_command _ _ decided event rfl
    cases event with
    | obligationOpened opened =>
      obtain rfl := ClaimCommand.openObligation.inj command
      simp only [decideClaim, decideOpenObligation] at decided
      split at decided
      next =>
        split at decided
        next => cases decided
        next => cases decided
      next unknown => exact .inr ⟨unknown, rfl⟩
    | _ => cases command

theorem applyCommand_disposition {disposition : ObligationDisposition}
    (applied : applyCommand state ⟨head, .claim (.recordObligationDisposition disposition)⟩ = .ok next) :
    (state.obligationById disposition.obligationId).isSome ∧
      (disposition ∈ state.obligationDispositions ∧ next = state ∨
        (∀ known ∈ state.obligationDispositions, known.id ≠ disposition.id) ∧ next = { state with
          obligationDispositions := state.obligationDispositions ++ [disposition]
          sequence := state.sequence + 1 }) := by
  rcases applyCommand_claim applied with ⟨decided, rfl⟩ | ⟨event, decided, rfl⟩
  · simp only [decideClaim, decideObligationDisposition, found_bind_eq_ok] at decided
    obtain ⟨obligation, owned, decided⟩ := decided
    obtain ⟨prior, known, same⟩ := recordOnce_eq_none.mp decided
    obtain rfl : prior = disposition := by simpa [RecordEq.same] using same
    exact ⟨Option.isSome_of_eq_some owned, .inl ⟨List.mem_of_find?_eq_some known, rfl⟩⟩
  · have command := decideClaim_command _ _ decided event rfl
    simp only [decideClaim, decideObligationDisposition, found_bind_eq_ok] at decided
    obtain ⟨obligation, owned, decided⟩ := decided
    obtain ⟨unknown, -⟩ := recordOnce_eq_some.mp decided
    cases event with
    | obligationDispositionRecorded recorded =>
      obtain rfl := ClaimCommand.recordObligationDisposition.inj command
      refine ⟨Option.isSome_of_eq_some owned, .inr ⟨?_, rfl⟩⟩
      intro known listed same
      exact List.find?_eq_none.mp unknown known listed (by simpa using same)
    | _ => cases command

end

end RatchetingInquiry
