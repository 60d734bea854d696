import RatchetingInquiry.Invariants.Executor
import RatchetingInquiry.Invariants.Predictions
import RatchetingInquiry.Invariants.Saga

/-! Calls of the executor for one planned attempt, one after another, with crashes between them: what lasts along
their operations, and what they leave in the ledger. -/

namespace RatchetingInquiry

section
variable [Fingerprints] [ByteFacts] [Pydantic]

/-- The event records an outcome of the attempt. -/
def DomainEvent.endsAttempt (attemptId : String) (event : DomainEvent) : Bool :=
  match event.body with
  | .effect (.effectAttemptOutcomeRecorded _ outcome) => outcome.attemptId = attemptId
  | _ => false

/-- The event records a decode of the return. -/
def DomainEvent.decodesReturn (returnId : String) (event : DomainEvent) : Bool :=
  match event.body with
  | .effect (.effectDecodeOutcomeRecorded _ outcome) => outcome.externalReturnId = returnId
  | _ => false

/-- The event accepts a result of the request. -/
def DomainEvent.acceptsResult (requestId : String) (event : DomainEvent) : Bool :=
  match event.body with
  | .effect (.effectResultAccepted owner _) => owner = requestId
  | _ => false

section
variable {inquiryId requestId attemptId : String} {state after : InquiryState} {events : List DomainEvent}
  {event : DomainEvent} {externalReturn : ExternalReturn} {decode : DecodeOutcome}

omit [ByteFacts] [Pydantic] in
theorem Replayable.evolved (replayed : Replayable state) (evolved : evolve state event = .ok after) : Replayable after :=
  Relation.ReflTransGen.tail replayed ⟨event, evolved⟩

omit [ByteFacts] [Pydantic] in
/-- A request goes on with everything that it has. -/
theorem evolve_extends (replayed : Replayable state) (evolved : evolve state event = .ok after)
    {request : EffectRequestState} (owned : state.requestById requestId = some request) :
    ∃ later, after.requestById requestId = some later ∧ request.Extends later := by
  obtain ⟨transition, -⟩ := evolve_eq_ok.mp evolved
  have appended := transition.effectsAppended replayed.effectsSound replayed.unstarted_eq_initial
  obtain ⟨member, named⟩ := requestById_some owned
  have goesOn := appended.extended request member
  refine ⟨event.body.leaves event.head request, ?_, goesOn⟩
  have unique := (replayed.evolved evolved).effectsSound.request_ids
  have listed : event.body.leaves event.head request ∈ after.effectRequests := by
    rw [appended.requests]
    exact List.mem_append_left _ (List.mem_map_of_mem member)
  have hit := find_of_mem unique listed
  simp only [goesOn.request, named] at hit
  exact hit

omit [ByteFacts] [Pydantic] in
/-- A recorded return stays the outcome of its attempt. -/
theorem HasReturn.kept (replayed : Replayable state) (evolved : evolve state event = .ok after)
    (returned : state.toEffectRecords.HasReturn requestId attemptId externalReturn) :
    after.toEffectRecords.HasReturn requestId attemptId externalReturn := by
  obtain ⟨request, attempt, ⟨owned, planned⟩, recorded⟩ := returned
  obtain ⟨later, laterOwned, goesOn⟩ := evolve_extends replayed evolved owned
  obtain ⟨member, named⟩ := attemptById_some planned
  obtain ⟨next, listed, continued⟩ := goesOn.continued.attempts attempt member
  have sound := (replayed.evolved evolved).effectsSound
  have unique := (sound.requests later (requestById_some laterOwned).1).attempts_unique
  have hit := find_of_mem unique listed
  simp only [continued.plan, named] at hit
  exact ⟨later, next, ⟨laterOwned, hit⟩, continued.outcome _ recorded⟩

omit [ByteFacts] [Pydantic] in
/-- The first decode of a return stays the first one. -/
theorem FirstDecode.kept {returnId : String} (replayed : Replayable state) (evolved : evolve state event = .ok after)
    (first : state.toEffectRecords.FirstDecode requestId returnId decode) :
    after.toEffectRecords.FirstDecode requestId returnId decode := by
  obtain ⟨request, owned, hit⟩ := first
  obtain ⟨later, laterOwned, goesOn⟩ := evolve_extends replayed evolved owned
  exact ⟨later, laterOwned, goesOn.decodes.find?_eq_some hit⟩

omit [ByteFacts] [Pydantic] in
/-- The event that ends an attempt finds it without an outcome. -/
theorem outcome_recorded {owner : String} {outcome : AttemptOutcome} (replayed : Replayable state)
    (evolved : evolve state event = .ok after)
    (body : event.body = .effect (.effectAttemptOutcomeRecorded owner outcome)) :
    ¬ state.HasOutcome outcome.attemptId ∧ after.HasOutcome outcome.attemptId := by
  obtain ⟨head, _⟩ := event
  subst body
  obtain ⟨transition, -⟩ := evolve_eq_ok.mp evolved
  cases transition with
  | effect _ _ _ step =>
    cases step with
    | attemptOutcome _ _ _ rebuilt =>
      simp only [evolveAttemptOutcome, found_bind_eq_ok, require_bind_eq_ok] at rebuilt
      obtain ⟨request, hit, attempt, attemptHit, -, unended, -, -⟩ := rebuilt
      obtain ⟨planned, named⟩ := attemptById_some attemptHit
      have listed : attempt ∈ state.attempts := List.mem_flatMap.mpr ⟨request, (requestById_some hit).1, planned⟩
      constructor
      · intro ended
        obtain ⟨other, member, otherNamed, recorded⟩ := ended
        obtain rfl := List.inj_on_of_nodup_map replayed.effectsSound.attempt_ids member listed
          (otherNamed.trans named.symm)
        simp [unended] at recorded
      · have later := evolve_request replayed rfl evolved owner
        rw [hit, Option.map_some] at later
        refine ⟨{ attempt with outcome := some outcome }, ?_, named, rfl⟩
        refine List.mem_flatMap.mpr ⟨_, (requestById_some later).1, ?_⟩
        simp only [EffectEvent.leaves, if_pos (requestById_some hit).2.symm]
        exact List.mem_map.mpr ⟨attempt, planned, if_pos named⟩

omit [ByteFacts] [Pydantic] in
/-- The event that accepts a result finds its request without one. -/
theorem acceptance_recorded {decodeId : String} (replayed : Replayable state) (evolved : evolve state event = .ok after)
    (body : event.body = .effect (.effectResultAccepted requestId decodeId)) :
    ¬ state.Accepted requestId ∧ after.Accepted requestId := by
  obtain ⟨head, _⟩ := event
  subst body
  obtain ⟨transition, -⟩ := evolve_eq_ok.mp evolved
  cases transition with
  | effect _ _ _ step =>
    cases step with
    | resultAccepted _ _ _ rebuilt =>
      simp only [evolveResultAccepted, found_bind_eq_ok, require_bind_eq_ok] at rebuilt
      obtain ⟨request, hit, unresolved, -⟩ := rebuilt
      constructor
      · intro accepted
        obtain ⟨other, owned, already⟩ := accepted
        obtain rfl : request = other := Option.some.inj (hit.symm.trans owned)
        exact already unresolved
      · have later := evolve_request replayed rfl evolved requestId
        rw [hit, Option.map_some] at later
        exact ⟨_, later, by simp [EffectEvent.leaves, (requestById_some hit).2]⟩

omit [ByteFacts] [Pydantic] in
/-- An attempt ends at most once in any events that replay. -/
theorem outcomes_once (replayed : replay initialState events = .ok state) (attemptId : String) :
    events.countP (DomainEvent.endsAttempt attemptId) ≤ 1 := by
  refine (foldlM_occurs_once Replayable (fun state => state.HasOutcome attemptId) ?_ ?_ ?_ .refl replayed).1
  · intro before event after sound evolved
    exact sound.evolved evolved
  · intro before event after sound evolved ends
    obtain ⟨owner, outcome, body, rfl⟩ : ∃ owner outcome,
        event.body = .effect (.effectAttemptOutcomeRecorded owner outcome) ∧ outcome.attemptId = attemptId := by
      unfold DomainEvent.endsAttempt at ends
      split at ends
      next owner outcome body => exact ⟨owner, outcome, body, by simpa using ends⟩
      next => cases ends
    exact outcome_recorded sound evolved body
  · intro before event after sound evolved ended
    exact (effectsContinue_run sound (.single ⟨event, evolved⟩)).keeps_outcome ended

omit [ByteFacts] [Pydantic] in
/-- A request accepts at most one result in any events that replay. -/
theorem acceptances_once (replayed : replay initialState events = .ok state) (requestId : String) :
    events.countP (DomainEvent.acceptsResult requestId) ≤ 1 := by
  refine (foldlM_occurs_once Replayable (fun state => state.Accepted requestId) ?_ ?_ ?_ .refl replayed).1
  · intro before event after sound evolved
    exact sound.evolved evolved
  · intro before event after sound evolved accepts
    obtain ⟨decodeId, body⟩ : ∃ decodeId, event.body = .effect (.effectResultAccepted requestId decodeId) := by
      unfold DomainEvent.acceptsResult at accepts
      split at accepts
      next owner decodeId body =>
        obtain rfl : owner = requestId := by simpa using accepts
        exact ⟨decodeId, body⟩
      next => cases accepts
    exact acceptance_recorded sound evolved body
  · intro before event after sound evolved accepted
    obtain ⟨request, owned, some⟩ := accepted
    obtain ⟨decodeId, isAccepted⟩ := Option.ne_none_iff_exists'.mp some
    obtain ⟨later, laterOwned, goesOn⟩ := evolve_extends sound evolved owned
    exact ⟨later, laterOwned, by simp [goesOn.continued.accepted decodeId isAccepted]⟩

end

/-- Where the calls are, some operations after a ledger with the given events. -/
structure Progress (inquiryId requestId attemptId : String) (start : List DomainEvent) (world : ExecutorWorld)
    (added : List DomainEvent) (state : InquiryState) : Prop where
  fold : ShowsFold world.ledger inquiryId (start ++ added) state
  performs : ∀ ledger ∈ world.performed, ∃ events shown, ShowsFold ledger inquiryId events shown ∧
    shown.ReadyToPerform requestId attemptId
  decodings : ∀ entry ∈ world.decodings, ∃ events shown externalReturn, ShowsFold entry.2 inquiryId events shown ∧
    shown.HasReturn requestId attemptId externalReturn ∧ externalReturn.IsStoredAs entry.1
  decodes : ∀ head owner outcome, ⟨head, .effect (.effectDecodeOutcomeRecorded owner outcome)⟩ ∈ added →
    state.FirstDecode requestId outcome.externalReturnId outcome ∧ ∃ externalReturn,
      state.HasReturn requestId attemptId externalReturn ∧ outcome.externalReturnId = externalReturn.id
  once : ∀ returnId, added.countP (DomainEvent.decodesReturn returnId) ≤ 1

section
variable {inquiryId requestId attemptId : String} {start added events : List DomainEvent} {state : InquiryState}
  {world next : ExecutorWorld}

omit [Fingerprints] [ByteFacts] [Pydantic] in
theorem decodesReturn_eq_true {returnId : String} {event : DomainEvent} :
    event.decodesReturn returnId = true ↔ ∃ owner outcome,
      event.body = .effect (.effectDecodeOutcomeRecorded owner outcome) ∧ outcome.externalReturnId = returnId := by
  unfold DomainEvent.decodesReturn
  split
  next owner outcome body => simp [body]
  next other => simp_all

omit [ByteFacts] [Pydantic] in
/-- A committed decode is the first one of its return. -/
theorem committed_decode {after : InquiryState} {head : EventMetadata} {owner : String} {outcome : DecodeOutcome}
    (replayed : Replayable state)
    (evolved : evolve state ⟨head, .effect (.effectDecodeOutcomeRecorded owner outcome)⟩ = .ok after)
    (lawful : state.MayCommit requestId attemptId (.effectDecodeOutcomeRecorded owner outcome)) :
    after.FirstDecode requestId outcome.externalReturnId outcome ∧ ∃ externalReturn,
      after.HasReturn requestId attemptId externalReturn ∧ outcome.externalReturnId = externalReturn.id := by
  obtain ⟨rfl, externalReturn, returned, names, undecoded⟩ := lawful
  refine ⟨?_, externalReturn, HasReturn.kept replayed evolved returned, names⟩
  obtain ⟨request, attempt, ⟨owned, -⟩, -⟩ := id returned
  refine ⟨_, by rw [evolve_request replayed rfl evolved, owned, Option.map_some], ?_⟩
  have missing : request.decodeOutcomes.find? (fun item => item.externalReturnId = outcome.externalReturnId) = none := by
    cases hit : request.decodeOutcomes.find? (fun item => item.externalReturnId = outcome.externalReturnId) with
    | none => rfl
    | some first =>
      rw [names] at hit
      exact absurd ⟨request, owned, hit⟩ (undecoded first)
  simp only [EffectEvent.leaves, if_pos (requestById_some owned).2.symm, List.find?_append, missing]
  simp

/-- One operation goes on from where the calls are. -/
theorem Progress.step (progress : Progress inquiryId requestId attemptId start world added state)
    (step : ExecutorStep inquiryId requestId attemptId world next) :
    ∃ more after, Progress inquiryId requestId attemptId start next (added ++ more) after := by
  cases step with
  | stored store =>
    exact ⟨[], state, by rw [List.append_nil]; exact ⟨progress.fold, progress.performs, progress.decodings,
      progress.decodes, progress.once⟩⟩
  | performed events shown fold ready =>
    refine ⟨[], state, ?_⟩
    rw [List.append_nil]
    refine ⟨progress.fold, ?_, progress.decodings, progress.decodes, progress.once⟩
    intro ledger member
    rcases List.mem_append.mp member with earlier | last
    · exact progress.performs ledger earlier
    · obtain rfl := List.mem_singleton.mp last
      exact ⟨events, shown, fold, ready⟩
  | decoded raw events shown externalReturn fold returned stored =>
    refine ⟨[], state, ?_⟩
    rw [List.append_nil]
    refine ⟨progress.fold, progress.performs, ?_, progress.decodes, progress.once⟩
    intro entry member
    rcases List.mem_append.mp member with earlier | last
    · exact progress.decodings entry earlier
    · obtain rfl := List.mem_singleton.mp last
      exact ⟨events, shown, externalReturn, fold, returned, stored⟩
  | committed ledger events shown after head event fold evolved folded lawful =>
    obtain ⟨rfl, rfl⟩ := progress.fold.unique fold
    have replayed := progress.fold.replayable
    refine ⟨[⟨head, .effect event⟩], after, by rw [← List.append_assoc]; exact folded, progress.performs,
      progress.decodings, ?_, ?_⟩
    · intro otherHead owner outcome member
      rcases List.mem_append.mp member with earlier | last
      · obtain ⟨first, externalReturn, returned, names⟩ := progress.decodes otherHead owner outcome earlier
        exact ⟨FirstDecode.kept replayed evolved first, externalReturn, HasReturn.kept replayed evolved returned, names⟩
      · obtain ⟨rfl, same⟩ := DomainEvent.mk.inj (List.mem_singleton.mp last)
        obtain rfl := EventBody.effect.inj same
        exact committed_decode replayed evolved lawful
    · intro returnId
      rw [List.countP_append]
      by_cases decodes : (⟨head, .effect event⟩ : DomainEvent).decodesReturn returnId = true
      · -- An earlier decode of the return would be its first one, and this one is committed only where there is none.
        obtain ⟨owner, outcome, body, rfl⟩ := decodesReturn_eq_true.mp decodes
        obtain rfl := EventBody.effect.inj body
        obtain ⟨rfl, externalReturn, -, names, undecoded⟩ := lawful
        have none : added.countP (DomainEvent.decodesReturn outcome.externalReturnId) = 0 := by
          rw [List.countP_eq_zero]
          intro other member otherDecodes
          obtain ⟨otherOwner, otherOutcome, otherBody, sameReturn⟩ := decodesReturn_eq_true.mp otherDecodes
          obtain ⟨otherHead, _⟩ := other
          subst otherBody
          obtain ⟨first, -⟩ := progress.decodes otherHead otherOwner otherOutcome member
          rw [sameReturn, names] at first
          exact undecoded otherOutcome first
        rw [none, Nat.zero_add]
        exact List.countP_le_length
      · have unchanged : List.countP (DomainEvent.decodesReturn returnId) [⟨head, .effect event⟩] = 0 := by
          rw [List.countP_eq_zero]
          intro other member
          obtain rfl := List.mem_singleton.mp member
          exact decodes
        rw [unchanged]
        exact progress.once returnId

/-- The operations of any calls go on from where the calls are. -/
theorem Progress.run (progress : Progress inquiryId requestId attemptId start world added state)
    (run : Relation.ReflTransGen (ExecutorStep inquiryId requestId attemptId) world next) :
    ∃ more after, Progress inquiryId requestId attemptId start next (added ++ more) after := by
  induction run with
  | refl => exact ⟨[], state, by rw [List.append_nil]; exact progress⟩
  | tail _ step ih =>
    obtain ⟨more, middle, reached⟩ := ih
    obtain ⟨last, after, final⟩ := reached.step step
    exact ⟨more ++ last, after, by rw [← List.append_assoc]; exact final⟩

/-- Once the return is committed, no operation performs the attempt. -/
theorem performs_no_more {externalReturn : ExternalReturn} (fold : ShowsFold world.ledger inquiryId events state)
    (returned : state.HasReturn requestId attemptId externalReturn)
    (run : Relation.ReflTransGen (ExecutorStep inquiryId requestId attemptId) world next) :
    next.performed = world.performed ∧ ∃ shown after, ShowsFold next.ledger inquiryId shown after ∧
      after.HasReturn requestId attemptId externalReturn := by
  induction run with
  | refl => exact ⟨rfl, events, state, fold, returned⟩
  | tail _ step ih =>
    obtain ⟨unmoved, shown, middle, middleFold, still⟩ := ih
    cases step with
    | stored store => exact ⟨unmoved, shown, middle, middleFold, still⟩
    | committed ledger others other after head event fold evolved folded lawful =>
      obtain ⟨rfl, rfl⟩ := middleFold.unique fold
      exact ⟨unmoved, _, after, folded, HasReturn.kept middleFold.replayable evolved still⟩
    | performed others other fold ready =>
      obtain ⟨rfl, rfl⟩ := middleFold.unique fold
      obtain ⟨request, attempt, located, -, unended, -⟩ := ready
      obtain ⟨sameRequest, sameAttempt, locatedReturn, recorded⟩ := still
      obtain rfl : request = sameRequest := Option.some.inj (located.1.symm.trans locatedReturn.1)
      obtain rfl : attempt = sameAttempt := Option.some.inj (located.2.symm.trans locatedReturn.2)
      rw [unended] at recorded
      cases recorded
    | decoded => exact ⟨unmoved, shown, middle, middleFold, still⟩

omit [Fingerprints] [ByteFacts] [Pydantic] in
theorem decode_left {event : EffectEvent} {head : EventMetadata} {request : EffectRequestState}
    {decode : DecodeOutcome} (member : decode ∈ (event.leaves head request).decodeOutcomes) :
    decode ∈ request.decodeOutcomes ∨ ∃ owner, event = .effectDecodeOutcomeRecorded owner decode := by
  cases event with
  | effectDecodeOutcomeRecorded owner outcome =>
    simp only [EffectEvent.leaves] at member
    split at member
    next =>
      rcases List.mem_append.mp member with earlier | last
      · exact .inl earlier
      · rw [List.mem_singleton.mp last]
        exact .inr ⟨owner, rfl⟩
    next => exact .inl member
  | effectAttemptStarted => exact .inl member
  | backlogEffectRecorded => exact .inl member
  | stepPlanRecorded => exact .inl member
  | effectRequested => exact .inl member
  | _ =>
    simp only [EffectEvent.leaves] at member
    split at member <;> exact .inl member

omit [ByteFacts] [Pydantic] in
/-- A decode that an event leaves was there, or the event records it. -/
theorem evolve_decodes {after : InquiryState} {event : DomainEvent} {decode : DecodeOutcome} (replayed : Replayable state)
    (evolved : evolve state event = .ok after) (member : decode ∈ after.decodeOutcomes) :
    decode ∈ state.decodeOutcomes ∨ ∃ owner, event.body = .effect (.effectDecodeOutcomeRecorded owner decode) := by
  obtain ⟨transition, -⟩ := evolve_eq_ok.mp evolved
  have appended := transition.effectsAppended replayed.effectsSound replayed.unstarted_eq_initial
  obtain ⟨request, owned, recorded⟩ := List.mem_flatMap.mp member
  rw [appended.requests] at owned
  rcases List.mem_append.mp owned with continued | introduced
  · obtain ⟨prior, priorOwned, rfl⟩ := List.mem_map.mp continued
    have listed : decode ∈ prior.decodeOutcomes ∨ ∃ owner, event.body = .effect (.effectDecodeOutcomeRecorded owner decode) := by
      cases body : event.body with
      | effect effect =>
        rw [body] at recorded
        rcases decode_left recorded with earlier | ⟨owner, rfl⟩
        · exact .inl earlier
        · exact .inr ⟨owner, rfl⟩
      | _ =>
        rw [body] at recorded
        exact .inl recorded
    exact listed.imp_left (fun earlier => List.mem_flatMap.mpr ⟨prior, priorOwned, earlier⟩)
  · have empty : request.decodeOutcomes = [] := by
      cases body : event.body with
      | effect effect =>
        rw [body] at introduced
        cases effect with
        | effectRequested added =>
          obtain rfl : request = { request := added } := by
            simpa [EventBody.introduces, EffectEvent.introduces] using introduced
          rfl
        | _ => simp [EventBody.introduces, EffectEvent.introduces] at introduced
      | memory event =>
        rw [body] at introduced
        cases event <;> simp [EventBody.introduces, InquiryState.applyMemory] at introduced
      | learning event =>
        rw [body] at introduced
        cases event <;> simp [EventBody.introduces] at introduced
      | _ =>
        rw [body] at introduced
        simp [EventBody.introduces] at introduced
    rw [empty] at recorded
    cases recorded

omit [ByteFacts] [Pydantic] in
/-- A decode that events leave was there, or one of them records it. -/
theorem replay_decodes {after : InquiryState} {decode : DecodeOutcome} (replayed : Replayable state)
    (ran : replay state events = .ok after) (member : decode ∈ after.decodeOutcomes) :
    decode ∈ state.decodeOutcomes ∨ ∃ head owner, ⟨head, .effect (.effectDecodeOutcomeRecorded owner decode)⟩ ∈ events := by
  induction events generalizing state with
  | nil =>
    obtain rfl : state = after := by simpa [replay, pure, Except.pure] using ran
    exact .inl member
  | cons event rest ih =>
    simp only [replay, List.foldlM_cons, bind_eq_ok] at ran
    obtain ⟨middle, evolved, later⟩ := ran
    rcases ih (replayed.evolved evolved) later with earlier | ⟨head, owner, listed⟩
    · rcases evolve_decodes replayed evolved earlier with there | ⟨owner, body⟩
      · exact .inl there
      · refine .inr ⟨event.head, owner, ?_⟩
        rw [← body]
        exact List.mem_cons_self
    · exact .inr ⟨head, owner, List.mem_cons_of_mem _ listed⟩

omit [ByteFacts] [Pydantic] in
/-- Nothing decodes the return of an attempt before the attempt ends. -/
theorem undecoded_before {after : InquiryState} {externalReturn : ExternalReturn} {decode : DecodeOutcome}
    (replayed : Replayable state) (run : Relation.ReflTransGen EventStep state after)
    (unended : ¬ state.HasOutcome attemptId) (returned : after.HasReturn requestId attemptId externalReturn)
    (names : decode.externalReturnId = externalReturn.id) : decode ∉ state.decodeOutcomes := by
  intro member
  obtain ⟨request, owned, recorded⟩ := List.mem_flatMap.mp member
  have sound := replayed.effectsSound
  obtain ⟨other, planned, captured, capturedBy, sameReturn⟩ := (sound.requests request owned).decodes decode recorded
  have otherListed : other ∈ state.attempts := List.mem_flatMap.mpr ⟨request, owned, planned⟩
  -- The attempt that captured the decoded return goes on with it, so it captured the return of the other attempt.
  obtain ⟨next, nextListed, goesOn⟩ := (effectsContinue_run replayed run).keeps_attempt otherListed
  have laterReplayed : Replayable after := Relation.ReflTransGen.trans replayed run
  have laterSound := laterReplayed.effectsSound
  obtain ⟨capturedListed, capturedNamed⟩ := laterSound.captured_by nextListed (goesOn.outcome _ capturedBy)
  obtain ⟨laterRequest, attempt, ⟨laterOwned, attemptHit⟩, returnedBy⟩ := returned
  obtain ⟨attemptPlanned, attemptNamed⟩ := attemptById_some attemptHit
  have attemptListed : attempt ∈ after.attempts :=
    List.mem_flatMap.mpr ⟨laterRequest, (requestById_some laterOwned).1, attemptPlanned⟩
  obtain ⟨returnListed, returnNamed⟩ := laterSound.captured_by attemptListed returnedBy
  obtain rfl := List.inj_on_of_nodup_map laterSound.return_ids capturedListed returnListed (sameReturn.trans names)
  apply unended
  refine ⟨other, otherListed, ?_, by rw [capturedBy]; rfl⟩
  rw [← goesOn.plan, ← capturedNamed, returnNamed, attemptNamed]

end

/-- What the ledger shows of the effects of the inquiry, rebuilt from all its events. -/
def LedgerShows (ledger : Ledger) (inquiryId : String) (property : EffectRecords → Prop) : Prop :=
  ∃ state, rebuildState none ledger inquiryId false = .ok state ∧ property state.toEffectRecords

/-- One call for the attempt, with any adapter and any executor, up to its end or to a crash. -/
def ExecuteStep (inquiryId requestId attemptId : String) (world next : ExecutorWorld) : Prop :=
  ∃ call : ExecuteCall, (call.inquiryId = inquiryId ∧ call.requestId = requestId ∧ call.attemptId = attemptId) ∧
    ∃ left, call.execute.worldAfter left world = next

/-- Calls for the attempt, one after another. -/
abbrev ExecutesTo (inquiryId requestId attemptId : String) : ExecutorWorld → ExecutorWorld → Prop :=
  Relation.ReflTransGen (ExecuteStep inquiryId requestId attemptId)

section
variable {inquiryId requestId attemptId : String} {ledger : Ledger} {history events : List DomainEvent}
  {state : InquiryState} {store : ArtifactStore} {world next : ExecutorWorld}

theorem ShowsFold.ledgerShows {property : EffectRecords → Prop} (fold : ShowsFold ledger inquiryId events state)
    (holds : property state.toEffectRecords) : LedgerShows ledger inquiryId property :=
  ⟨state, fold.rebuilds, holds⟩

theorem LedgerShows.shown {property : EffectRecords → Prop} (seen : LedgerShows ledger inquiryId property)
    (fold : ShowsFold ledger inquiryId events state) : property state.toEffectRecords := by
  obtain ⟨rebuilt, rebuilds, holds⟩ := seen
  rw [Except.ok.inj (fold.rebuilds.symm.trans rebuilds)]
  exact holds

theorem steps_fold (fold : ShowsFold world.ledger inquiryId events state)
    (run : Relation.ReflTransGen (ExecutorStep inquiryId requestId attemptId) world next) :
    ∃ shown after, ShowsFold next.ledger inquiryId shown after := by
  induction run with
  | refl => exact ⟨events, state, fold⟩
  | tail _ step ih =>
    cases step with
    | committed _ _ _ _ _ _ _ _ folded => exact ⟨_, _, folded⟩
    | _ => exact ih

/-- Calls only make the operations that the attempt allows. -/
theorem ExecutesTo.steps (fold : ShowsFold world.ledger inquiryId events state)
    (run : ExecutesTo inquiryId requestId attemptId world next) :
    Relation.ReflTransGen (ExecutorStep inquiryId requestId attemptId) world next := by
  induction run with
  | refl => exact .refl
  | tail _ called ih =>
    obtain ⟨shown, middle, middleFold⟩ := steps_fold fold ih
    obtain ⟨call, ⟨rfl, rfl, rfl⟩, left, rfl⟩ := called
    exact ih.trans (execute_traces middleFold left).1

/-- The events that were committed since the opening lead from the opened state to the present one. -/
theorem Progress.replays {added start : List DomainEvent} {opened : InquiryState}
    (opening : ShowsFold ledger inquiryId start opened)
    (progress : Progress inquiryId requestId attemptId start world added state) : replay opened added = .ok state := by
  obtain ⟨_, -, -, replayedOpening⟩ := opening
  obtain ⟨_, -, -, replayed⟩ := progress.fold
  obtain ⟨middle, first, rest⟩ := replay_append.mp replayed
  obtain rfl : opened = middle := Except.ok.inj (replayedOpening.symm.trans first)
  exact rest

/-- Every decode of the return of an attempt that had no outcome at the opening was recorded by a call, and is the
first one. -/
theorem Progress.first_decode {added start : List DomainEvent} {opened : InquiryState} {externalReturn : ExternalReturn}
    {decode : DecodeOutcome} (opening : ShowsFold ledger inquiryId start opened)
    (progress : Progress inquiryId requestId attemptId start world added state)
    (unended : ¬ opened.HasOutcome attemptId) (returned : state.HasReturn requestId attemptId externalReturn)
    (decoded : state.Decoded requestId externalReturn.id decode) :
    state.FirstDecode requestId externalReturn.id decode := by
  obtain ⟨request, owned, member, names⟩ := decoded
  have ran := progress.replays opening
  have listed : decode ∈ state.decodeOutcomes := List.mem_flatMap.mpr ⟨request, (requestById_some owned).1, member⟩
  rcases replay_decodes opening.replayable ran listed with earlier | ⟨head, owner, recorded⟩
  · exact absurd earlier (undecoded_before opening.replayable (replay_run ran) unended returned names)
  · have first := (progress.decodes head owner decode recorded).1
    rw [names] at first
    exact first

/-- What the stream of the inquiry holds at all, and what it holds since the opening. -/
theorem Progress.holds {added start : List DomainEvent} {opened : InquiryState}
    (opening : ShowsFold ledger inquiryId start opened)
    (progress : Progress inquiryId requestId attemptId start world added state) :
    (∃ all, loadStream none world.ledger inquiryId 0 = .ok all ∧
      all.events.countP (fun item => item.event.endsAttempt attemptId) ≤ 1 ∧
      all.events.countP (fun item => item.event.acceptsResult requestId) ≤ 1) ∧
    ∃ recent, loadStream none world.ledger inquiryId (ledger.streamVersion inquiryId) = .ok recent ∧
      recent.events.map StoredEvent.event = added := by
  have counts : ∀ (items : List StoredEvent) (test : DomainEvent → Bool),
      items.countP (fun item => test item.event) = (items.map StoredEvent.event).countP test := by
    intro items test
    rw [List.countP_map]
    rfl
  constructor
  · obtain ⟨all, loads⟩ := progress.fold.loads (Nat.zero_le _)
    obtain ⟨_, -, -, replayed⟩ := id progress.fold
    refine ⟨all, loads, ?_, ?_⟩
    · rw [counts, (progress.fold.loaded loads).1]
      exact outcomes_once replayed attemptId
    · rw [counts, (progress.fold.loaded loads).1]
      exact acceptances_once replayed requestId
  · have place := opening.version.1
    have within : ledger.streamVersion inquiryId ≤ (start ++ added).length := by
      rw [place, List.length_append]
      omega
    obtain ⟨recent, loads⟩ := progress.fold.loads within
    refine ⟨recent, loads, ?_⟩
    rw [(progress.fold.loaded loads).1, place, List.drop_left]

/-- Any calls for one attempt, each of which may crash before any of its operations. The attempt is performed only
while the ledger shows it started, without an outcome and its request without an accepted result, and no more once
its return is committed. The ledger holds at most one outcome of the attempt and one accepted result of the request,
and of each return at most one decode that a call recorded, which is the first one and of the return of the attempt.
What is decoded are the bytes of the committed return. A call that accepts, and that returns after the return was
decoded successfully, ends with an accepted result. -/
theorem executor_resumes (represents : Represents ledger history)
    (rebuilds : rebuildState none ledger inquiryId false = .ok state)
    (run : ExecutesTo inquiryId requestId attemptId { ledger := ledger, store := store } world) :
    (∀ shown ∈ world.performed, LedgerShows shown inquiryId (·.ReadyToPerform requestId attemptId)) ∧
    (∀ externalReturn, LedgerShows world.ledger inquiryId (·.HasReturn requestId attemptId externalReturn) →
      ∀ later, ExecutesTo inquiryId requestId attemptId world later → later.performed = world.performed) ∧
    (∃ all, loadStream none world.ledger inquiryId 0 = .ok all ∧
      all.events.countP (fun item => item.event.endsAttempt attemptId) ≤ 1 ∧
      all.events.countP (fun item => item.event.acceptsResult requestId) ≤ 1) ∧
    (∃ recent, loadStream none world.ledger inquiryId (ledger.streamVersion inquiryId) = .ok recent ∧
      (∀ returnId, recent.events.countP (fun item => item.event.decodesReturn returnId) ≤ 1) ∧
      ∀ item ∈ recent.events, ∀ owner decode,
        item.event.body = .effect (.effectDecodeOutcomeRecorded owner decode) → ∃ externalReturn,
          decode.externalReturnId = externalReturn.id ∧ LedgerShows world.ledger inquiryId (fun effects =>
            effects.HasReturn requestId attemptId externalReturn ∧
              effects.FirstDecode requestId externalReturn.id decode)) ∧
    (∀ raw shown, (raw, shown) ∈ world.decodings → ∃ externalReturn, externalReturn.IsStoredAs raw ∧
      LedgerShows shown inquiryId (·.HasReturn requestId attemptId externalReturn)) ∧
    ∀ externalReturn decode, LedgerShows world.ledger inquiryId (fun effects =>
        effects.HasReturn requestId attemptId externalReturn ∧ effects.Decoded requestId externalReturn.id decode ∧
          (¬ state.HasOutcome attemptId ∨ effects.FirstDecode requestId externalReturn.id decode)) →
      decode.result?.isSome = true → ∀ call : ExecuteCall, call.inquiryId = inquiryId → call.requestId = requestId →
        call.attemptId = attemptId → call.acceptDecoded = true → ∀ left result,
          (call.execute left world).1 = .ok result → result.Accepted requestId ∧
            LedgerShows (call.execute.worldAfter left world).ledger inquiryId (·.Accepted requestId) := by
  obtain ⟨events, opening⟩ := represents.showsFold rebuilds
  have opened : Progress inquiryId requestId attemptId events { ledger := ledger, store := store } [] state :=
    ⟨by simpa using opening, by simp, by simp, by simp, by simp⟩
  obtain ⟨added, reached, progress⟩ := opened.run (ExecutesTo.steps opening run)
  rw [List.nil_append] at progress
  refine ⟨?_, ?_, (progress.holds opening).1, ?_, ?_, ?_⟩
  · intro shown member
    obtain ⟨others, other, fold, ready⟩ := progress.performs shown member
    exact fold.ledgerShows ready
  · intro externalReturn seen later goesOn
    exact (performs_no_more progress.fold (seen.shown progress.fold) (ExecutesTo.steps progress.fold goesOn)).1
  · obtain ⟨recent, loads, same⟩ := (progress.holds opening).2
    refine ⟨recent, loads, ?_, ?_⟩
    · intro returnId
      have once := progress.once returnId
      rw [← same, List.countP_map] at once
      exact once
    · intro item member owner decode body
      have listed : ⟨item.event.head, .effect (.effectDecodeOutcomeRecorded owner decode)⟩ ∈ added := by
        rw [← same, ← body]
        exact List.mem_map_of_mem member
      obtain ⟨first, externalReturn, returned, names⟩ := progress.decodes _ owner decode listed
      rw [names] at first
      exact ⟨externalReturn, names, progress.fold.ledgerShows ⟨returned, first⟩⟩
  · intro raw shown member
    obtain ⟨others, other, externalReturn, fold, returned, stored⟩ := progress.decodings (raw, shown) member
    exact ⟨externalReturn, stored, fold.ledgerShows returned⟩
  · intro externalReturn decode seen succeeded call isInquiry isRequest isAttempt accepting left result returns
    obtain ⟨returned, decoded, unendedOrFirst⟩ := seen.shown progress.fold
    have first : reached.FirstDecode requestId externalReturn.id decode := by
      rcases unendedOrFirst with unended | first
      · exact progress.first_decode opening unended returned decoded
      · exact first
    have fold := progress.fold
    subst isInquiry isRequest isAttempt
    obtain ⟨shown, after, folded, same, accepted⟩ :=
      (execute_accepts fold returned first accepting succeeded left).2 result returns
    refine ⟨?_, folded.ledgerShows accepted⟩
    rw [same]
    exact accepted

end

end

/-! An attempt of the worked inquiry whose first call crashes right after the return is committed; the second call
decodes the return and accepts the result. -/

namespace Worked

def routeDefinition : RouteDefinition where
  definitionId := "definition"
  definitionVersion := "1"
  backendId := "backend"
  adapterId := "adapter"
  adapterVersion := "1"
  transport := "local"

def effectRequest : EffectRequest where
  id := "request"
  stepPlanId := "plan"
  effectKind := "question"
  adapterId := "adapter"
  inputArtifact := artifact "input"

def pinnedRoute : RouteSnapshot := { questionRoute with
  definitionArtifact := artifact (ByteFacts.sha256 (canonicalBytes routeDefinition.dump))
  transport := some routeDefinition.transport
  requestOrActionDigest := ByteFacts.sha256 (canonicalBytes (JsonModel.dump effectRequest)) }

def attemptEvents : List DomainEvent :=
  eventsOf "inquiry" (planned ++
    [.effect (.requestEffect effectRequest), .effect (.planEffectAttempt ⟨"a", effectRequest.id, pinnedRoute⟩)])

def attemptAppends : List (String × Nat × List DomainEvent) := [("inquiry", 0, attemptEvents)]

def attemptState : InquiryState := (replay initialState attemptEvents).toOption.getD initialState

/-- A store that holds the route definition, and for every other artifact the bytes that its digest names. -/
def effectStore : ArtifactStore where
  files digest :=
    if digest = pinnedRoute.definitionArtifact.digest then some (canonicalBytes routeDefinition.dump)
    else some (.other digest)

def answeringAdapter : PersistedEffectAdapter where
  adapterId := "adapter"
  adapterVersion := "1"
  validateInput _ _ := .ok ()
  preflight _ := .ok ()
  performExact _ _ _ := .ok (.bytes (.other "r"))
  decodeExact _ _ := .ok (.decoded (.other "meaning") "text/plain" "utf-8" "operation")

def effectCall : ExecuteCall where
  executor := {
    routes := ⟨[routeDefinition], by decide, by decide⟩
    clock := fun _ => 0
    verifies := true
    faults := fun _ => none }
  inquiryId := "inquiry"
  requestId := effectRequest.id
  attemptId := "a"
  adapter := answeringAdapter

/-- The world after calls that may make so many operations. -/
def worldAfterCalls (operations : List Nat) : ExecutorWorld :=
  operations.foldl (fun world left => effectCall.execute.worldAfter left world)
    { ledger := (appendAll attemptAppends).1, store := effectStore }

theorem executesTo_worldAfterCalls (operations : List Nat) : ExecutesTo effectCall.inquiryId effectCall.requestId
    effectCall.attemptId { ledger := (appendAll attemptAppends).1, store := effectStore } (worldAfterCalls operations) := by
  unfold worldAfterCalls
  generalize ({ ledger := (appendAll attemptAppends).1, store := effectStore } : ExecutorWorld) = world
  induction operations generalizing world with
  | nil => exact .refl
  | cons left rest ih =>
    rw [List.foldl_cons]
    exact .head ⟨effectCall, ⟨rfl, rfl, rfl⟩, left, rfl⟩ (ih _)

theorem crashed_call_resumes :
    ((worldAfterCalls [13, 100]).performed.length = 1 ∧ (worldAfterCalls [13, 100]).decodings.length = 1 ∧
      (worldAfterCalls [13, 100]).ledger.events.length = attemptEvents.length + 4) ∧
    (∀ shown ∈ (worldAfterCalls [13, 100]).performed,
      LedgerShows shown effectCall.inquiryId (·.ReadyToPerform effectCall.requestId effectCall.attemptId)) ∧
    ∃ all, loadStream none (worldAfterCalls [13, 100]).ledger effectCall.inquiryId 0 = .ok all ∧
      all.events.countP (fun item => item.event.endsAttempt effectCall.attemptId) ≤ 1 ∧
      all.events.countP (fun item => item.event.acceptsResult effectCall.requestId) ≤ 1 := by
  have facts : rebuildState none (appendAll attemptAppends).1 effectCall.inquiryId false = .ok attemptState ∧
      (worldAfterCalls [13, 100]).performed.length = 1 ∧ (worldAfterCalls [13, 100]).decodings.length = 1 ∧
      (worldAfterCalls [13, 100]).ledger.events.length = attemptEvents.length + 4 := by decide +kernel
  have resumes := executor_resumes (committed_appendAll attemptAppends).represents facts.1
    (executesTo_worldAfterCalls [13, 100])
  exact ⟨facts.2, resumes.1, resumes.2.2.1⟩

end Worked

end RatchetingInquiry
