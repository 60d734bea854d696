import RatchetingInquiry.Invariants.CommandSteps
import RatchetingInquiry.Invariants.EventCodec
import RatchetingInquiry.Invariants.Serial
import RatchetingInquiry.Orchestration.Content
import RatchetingInquiry.Sdk.Answer

/-! The manual loop of an inquiry that any number of clients start, step, run and answer. Each of their calls reads
the ledger, puts its commands together and reads the ledger again before it commits them, so that others may have
gone on in between. The loop has four phases all the same, and every inquiry goes through them once. -/

namespace RatchetingInquiry

/-- What an inquiry was opened with. -/
structure Opening where
  manifest : ArtifactRef
  context : InquiryContext

/-- What was asked, and when its attempt started. -/
structure Asking where
  plan : StepPlan
  request : EffectRequest
  attempt : EffectAttemptPlan
  occurredAt : Timestamp

/-- What was answered, and the claim that the answer was bound as. -/
structure Answering where
  externalReturn : ExternalReturn
  claim : Claim

inductive LoopPhase where
  | unopened
  | opened (opening : Opening)
  | asked (opening : Opening) (asking : Asking)
  | answered (opening : Opening) (asking : Asking) (answering : Answering)

section
variable [ByteFacts]

/-- The decode of an answer. -/
def Answering.decoded [Pydantic] (answering : Answering) : DecodeOutcome :=
  RCI.claimDecode answering.externalReturn
    (artifactOf (declaredBytes answering.claim.dump) "application/vnd.rci.claim+json" "utf-8")

/-- The disposition by which an answer satisfies an obligation. -/
def Answering.disposition [Pydantic] (answering : Answering) (obligationId : String) : ObligationDisposition where
  id := RCI.stableId "disp" [obligationId, answering.decoded.id, "satisfied"]
  obligationId := obligationId
  status := .satisfied
  reason := "accepted answer bound as a provisional L0 claim"
  evidenceRefs := [answering.decoded.id]

/-- The attempt of a question, once it is started. -/
def Asking.attemptState (asking : Asking) (inquiryId : String) : AttemptState :=
  ({ plan := asking.attempt } : AttemptState).start
    ⟨RCI.stableId "evt" [asking.attempt.id, "started"], inquiryId, asking.occurredAt⟩

def Asking.requestState (asking : Asking) (inquiryId : String) : EffectRequestState where
  request := asking.request
  attempts := [asking.attemptState inquiryId]

/-- The request of a question that was answered. -/
def Answering.requestState [Pydantic] (answering : Answering) (asking : Asking) (inquiryId : String) :
    EffectRequestState where
  request := asking.request
  attempts := [{ asking.attemptState inquiryId with outcome := some (.returned answering.externalReturn) }]
  decodeOutcomes := [answering.decoded]
  acceptedDecodedOutcomeId := some answering.decoded.id

variable [Fingerprints]

def Opening.obligation (opening : Opening) (inquiryId : String) : Obligation :=
  RCI.initialObligation inquiryId opening.context

def Opening.state (opening : Opening) (inquiryId : String) : InquiryState :=
  { startedState ⟨"", inquiryId, 0⟩ opening.manifest opening.context.warrantPolicyVersion opening.context with
    obligations := [opening.obligation inquiryId]
    sequence := 2 }

def Asking.state (asking : Asking) (opening : Opening) (inquiryId : String) : InquiryState :=
  { opening.state inquiryId with
    stepPlans := [asking.plan]
    effectRequests := [asking.requestState inquiryId]
    sequence := 6 }

def Answering.state [Pydantic] (answering : Answering) (opening : Opening) (asking : Asking) (inquiryId : String) :
    InquiryState :=
  { asking.state opening inquiryId with
    effectRequests := [answering.requestState asking inquiryId]
    claims := [answering.claim]
    obligationDispositions := [answering.disposition (opening.obligation inquiryId).id]
    sequence := 11 }

/-- The scheduler plans a step for the opened inquiry. -/
def Opening.Plans (opening : Opening) (inquiryId : String) (plan : StepPlan) : Prop :=
  (RCI.schedule (opening.state inquiryId)).CanReturn plan

omit [Fingerprints] in
/-- A question asks for a manual answer, and its ids follow from its plan. -/
structure Asking.Named (asking : Asking) (inquiryId : String) : Prop where
  ready : asking.plan.status = .ready
  manual : asking.request.effectKind = "semantic.manual_answer"
  request_named : asking.request.id = RCI.stableId "req" [inquiryId, asking.plan.id]
  attempt_named : asking.attempt.id = RCI.stableId "attempt" [asking.request.id, "1"]

variable [Pydantic]

omit [ByteFacts] [Fingerprints] in
/-- The claim of an answer needs no attack, and it is read back as it was written. -/
structure Answering.Bound (answering : Answering) : Prop where
  role : answering.claim.role = .characterization
  kept : answering.claim.payload.keepsKind = true

/-- The state of an inquiry in a phase of its loop. -/
def LoopPhase.state (inquiryId : String) : LoopPhase → InquiryState
  | .unopened => initialState
  | .opened opening => opening.state inquiryId
  | .asked opening asking => asking.state opening inquiryId
  | .answered opening asking answering => answering.state opening asking inquiryId

omit [ByteFacts] [Fingerprints] [Pydantic] in
/-- The phase that a state shows. -/
def LoopPhase.read (state : InquiryState) : LoopPhase :=
  match state.manifestArtifact, state.context, state.stepPlans, state.effectRequests with
  | some manifest, some context, [], [] => .opened ⟨manifest, context⟩
  | some manifest, some context, [plan], [⟨request, [⟨attempt, _, _, some occurredAt, outcome⟩], _, _, _⟩] =>
    match outcome, state.claims with
    | some (.returned externalReturn), [claim] =>
      .answered ⟨manifest, context⟩ ⟨plan, request, attempt, occurredAt⟩ ⟨externalReturn, claim⟩
    | _, _ => .asked ⟨manifest, context⟩ ⟨plan, request, attempt, occurredAt⟩
  | _, _, _, _ => .unopened

theorem LoopPhase.read_state (inquiryId : String) (phase : LoopPhase) : read (phase.state inquiryId) = phase := by
  cases phase <;> rfl

theorem LoopPhase.state_injective (inquiryId : String) : Function.Injective (LoopPhase.state inquiryId) :=
  Function.LeftInverse.injective (LoopPhase.read_state inquiryId)

/-- The phase moves on. Only an answer that was submitted is bound. -/
inductive LoopPhase.Moves (submitted : String → ManualAnswer → Prop) (inquiryId : String) : LoopPhase → LoopPhase → Prop
  | opens (opening : Opening) : Moves submitted inquiryId .unopened (.opened opening)
  | asks {opening : Opening} {asking : Asking} (named : asking.Named inquiryId)
      (planned : opening.Plans inquiryId asking.plan) :
      Moves submitted inquiryId (.opened opening) (.asked opening asking)
  | answers {opening : Opening} {asking : Asking} {answering : Answering} {answer : ManualAnswer}
      (bound : answering.Bound) (given : submitted inquiryId answer)
      (matched : RCI.claimMatches answering.claim answer = true) :
      Moves submitted inquiryId (.asked opening asking) (.answered opening asking answering)

/-- The later phase comes of the earlier one. -/
abbrev LoopPhase.Passes (submitted : String → ManualAnswer → Prop) (inquiryId : String) :
    LoopPhase → LoopPhase → Prop :=
  Relation.ReflTransGen (LoopPhase.Moves submitted inquiryId)

omit [ByteFacts] [Fingerprints] [Pydantic] in
/-- What the inquiry of a phase was opened with. -/
def LoopPhase.opening? : LoopPhase → Option Opening
  | .unopened => none
  | .opened opening | .asked opening _ | .answered opening _ _ => some opening

section
variable {submitted : String → ManualAnswer → Prop} {inquiryId : String} {phase : LoopPhase} {opening : Opening}
  {asking : Asking} {answering : Answering}

theorem LoopPhase.Passes.of_answered
    (passes : LoopPhase.Passes submitted inquiryId (.answered opening asking answering) phase) :
    phase = .answered opening asking answering := by
  rcases Relation.ReflTransGen.cases_head passes with same | ⟨next, move, -⟩
  · exact same.symm
  · cases move

theorem LoopPhase.Passes.of_asked (passes : LoopPhase.Passes submitted inquiryId (.asked opening asking) phase) :
    phase = .asked opening asking ∨ ∃ answering, answering.Bound ∧ phase = .answered opening asking answering := by
  rcases Relation.ReflTransGen.cases_head passes with same | ⟨next, move, rest⟩
  · exact .inl same.symm
  · cases move with
    | answers bound _ _ => exact .inr ⟨_, bound, of_answered rest⟩

theorem LoopPhase.Passes.of_opened (passes : LoopPhase.Passes submitted inquiryId (.opened opening) phase) :
    phase = .opened opening ∨ ∃ asking, asking.Named inquiryId ∧ opening.Plans inquiryId asking.plan ∧
      (phase = .asked opening asking ∨ ∃ answering, answering.Bound ∧ phase = .answered opening asking answering) := by
  rcases Relation.ReflTransGen.cases_head passes with same | ⟨next, move, rest⟩
  · exact .inl same.symm
  · cases move with
    | asks named planned => exact .inr ⟨_, named, planned, of_asked rest⟩

theorem LoopPhase.Passes.of_unopened (passes : LoopPhase.Passes submitted inquiryId .unopened phase) :
    phase = .unopened ∨ ∃ opening, LoopPhase.Passes submitted inquiryId (.opened opening) phase := by
  rcases Relation.ReflTransGen.cases_head passes with same | ⟨next, move, rest⟩
  · exact .inl same.symm
  · cases move with
    | opens opening => exact .inr ⟨opening, rest⟩

/-- With every move the stream of the inquiry grows. -/
theorem LoopPhase.Passes.sequence {later : LoopPhase} (passes : LoopPhase.Passes submitted inquiryId phase later) :
    later = phase ∨ (phase.state inquiryId).sequence < (later.state inquiryId).sequence := by
  induction passes with
  | refl => exact .inl rfl
  | @tail middle last _ move ih =>
    right
    have grows : (middle.state inquiryId).sequence < (last.state inquiryId).sequence := by
      cases move with
      | opens opening => exact Nat.zero_lt_two
      | asks _ _ => exact Nat.lt_of_sub_eq_succ rfl
      | answers _ _ _ => exact Nat.lt_of_sub_eq_succ rfl
    rcases ih with rfl | before
    · exact grows
    · exact before.trans grows

omit [Pydantic] in
/-- The scheduler reads nothing of an inquiry without questions but its state. -/
theorem Opening.plans_unique {plan other : StepPlan} (planned : opening.Plans inquiryId plan)
    (again : opening.Plans inquiryId other) : plan = other := by
  have determined : (RCI.schedule (opening.state inquiryId)).Determined := by
    unfold RCI.schedule
    apply Client.determined_bind Client.determined_lift
    intro entries
    apply Client.determined_bind Client.determined_lift
    intro context
    apply Client.determined_bind
    · exact Client.determined_lift
    · intro counts
      exact Client.determined_lift
  exact determined plan other planned again

end

/-! What the batches of the loop do in each phase. -/

section
variable {submitted : String → ManualAnswer → Prop} {inquiryId : String} {state after : InquiryState}
  {phase : LoopPhase} {opening : Opening} {asking known : Asking} {answering : Answering}

/-- A start opens an inquiry that is unopened, and repeats the opening of another one. -/
theorem start_moves {context : InquiryContext} {manifest : ArtifactRef} {occurredAt : Timestamp}
    (ran : runCommands (phase.state inquiryId) (RCI.startCommands inquiryId context manifest occurredAt) = .ok after) :
    (phase = .unopened ∧ after = (LoopPhase.opened ⟨manifest, context⟩).state inquiryId) ∨
      ∃ opening, phase.opening? = some opening ∧ opening.context = context ∧ after = phase.state inquiryId := by
  simp only [RCI.startCommands, runCommands_cons] at ran
  obtain ⟨middle, started, last, opened, ends⟩ := ran
  obtain rfl : last = after := Except.ok.inj ends
  have past : ∀ opening : Opening, phase.opening? = some opening → (phase.state inquiryId).status = .active →
      (phase.state inquiryId).context = some opening.context →
      (phase.state inquiryId).obligations = [opening.obligation inquiryId] →
      ∃ opening, phase.opening? = some opening ∧ opening.context = context ∧ last = phase.state inquiryId := by
    intro opening shown active pinned listed
    rcases applyCommand_start started with ⟨unstarted, -⟩ | ⟨-, same, rfl⟩
    · rw [active] at unstarted
      cases unstarted
    · have kept := Option.some.inj (pinned.symm.trans same)
      refine ⟨opening, shown, kept, ?_⟩
      rcases applyCommand_openObligation opened with ⟨-, repeated⟩ | ⟨unknown, -⟩
      · exact repeated
      · rw [ClaimRecords.obligationById, listed, ← kept] at unknown
        simp [Opening.obligation] at unknown
  cases phase with
  | unopened =>
    rcases applyCommand_start started with ⟨-, rfl⟩ | ⟨unstarted, -⟩
    · rcases applyCommand_openObligation opened with ⟨known | known, -⟩ | ⟨-, rfl⟩
      · cases known
      · cases known
      · exact .inl ⟨rfl, rfl⟩
    · exact absurd rfl unstarted
  | opened opening => exact .inr (past opening rfl rfl rfl rfl)
  | asked opening asking => exact .inr (past opening rfl rfl rfl rfl)
  | answered opening asking answering => exact .inr (past opening rfl rfl rfl rfl)

omit [ByteFacts] [Fingerprints] [Pydantic] in
theorem replaceRequest_single {effects : EffectRecords} {request replacement : EffectRequestState}
    (alone : effects.effectRequests = [request]) (same : replacement.request = request.request) :
    effects.replaceRequest replacement = [replacement] := by
  simp [EffectRecords.replaceRequest, alone, same]

omit [ByteFacts] [Fingerprints] [Pydantic] in
theorem requestById_single {effects : EffectRecords} {request owner : EffectRequestState} {requestId : String}
    (alone : effects.effectRequests = [request]) (owned : effects.requestById requestId = some owner) :
    owner = request := by
  have listed := (requestById_some owned).1
  rw [alone] at listed
  exact List.mem_singleton.mp listed

omit [ByteFacts] [Fingerprints] [Pydantic] in
theorem attemptById_single {request : EffectRequestState} {only attempt : AttemptState} {attemptId : String}
    (alone : request.attempts = [only]) (found : request.attemptById attemptId = some attempt) : attempt = only := by
  have listed := (attemptById_some found).1
  rw [alone] at listed
  exact List.mem_singleton.mp listed

omit [Pydantic] in
/-- The first question of an inquiry is asked. -/
theorem ask_opened
    (ran : runCommands (opening.state inquiryId)
      (RCI.stepCommands inquiryId asking.occurredAt asking.plan asking.request asking.attempt) = .ok after) :
    after = asking.state opening inquiryId := by
  simp only [RCI.stepCommands, runCommands_cons] at ran
  obtain ⟨planned, plans, requested, requests, attempted, attempts, last, starts, ends⟩ := ran
  obtain rfl : last = after := Except.ok.inj ends
  rcases applyCommand_plan plans with ⟨known, -⟩ | ⟨-, -, rfl⟩
  · cases known
  rcases applyCommand_request requests with ⟨⟨known, listed, -⟩, -⟩ | ⟨-, rfl⟩
  · cases listed
  obtain ⟨owner, owned, attempts⟩ := applyCommand_attempt attempts
  obtain rfl : owner = { request := asking.request } := requestById_single rfl owned
  rcases attempts with ⟨⟨known, listed, -⟩, -⟩ | ⟨-, attemptedIs⟩
  · cases listed
  have alone : attempted.effectRequests =
      [{ request := asking.request, attempts := [{ plan := asking.attempt }] }] := by
    rw [attemptedIs]
    exact replaceRequest_single rfl rfl
  obtain ⟨starter, attempt, contains, found, starts⟩ := applyCommand_attemptStart starts
  have starterIs := List.mem_of_find?_eq_some contains
  rw [alone, List.mem_singleton] at starterIs
  subst starterIs
  obtain rfl := attemptById_single rfl found
  rcases starts with ⟨began, -⟩ | ⟨-, lastIs⟩
  · cases began
  have asked : last.effectRequests = [asking.requestState inquiryId] := by
    rw [lastIs]
    apply Eq.trans
    · exact replaceRequest_single alone rfl
    · simp [Asking.requestState, Asking.attemptState]
  rw [lastIs] at asked ⊢
  simp only at asked
  rw [asked, attemptedIs]
  rfl

omit [Pydantic] in
/-- A question that was asked is not asked a second time. -/
theorem ask_again {request : EffectRequestState} {attempt : AttemptState} (plans : state.stepPlans = [known.plan])
    (requests : state.effectRequests = [request]) (attempts : request.attempts = [attempt])
    (asked : request.request = known.request) (planned : attempt.plan = known.attempt)
    (started : attempt.started = true) (first : known.Named inquiryId) (second : asking.Named inquiryId)
    (same : asking.plan = known.plan)
    (ran : runCommands state
      (RCI.stepCommands inquiryId asking.occurredAt asking.plan asking.request asking.attempt) = .ok after) :
    after = state := by
  have sameRequest : asking.request.id = request.request.id := by
    rw [asked, first.request_named, second.request_named, same]
  have sameAttempt : asking.attempt.id = attempt.plan.id := by
    rw [planned, first.attempt_named, second.attempt_named, sameRequest, asked]
  simp only [RCI.stepCommands, runCommands_cons] at ran
  obtain ⟨afterPlan, recorded, afterRequest, requested, afterAttempt, attempted, last, starts, ends⟩ := ran
  obtain rfl : last = after := Except.ok.inj ends
  rcases applyCommand_plan recorded with ⟨-, rfl⟩ | ⟨unknown, -⟩
  · rcases applyCommand_request requested with ⟨-, rfl⟩ | ⟨unknown, -⟩
    · obtain ⟨owner, -, attempted⟩ := applyCommand_attempt attempted
      rcases attempted with ⟨-, rfl⟩ | ⟨unknown, -⟩
      · obtain ⟨starter, began, contains, found, starts⟩ := applyCommand_attemptStart starts
        have starterIs := List.mem_of_find?_eq_some contains
        rw [requests, List.mem_singleton] at starterIs
        subst starterIs
        obtain rfl := attemptById_single attempts found
        rcases starts with ⟨-, same⟩ | ⟨unstarted, -⟩
        · exact same
        · rw [started] at unstarted
          cases unstarted
      · exact absurd sameAttempt.symm (unknown attempt (by simp [EffectRecords.attempts, requests, attempts]))
    · simp [EffectRecords.requestById, requests, sameRequest] at unknown
  · simp [EffectRecords.stepPlanById, plans, same] at unknown

omit [ByteFacts] [Pydantic] in
/-- A new plan that is ready selects an obligation that is open. -/
theorem freshStepPlan_open {context : Option InquiryContext} {claims : ClaimRecords} {plan : StepPlan}
    {event : EffectEvent} (ready : plan.status = .ready) (fresh : freshStepPlan context claims plan = .ok event) :
    ∃ obligation ∈ claims.obligations, claims.currentObligationStatus obligation.id = some .opened := by
  simp only [freshStepPlan, require_bind_eq_ok, ready, if_true, found_bind_eq_ok] at fresh
  obtain ⟨-, obligation, owned, key, -, opened, -⟩ := fresh
  exact ⟨obligation, List.mem_of_find?_eq_some owned, opened⟩

/-- A question of an inquiry that is opened or gone past that is asked or repeated. -/
theorem ask_moves (passed : LoopPhase.Passes submitted inquiryId (.opened opening) phase)
    (named : asking.Named inquiryId)
    (planned : (∃ asked answered, phase = .answered opening asked answered) ∨ opening.Plans inquiryId asking.plan)
    (ran : runCommands (phase.state inquiryId)
      (RCI.stepCommands inquiryId asking.occurredAt asking.plan asking.request asking.attempt) = .ok after) :
    ∃ later, LoopPhase.Passes submitted inquiryId phase later ∧ after = later.state inquiryId := by
  rcases passed.of_opened with rfl | ⟨known, first, question, rfl | ⟨answering, bound, rfl⟩⟩
  · rcases planned with ⟨asked, answered, impossible⟩ | planned
    · cases impossible
    · exact ⟨.asked opening asking, .single (.asks named planned), ask_opened ran⟩
  · rcases planned with ⟨asked, answered, impossible⟩ | planned
    · cases impossible
    · exact ⟨_, .refl, ask_again rfl rfl rfl rfl rfl rfl first named (opening.plans_unique planned question) ran⟩
  · refine ⟨_, .refl, ?_⟩
    have recorded := ran
    simp only [RCI.stepCommands, runCommands_cons] at recorded
    obtain ⟨afterPlan, recorded, -⟩ := recorded
    rcases applyCommand_plan recorded with ⟨listed, -⟩ | ⟨-, fresh, -⟩
    · have same := List.mem_singleton.mp (List.mem_of_find?_eq_some listed)
      exact ask_again rfl rfl rfl rfl rfl rfl first named same ran
    · obtain ⟨obligation, listed, opened⟩ := freshStepPlan_open named.ready fresh
      obtain rfl := List.mem_singleton.mp listed
      simp [ClaimRecords.currentObligationStatus, ClaimRecords.obligationById, LoopPhase.state, Answering.state,
        Asking.state, Opening.state, Answering.disposition] at opened

omit [ByteFacts] [Pydantic] in
/-- The first claim conflicts with nothing, and one that needs no attack opens no obligation. -/
theorem derives_nothing {claim : Claim} (unattacked : claim.role = .characterization) (first : state.claims = []) :
    derivedConflicts state.toClaimRecords claim = [] ∧ derivedObligations state claim = [] := by
  have conflicts : derivedConflicts state.toClaimRecords claim = [] := by
    simp [derivedConflicts, first, freshBy]
  have attack : pendingAttack state claim = none := by
    simp [pendingAttack, mandatoryAttackObligation, attackByRole, unattacked]
  refine ⟨conflicts, ?_⟩
  rw [derivedObligations, attack, conflicts]
  simp [freshBy]

/-- The first answer to the question is accepted and bound. -/
theorem answer_asked {requestId obligationId : String} {occurredAt : Timestamp} (bound : answering.Bound)
    (ran : runCommands (asking.state opening inquiryId) (RCI.answerCommands inquiryId occurredAt requestId obligationId
      answering.externalReturn answering.decoded answering.claim none) = .ok after) :
    after = answering.state opening asking inquiryId := by
  simp only [RCI.answerCommands, Option.toList_none, List.map_nil, List.append_nil, runCommands_cons] at ran
  obtain ⟨captured, captures, decoded, decodes, accepted, accepts, admitted, admits, last, disposes, ends⟩ := ran
  obtain rfl : last = after := Except.ok.inj ends
  obtain ⟨request, attempt, owned, found, captures⟩ := applyCommand_outcome captures
  obtain rfl : request = asking.requestState inquiryId := requestById_single rfl owned
  obtain rfl : attempt = asking.attemptState inquiryId := attemptById_single rfl found
  rcases captures with ⟨ended, -⟩ | ⟨-, capturedIs⟩
  · cases ended
  have returned : captured.effectRequests = [{
      request := asking.request
      attempts := [{ asking.attemptState inquiryId with outcome := some (.returned answering.externalReturn) }] }] := by
    rw [capturedIs]
    apply Eq.trans
    · exact replaceRequest_single rfl rfl
    · simp [Asking.requestState]
  obtain ⟨decoder, decoderOwned, decodes⟩ := applyCommand_decode decodes
  obtain rfl := requestById_single returned decoderOwned
  rcases decodes with ⟨listed, -⟩ | ⟨-, decodedIs⟩
  · simp [EffectRecords.decodeOutcomes, returned] at listed
  have interpreted : decoded.effectRequests = [{
      request := asking.request
      attempts := [{ asking.attemptState inquiryId with outcome := some (.returned answering.externalReturn) }]
      decodeOutcomes := [answering.decoded] }] := by
    rw [decodedIs]
    exact replaceRequest_single returned rfl
  obtain ⟨acceptor, acceptorOwned, accepts⟩ := applyCommand_accept accepts
  obtain rfl := requestById_single interpreted acceptorOwned
  rcases accepts with ⟨resolved, -⟩ | ⟨-, acceptedIs⟩
  · cases resolved
  have resolved : accepted.effectRequests = [answering.requestState asking inquiryId] := by
    rw [acceptedIs]
    exact replaceRequest_single interpreted rfl
  have acceptedState : accepted = { asking.state opening inquiryId with
      effectRequests := [answering.requestState asking inquiryId], sequence := 9 } := by
    rw [acceptedIs] at resolved ⊢
    simp only at resolved
    rw [resolved, decodedIs, capturedIs]
    rfl
  have unclaimed : accepted.claims = [] := by
    rw [acceptedState]
    rfl
  rcases applyCommand_admit admits with ⟨known, -⟩ | ⟨-, admittedIs⟩
  · simp [ClaimRecords.claimById, unclaimed] at known
  obtain ⟨conflicts, obligations⟩ := derives_nothing bound.role unclaimed
  rw [conflicts, obligations, acceptedState] at admittedIs
  subst admittedIs
  obtain ⟨owned, disposed⟩ := applyCommand_disposition disposes
  obtain ⟨obligation, known⟩ := Option.isSome_iff_exists.mp owned
  have obligationIs : obligation = opening.obligation inquiryId :=
    List.mem_singleton.mp (List.mem_of_find?_eq_some known)
  obtain rfl : obligation.id = obligationId := by simpa using List.find?_some known
  subst obligationIs
  rcases disposed with ⟨repeated, -⟩ | ⟨-, lastIs⟩
  · cases repeated
  · rw [lastIs]
    rfl

omit [Fingerprints] in
/-- The artifact of a decode determines the claim. -/
theorem decoded_claim (apart : Function.Injective ByteFacts.sha256) {left right : Answering}
    (leftBound : left.Bound) (rightBound : right.Bound) (same : left.decoded = right.decoded) :
    left.claim = right.claim := by
  have digests := congrArg (fun decoded : DecodeOutcome =>
    decoded.result?.map (fun result => result.semanticArtifact.digest)) same
  have dumps := (StoredBytes.text.inj (apart (Option.some.inj digests))).2
  have read := congrArg Claim.validate dumps
  rw [Claim.dump, Claim.dump, Claim.validate_write, Claim.validate_write,
    (Claim.readBack_eq_iff left.claim).mpr leftBound.kept,
    (Claim.readBack_eq_iff right.claim).mpr rightBound.kept] at read
  exact Option.some.inj read

/-- Behind an answer that was bound the same answer changes nothing, and another one is refused. -/
theorem answer_again {bound : Answering} {requestId obligationId : String} {occurredAt : Timestamp}
    (apart : Function.Injective ByteFacts.sha256) (first : bound.Bound) (second : answering.Bound)
    (ran : runCommands (bound.state opening asking inquiryId) (RCI.answerCommands inquiryId occurredAt requestId
      obligationId answering.externalReturn answering.decoded answering.claim none) = .ok after) :
    after = bound.state opening asking inquiryId ∧ answering.claim = bound.claim := by
  simp only [RCI.answerCommands, Option.toList_none, List.map_nil, List.append_nil, runCommands_cons] at ran
  obtain ⟨captured, captures, decoded, decodes, accepted, accepts, admitted, admits, last, disposes, ends⟩ := ran
  obtain rfl : last = after := Except.ok.inj ends
  obtain ⟨request, attempt, owned, found, captures⟩ := applyCommand_outcome captures
  obtain rfl : request = bound.requestState asking inquiryId := requestById_single rfl owned
  obtain rfl := attemptById_single rfl found
  rcases captures with ⟨-, rfl⟩ | ⟨unended, -⟩
  · obtain ⟨decoder, decoderOwned, decodes⟩ := applyCommand_decode decodes
    obtain rfl : decoder = bound.requestState asking inquiryId := requestById_single rfl decoderOwned
    obtain ⟨acceptor, acceptorOwned, accepts⟩ := applyCommand_accept accepts
    rcases decodes with ⟨listed, rfl⟩ | ⟨unknown, decodedIs⟩
    · have same : answering.decoded = bound.decoded := List.mem_singleton.mp listed
      have claims := decoded_claim apart second first same
      obtain rfl : acceptor = bound.requestState asking inquiryId := requestById_single rfl acceptorOwned
      rcases accepts with ⟨-, rfl⟩ | ⟨unresolved, -⟩
      · rcases applyCommand_admit admits with ⟨-, rfl⟩ | ⟨unknown, -⟩
        · obtain ⟨owned, disposed⟩ := applyCommand_disposition disposes
          obtain ⟨obligation, known⟩ := Option.isSome_iff_exists.mp owned
          have obligationIs : obligation = opening.obligation inquiryId :=
            List.mem_singleton.mp (List.mem_of_find?_eq_some known)
          obtain rfl : obligation.id = obligationId := by simpa using List.find?_some known
          rcases disposed with ⟨-, rfl⟩ | ⟨unknown, -⟩
          · exact ⟨rfl, claims⟩
          · have listed := unknown (bound.disposition (opening.obligation inquiryId).id) List.mem_cons_self
            rw [same, obligationIs] at listed
            exact absurd rfl listed
        · have listed := List.find?_eq_none.mp unknown bound.claim List.mem_cons_self
          rw [claims] at listed
          simp at listed
      · cases unresolved
    · -- Another decode of the same return is recorded, and then it cannot be accepted.
      have interpreted : decoded.effectRequests = [{ bound.requestState asking inquiryId with
          decodeOutcomes := [bound.decoded, answering.decoded] }] := by
        rw [decodedIs]
        exact replaceRequest_single rfl rfl
      obtain rfl := requestById_single interpreted acceptorOwned
      have other := unknown bound.decoded List.mem_cons_self
      rcases accepts with ⟨resolved, -⟩ | ⟨unresolved, -⟩
      · exact absurd (Option.some.inj resolved) other
      · cases unresolved
  · cases unended

/-- An answer to a question that is pending or answered is bound, repeated or refused. -/
theorem answer_moves {requestId obligationId : String} {occurredAt : Timestamp} {answer : ManualAnswer}
    (apart : Function.Injective ByteFacts.sha256)
    (lawful : LoopPhase.Passes submitted inquiryId .unopened phase) (bound : answering.Bound)
    (given : submitted inquiryId answer) (matched : RCI.claimMatches answering.claim answer = true)
    (ran : runCommands (phase.state inquiryId) (RCI.answerCommands inquiryId occurredAt requestId
      obligationId answering.externalReturn answering.decoded answering.claim none) = .ok after) :
    ∃ opening asking known, LoopPhase.Passes submitted inquiryId phase (.answered opening asking known) ∧
      after = known.state opening asking inquiryId ∧ known.claim = answering.claim := by
  have asked : (phase.state inquiryId).effectRequests ≠ [] := by
    intro unasked
    simp only [RCI.answerCommands, List.cons_append, runCommands_cons] at ran
    obtain ⟨captured, captures, -⟩ := ran
    obtain ⟨request, attempt, owned, -⟩ := applyCommand_outcome captures
    simp [EffectRecords.requestById, unasked] at owned
  rcases lawful.of_unopened with rfl | ⟨opening, passed⟩
  · exact absurd rfl asked
  · rcases passed.of_opened with rfl | ⟨asking, -, -, rfl | ⟨known, first, rfl⟩⟩
    · exact absurd rfl asked
    · exact ⟨opening, asking, answering, .single (.answers bound given matched), answer_asked bound ran, rfl⟩
    · obtain ⟨same, claims⟩ := answer_again apart first bound ran
      exact ⟨opening, asking, known, .refl, same, claims.symm⟩

end

end

end RatchetingInquiry
