import RatchetingInquiry.Invariants.LoopCalls
import RatchetingInquiry.Persistence.CanonicalText

/-! Start, step, run and submit_answer as clients of one ledger, and that an inquiry is answered once. -/

namespace RatchetingInquiry

/-! The parts of the calls that append nothing. -/

section
variable [ByteFacts]

theorem looking_pure {α : Type} (value : α) : Looking (pure value) := .ends (.ok value)

theorem looking_envelope (request : EffectRequest) : Looking (RCI.questionEnvelopeForRequest request) := by
  refine .goesOn (.looks _) fun data => .goesOn (.ends _) fun envelope => .goesOn (.looks _) fun contractData => ?_
  exact .goesOn (.ends _) fun contract => .goesOn (.ends _) fun _ => looking_pure envelope

theorem looking_counts (state : InquiryState) : Looking (RCI.attemptCounts state) := by
  have folds : ∀ (requests : List EffectRequestState) (counts : AttemptCounts),
      Looking (requests.foldlM (RCI.countAttempts state) counts) := by
    intro requests
    induction requests with
    | nil => exact looking_pure
    | cons request rest ih =>
      intro counts
      rw [List.foldlM_cons]
      refine .goesOn (.goesOn (looking_envelope _) fun envelope => ?_) ih
      exact .goesOn (.ends _) fun context => .goesOn (.ends _) fun _ => looking_pure _
  exact folds _ _

variable [Fingerprints]

theorem looking_schedule (state : InquiryState) : Looking (RCI.schedule state) :=
  .goesOn (.ends _) fun _ => .goesOn (.ends _) fun _ => .goesOn (looking_counts state) fun _ => .ends _

theorem looking_manifest (context : InquiryContext) : Looking (RCI.inquiryManifestArtifact context) :=
  .goesOn (.ends _) fun _ => .goesOn (.stores _ _ _) fun _ => .stores _ _ _

theorem looking_request (inquiryId : String) (state : InquiryState) (plan : StepPlan) (obligation : Obligation)
    (contract : QuestionContract) : Looking (RCI.manualRequest inquiryId state plan obligation contract) := by
  refine .goesOn (.ends _) fun bindings => .goesOn (.ends _) fun rendered => ?_
  refine .goesOn (.stores _ _ _) fun contractRef => .goesOn (.ends _) fun context => ?_
  refine .goesOn (.ends _) fun compiled => .goesOn (.stores _ _ _) fun inputRef => ?_
  exact .goesOn (.stores _ _ _) fun routeDefinition => .goesOn (.stores _ _ _) fun environmentRef => looking_pure _

omit [Fingerprints] in
theorem looking_capture (answer : ManualAnswer) : Looking (RCI.captureAnswer answer) := by
  cases answer with
  | nothing => exact looking_pure _
  | text value utf8 => exact .goesOn (.stores _ _ _) fun _ => looking_pure _
  | bytes data => exact .goesOn (.stores _ _ _) fun _ => looking_pure _

variable [Pydantic]

theorem looking_prepare (rci : RCI) (inquiryId : String) (state : InquiryState) (request : EffectRequestState)
    (answer : ManualAnswer) : Looking (rci.prepareAnswer inquiryId state request answer) := by
  refine .goesOn (.ends _) fun attempt => .goesOn (.reads rci) fun occurredAt => ?_
  refine .goesOn (looking_capture answer) fun captured => .goesOn (.ends _) fun context => ?_
  refine .goesOn (looking_envelope _) fun envelope => .goesOn (.ends _) fun obligation => ?_
  refine .goesOn (.looks _) fun data => .goesOn (.ends _) fun recorded => .goesOn (.ends _) fun claim => ?_
  exact .goesOn (.stores _ _ _) fun semanticRef => .goesOn (.ends _) fun downstream => looking_pure _

omit [Fingerprints] in
theorem looking_matches (state : InquiryState) (answer : ManualAnswer) :
    Looking (RCI.matchesLastAcceptedAnswer state answer) := by
  unfold RCI.matchesLastAcceptedAnswer
  split
  next => exact looking_pure false
  next =>
    split
    next => exact looking_pure false
    next => exact .goesOn (.looks _) fun _ => .goesOn (.ends _) fun _ => looking_pure _

/-! Every method of the SDK is made of such parts and of batches. -/

theorem call_dispatch (command : DomainCommand) : SdkCall (RCI.dispatch command) := .serves _ _

variable (rci : RCI) (inquiryId : String)

theorem call_start (context : InquiryContext) : SdkCall (rci.start inquiryId context) := by
  refine .goesOn (.looks (looking_manifest context)) fun manifest => .goesOn (.looks (.ends _)) fun _ => ?_
  exact .goesOn (.looks (.reads rci)) fun occurredAt => .serves _ _

theorem call_step : SdkCall (rci.step inquiryId) := by
  refine .goesOn (.looks (.looks _)) fun state => ?_
  split
  next => exact .looks (.goesOn (looking_envelope _) fun envelope => looking_pure _)
  next =>
    split
    next => exact .looks (looking_pure _)
    next =>
      refine .goesOn (.looks (looking_schedule state)) fun plan => ?_
      split
      next => exact .looks (looking_pure _)
      next => exact .looks (looking_pure _)
      next =>
        refine .goesOn (.looks (.ends _)) fun selected => .goesOn (.looks (.ends _)) fun obligation => ?_
        refine .goesOn (.looks (.ends _)) fun asked => .goesOn (.looks (.ends _)) fun contract => ?_
        refine .goesOn (.looks (looking_request inquiryId state plan obligation contract)) fun question => ?_
        refine .goesOn (.looks (.reads rci)) fun occurredAt => .goesOn (.serves _ _) fun next => ?_
        exact .looks (looking_pure _)

theorem call_runSteps (steps : Nat) (previous : Int) : SdkCall (rci.runSteps inquiryId steps previous) := by
  induction steps generalizing previous with
  | zero => exact .looks (.goesOn (.looks _) fun state => looking_pure _)
  | succ steps ih =>
    refine .goesOn (call_step rci inquiryId) fun result => ?_
    split
    next => exact .looks (looking_pure _)
    next =>
      split
      next => exact .looks (looking_pure _)
      next => exact ih _

theorem call_run (maxSteps : Nat) : SdkCall (rci.run inquiryId maxSteps) :=
  .goesOn (.looks (.ends _)) fun _ => call_runSteps rci inquiryId maxSteps (-1)

theorem call_answerPending (state : InquiryState) (request : EffectRequestState) (answer : ManualAnswer) :
    SdkCall (rci.answerPending inquiryId state request answer) :=
  .goesOn (.looks (looking_prepare rci inquiryId state request answer)) fun _ => .serves _ _

theorem call_submitAnswer (answer : ManualAnswer) : SdkCall (rci.submitAnswer inquiryId answer) := by
  refine .goesOn (.looks (.looks _)) fun state => ?_
  split
  next pending _ => exact call_answerPending rci inquiryId state pending answer
  next =>
    refine .goesOn (call_step rci inquiryId) fun result => .goesOn (.looks (.looks _)) fun later => ?_
    split
    next =>
      refine .goesOn (.looks (.ends _)) fun pending => ?_
      exact call_answerPending rci inquiryId later pending answer
    next =>
      refine .goesOn (.looks (looking_matches later answer)) fun matched => ?_
      split
      next => exact .looks (looking_pure _)
      next => exact .looks (.ends _)

theorem call_openGeneratedQuestion (candidateId : String) (bindings : List (String × String)) :
    SdkCall (rci.openGeneratedQuestion inquiryId candidateId bindings) := by
  refine .goesOn (.looks (.looks _)) fun state => .goesOn (.looks (.ends _)) fun compiled => ?_
  refine .goesOn (.looks (.ends _)) fun _ => .goesOn (.looks (.ends _)) fun rendered => ?_
  refine .goesOn (.looks (.ends _)) fun _ => .goesOn (.looks (.ends _)) fun context => ?_
  refine .goesOn (.looks (.ends _)) fun _ => .goesOn (.looks (.ends _)) fun scope => ?_
  exact .goesOn (.looks (.reads rci)) fun occurredAt => call_dispatch _

end

section
variable [Fingerprints] [ByteFacts] [Pydantic]

/-- Programs that call methods of the SDK one after another, and look at the world in between. -/
inductive MethodCall : {α : Type} → SdkProgram α → Prop
  | looks {α : Type} {program : SdkProgram α} (looking : Looking program) : MethodCall program
  | dispatches (command : DomainCommand) : MethodCall (RCI.dispatch command)
  | starts (rci : RCI) (inquiryId : String) (context : InquiryContext) : MethodCall (rci.start inquiryId context)
  | steps (rci : RCI) (inquiryId : String) : MethodCall (rci.step inquiryId)
  | runs (rci : RCI) (inquiryId : String) (maxSteps : Nat) : MethodCall (rci.run inquiryId maxSteps)
  | answers (rci : RCI) (inquiryId : String) (answer : ManualAnswer) : MethodCall (rci.submitAnswer inquiryId answer)
  | opens (rci : RCI) (inquiryId candidateId : String) (bindings : List (String × String)) :
      MethodCall (rci.openGeneratedQuestion inquiryId candidateId bindings)
  | goesOn {α β : Type} {first : SdkProgram α} {next : α → SdkProgram β} (begins : MethodCall first)
      (continues : ∀ value, MethodCall (next value)) : MethodCall (first >>= next)

theorem MethodCall.call {α : Type} {program : SdkProgram α} (call : MethodCall program) : SdkCall program := by
  induction call with
  | looks looking => exact .looks looking
  | dispatches command => exact call_dispatch command
  | starts rci inquiryId context => exact call_start rci inquiryId context
  | steps rci inquiryId => exact call_step rci inquiryId
  | runs rci inquiryId maxSteps => exact call_run rci inquiryId maxSteps
  | answers rci inquiryId answer => exact call_submitAnswer rci inquiryId answer
  | opens rci inquiryId candidateId bindings => exact call_openGeneratedQuestion rci inquiryId candidateId bindings
  | goesOn _ _ first second => exact .goesOn first second

/-- Whatever methods any clients call, in any interleaving of their operations: the ledger stays readable, and what
they commit is one batch of commands after another. -/
theorem methods_serve {α : Type} {world moved : SdkWorld} {clients rest : List (SdkProgram α)} (sound : world.Sound)
    (calls : ∀ client ∈ clients, MethodCall client)
    (run : Relation.ReflTransGen Client.Turn (world, clients) (moved, rest)) :
    moved.Sound ∧ ∃ batches, Served anyBatch world.ledger batches moved.ledger := by
  have specified : Client.Specified (SdkStep anyBatch) world (clients.map (fun _ _ later => later.Sound)) clients := by
    unfold Client.Specified
    rw [List.forall₂_map_left_iff, List.forall₂_same]
    intro client member
    have kept := (calls client member).call.keeps
    exact kept.weaken (fun _ reached => sound.later reached) (fun _ _ holds => holds)
  obtain ⟨steps, -⟩ := specified.turns run
  have step := SdkStep.run steps
  exact ⟨step.sound sound, step⟩

end

/-! What these parts can return. -/

section
variable [ByteFacts]

theorem putBytes_returned (apart : Function.Injective ByteFacts.sha256) {data : StoredBytes}
    {mediaType encoding : String} {reference : ArtifactRef}
    (returned : (RCI.putBytes data mediaType encoding).CanReturn reference) :
    reference = artifactOf data mediaType encoding := by
  obtain ⟨world, put⟩ := Client.canReturn_update.mp returned
  exact (ArtifactStore.putBytes_holds apart put).1

/-- A captured answer is read back as it was given. -/
theorem capture_matches [Pydantic] (apart : Function.Injective ByteFacts.sha256)
    (prefers : ∀ reference : ArtifactRef, Pydantic.prefersRecord (JsonModel.dump reference) = true)
    {answer : ManualAnswer} {captured : CapturedPayload} {claim : Claim}
    (returned : (RCI.captureAnswer answer).CanReturn captured) (payload : claim.payload = answer.inert captured) :
    claim.payload.keepsKind = true ∧ RCI.claimMatches claim answer = true := by
  cases answer with
  | nothing =>
    have inert : claim.payload = .json .null := payload
    refine ⟨?_, by simp [RCI.claimMatches, inert]⟩
    rw [inert]
    rfl
  | text value utf8 =>
    have inert : claim.payload = .json (.text value) := payload
    refine ⟨?_, by simp [RCI.claimMatches, inert]⟩
    rw [inert]
    rfl
  | bytes data =>
    obtain ⟨reference, stored, same⟩ := Client.canReturn_bind.mp returned
    obtain rfl : CapturedPayload.bytes reference = captured := same
    obtain rfl := putBytes_returned apart stored
    have inert : claim.payload = .artifact (artifactOf data "application/octet-stream" "binary") := payload
    refine ⟨?_, by simp [RCI.claimMatches, inert, artifactOf]⟩
    rw [inert]
    exact prefers _

variable [Fingerprints] {inquiryId : String}

/-- The ids of a question follow from its plan. -/
theorem request_named {state : InquiryState} {plan : StepPlan} {obligation : Obligation} {contract : QuestionContract}
    {request : EffectRequest} {attempt : EffectAttemptPlan} {rendered : String}
    (returned : (RCI.manualRequest inquiryId state plan obligation contract).CanReturn (request, attempt, rendered)) :
    request.effectKind = "semantic.manual_answer" ∧ request.id = RCI.stableId "req" [inquiryId, plan.id] ∧
      attempt.id = RCI.stableId "attempt" [request.id, "1"] := by
  simp only [RCI.manualRequest, Client.canReturn_bind, Client.canReturn_pure] at returned
  obtain ⟨bindings, -, text, -, contractRef, -, context, -, compiled, -, returned⟩ := returned
  obtain ⟨inputRef, -, routeDefinition, -, environmentRef, -, same⟩ := returned
  obtain ⟨rfl, rest⟩ := Prod.mk.inj same
  obtain ⟨rfl, -⟩ := Prod.mk.inj rest
  exact ⟨rfl, rfl, rfl⟩

/-- What an inquiry is opened with asks for a characterization. -/
theorem initial_contract {context : Option InquiryContext} {project : ProjectRecords} {opening : InquiryContext}
    {contract : QuestionContract}
    (asked : contractForObligation context project (RCI.initialObligation inquiryId opening) = .ok (some contract)) :
    contract.outputClaimRole = .characterization := by
  have plain : compiledQuestionForObligation context project (RCI.initialObligation inquiryId opening) = .ok none := by
    simp [compiledQuestionForObligation, textArgument, RCI.initialObligation, generatedCandidateArgument,
      generatedDecisionArgument, generatedCompilationArgument]
  unfold contractForObligation at asked
  rw [plain] at asked
  have known : getContract "obligation-characterization" = .ok (catalogContract
      "obligation-characterization" "present-obligation" .characterization
      "What exact relation must be established for \x7bcarrier\x7d?" .stable []) := rfl
  simp only [RCI.initialObligation, contractByObligationKind, known, bind, Except.bind] at asked
  split at asked
  next => cases asked
  next =>
    obtain rfl := Option.some.inj (Except.ok.inj asked)
    rfl

/-- The claim of an answer has the role that the inquiry was opened for, and the payload that was captured. -/
theorem boundClaim_bound {state : InquiryState} {context opening : InquiryContext} {recorded : QuestionContract}
    {answer : ManualAnswer} {externalReturn : ExternalReturn} {claim : Claim}
    (bound : RCI.boundClaim state context (RCI.initialObligation inquiryId opening) recorded answer externalReturn =
      .ok claim) :
    claim.role = .characterization ∧ claim.payload = answer.inert externalReturn.rawPayload := by
  obtain ⟨contract, asked, bound⟩ := bind_eq_ok.mp bound
  obtain ⟨same, bound⟩ := require_bind_eq_ok.mp bound
  obtain ⟨scope, -, binds⟩ := bind_eq_ok.mp bound
  rw [same] at asked
  simp only [bindAnswer, require_bind_eq_ok, bindL0Answer] at binds
  obtain ⟨-, -, -, binds⟩ := binds
  split at binds
  next =>
    obtain rfl := Except.ok.inj binds
    exact ⟨initial_contract asked, rfl⟩
  next => cases binds

variable [Pydantic] {submitted : String → ManualAnswer → Prop} {phase : LoopPhase}

theorem LoopPhase.obligation_initial {obligation : Obligation}
    (listed : obligation ∈ (phase.state inquiryId).obligations) :
    ∃ context, obligation = RCI.initialObligation inquiryId context := by
  cases phase with
  | unopened => cases listed
  | opened opening => exact ⟨_, List.mem_singleton.mp listed⟩
  | asked opening _ => exact ⟨_, List.mem_singleton.mp listed⟩
  | answered opening _ _ => exact ⟨_, List.mem_singleton.mp listed⟩

theorem LoopPhase.project_empty : (phase.state inquiryId).questionContractCandidates = [] := by
  cases phase <;> rfl

/-- In no phase of the loop an answer opens a further obligation. -/
theorem downstream_none {obligation : Obligation} {envelope : QuestionEnvelope} {answer : ManualAnswer}
    {claimId : String} {downstream : Option Obligation}
    (opened : RCI.generatedDownstreamObligation (phase.state inquiryId) obligation envelope answer claimId =
      .ok downstream) : downstream = none := by
  unfold RCI.generatedDownstreamObligation at opened
  split at opened
  next => exact (Except.ok.inj opened).symm
  next candidateId _ =>
    obtain ⟨compiled, compiles, -⟩ := bind_eq_ok.mp opened
    simp [compileAdmittedQuestion, LoopPhase.project_empty, found_bind_eq_ok] at compiles

/-- The batch of an answer binds the answer and nothing else. -/
theorem prepare_answers (apart : Function.Injective ByteFacts.sha256)
    (prefers : ∀ reference : ArtifactRef, Pydantic.prefersRecord (JsonModel.dump reference) = true) {rci : RCI}
    {request : EffectRequestState} {answer : ManualAnswer} {commands : List DomainCommand}
    (returned : (rci.prepareAnswer inquiryId (phase.state inquiryId) request answer).CanReturn commands) :
    ∃ answering requestId obligationId occurredAt, Answering.Bound answering ∧
      RCI.claimMatches answering.claim answer = true ∧ commands = RCI.answerCommands inquiryId occurredAt requestId
        obligationId answering.externalReturn answering.decoded answering.claim none := by
  simp only [RCI.prepareAnswer, Client.canReturn_bind, Client.canReturn_pure, Client.canReturn_lift,
    fromCore_eq_ok] at returned
  obtain ⟨attempt, -, occurredAt, -, captured, captures, context, -, envelope, -, returned⟩ := returned
  obtain ⟨obligation, owned, data, -, recorded, -, claim, binds, returned⟩ := returned
  obtain ⟨semanticRef, stored, downstream, opens, rfl⟩ := returned
  obtain rfl := putBytes_returned apart stored
  obtain rfl := downstream_none opens
  obtain ⟨-, owned⟩ := require_bind_eq_ok.mp owned
  obtain ⟨found, listed, owned⟩ := found_bind_eq_ok.mp owned
  obtain ⟨-, same⟩ := require_bind_eq_ok.mp owned
  obtain rfl := Except.ok.inj same
  obtain ⟨opening, initial⟩ := LoopPhase.obligation_initial (List.mem_of_find?_eq_some listed)
  rw [initial] at binds
  obtain ⟨role, payload⟩ := boundClaim_bound binds
  obtain ⟨kept, matched⟩ := capture_matches apart prefers captures payload
  exact ⟨⟨_, claim⟩, _, _, occurredAt, ⟨role, kept⟩, matched, rfl⟩

omit [Fingerprints] [ByteFacts] in
/-- The artifact of a bound claim is read back as the claim. -/
theorem Answering.Bound.claim_loaded {answering : Answering} (bound : answering.Bound) :
    (declaredBytes answering.claim.dump).loads.bind Claim.validate = some answering.claim := by
  rw [declaredBytes, StoredBytes.loads, Option.bind_some, Claim.dump, Claim.validate_write,
    (Claim.readBack_eq_iff answering.claim).mpr bound.kept]

/-- An answer that is found to be the accepted one is the answer that was bound. -/
theorem matches_answered (apart : Function.Injective ByteFacts.sha256) {answer : ManualAnswer}
    (lawful : LoopPhase.Passes submitted inquiryId .unopened phase)
    (matched : (RCI.matchesLastAcceptedAnswer (phase.state inquiryId) answer).CanReturn true) :
    ∃ opening asking answering, phase = .answered opening asking answering ∧
      RCI.claimMatches answering.claim answer = true := by
  unfold RCI.matchesLastAcceptedAnswer at matched
  split at matched
  next => cases matched
  next accepted found =>
    have listed := List.mem_reverse.mp (List.mem_of_find?_eq_some found)
    have resolved : accepted.acceptedResult.isSome = true := by
      have judged := List.find?_some found
      simp only [Bool.and_eq_true] at judged
      exact judged.2
    rcases lawful.of_unopened with rfl | ⟨opening, passed⟩
    · cases listed
    · rcases passed.of_opened with rfl | ⟨asking, -, -, rfl | ⟨answering, bound, rfl⟩⟩
      · cases listed
      · obtain rfl := List.mem_singleton.mp listed
        cases resolved
      · obtain rfl : accepted = answering.requestState asking inquiryId := List.mem_singleton.mp listed
        have result : (answering.requestState asking inquiryId).acceptedResult = answering.decoded.result? := by
          simp [EffectRequestState.acceptedResult, EffectRequestState.acceptedDecode, EffectRequestState.decodeById,
            Answering.requestState]
        refine ⟨opening, asking, answering, rfl, ?_⟩
        rw [result] at matched
        simp only [Answering.decoded, RCI.claimDecode, DecodeOutcome.result?, Client.canReturn_bind,
          Client.canReturn_pure, Client.canReturn_lift] at matched
        obtain ⟨data, read, claim, loaded, same⟩ := matched
        obtain ⟨world, read⟩ := Client.canReturn_observe.mp read
        obtain ⟨-, -, digest⟩ := ArtifactStore.getBytes_eq_ok.mp read
        obtain rfl : data = declaredBytes answering.claim.dump := apart digest
        rw [bound.claim_loaded] at loaded
        obtain rfl := Except.ok.inj loaded
        exact same

/-! The calls. -/

/-- The inquiry was opened in the context, at the latest with the state. -/
def OpenedIn (submitted : String → ManualAnswer → Prop) (inquiryId : String) (context : InquiryContext)
    (state : InquiryState) (world : SdkWorld) : Prop :=
  ∃ opening phase, phase.opening? = some opening ∧ opening.context = context ∧ state = phase.state inquiryId ∧
    world.ledger.HasPassed submitted inquiryId phase

/-- The state is that of the inquiry with the answer bound. -/
def AnsweredBy (submitted : String → ManualAnswer → Prop) (inquiryId : String) (answer : ManualAnswer)
    (state : InquiryState) (world : SdkWorld) : Prop :=
  ∃ opening asking answering, state = answering.state opening asking inquiryId ∧
    RCI.claimMatches answering.claim answer = true ∧
    world.ledger.HasPassed submitted inquiryId (.answered opening asking answering)

section
variable {fact : SdkWorld → Prop} {rci : RCI} {answer : ManualAnswer} {α β : Type} {holds : α → SdkWorld → Prop}
  {said : β → SdkWorld → Prop}

/-- A call goes on behind another one. -/
theorem loops_bind {first : SdkProgram β} {next : β → SdkProgram α}
    (begins : first.Keeps (SdkStep (LoopBatch submitted)) (Loops submitted said) fact)
    (goesOn : ∀ value, (next value).Keeps (SdkStep (LoopBatch submitted)) (Loops submitted holds)
      (SdkWorld.InLoop submitted)) :
    (first >>= next).Keeps (SdkStep (LoopBatch submitted)) (Loops submitted holds) fact := by
  apply Client.keeps_bind (fun _ world => world.InLoop submitted) _ goesOn
  apply begins.weaken (fun _ given => given)
  intro outcome world ended
  exact ⟨fun _ _ => ended.1, fun _ _ => ⟨ended.1, fun _ returned => nomatch returned⟩⟩

theorem start_loops (apart : Function.Injective ByteFacts.sha256) (context : InquiryContext) :
    (rci.start inquiryId context).Keeps (SdkStep (LoopBatch submitted))
      (Loops submitted (OpenedIn submitted inquiryId context)) (SdkWorld.InLoop submitted) := by
  apply loops_after (looking_manifest context) (inLoop_fact apart)
  intro manifest _
  apply loops_after (.ends _) (inLoop_fact apart)
  intro scope _
  apply loops_after (.reads rci) (inLoop_fact apart)
  intro occurredAt _
  apply (applyBatch_loops (inLoop_fact apart) apart (fun _ _ => .starts inquiryId context manifest occurredAt)).weaken
    (fun _ looped => looped)
  intro outcome world ended
  refine ⟨ended.1, ?_⟩
  intro state returned
  obtain ⟨before, after, lawful, passes, ran, rfl, passed⟩ := ended.2 state returned
  rcases start_moves ran with ⟨-, same⟩ | ⟨opening, opened, kept, same⟩
  · obtain rfl := LoopPhase.state_injective inquiryId same
    exact ⟨⟨manifest, context⟩, _, rfl, rfl, rfl, passed⟩
  · obtain rfl := LoopPhase.state_injective inquiryId same
    exact ⟨opening, after, opened, kept, rfl, passed⟩

/-- The question that a step asks is that of the opening, or the inquiry was answered before. -/
theorem requestSelected_loops (apart : Function.Injective ByteFacts.sha256) {plan : StepPlan}
    {opening : Opening} (ready : plan.status = .ready) (known : LoopFact submitted fact)
    (opened : ∀ world, fact world → world.ledger.HasPassed submitted inquiryId (.opened opening))
    (planned : ∀ world, fact world →
      (∃ asked answered, world.ledger.HasPassed submitted inquiryId (.answered opening asked answered)) ∨
        opening.Plans inquiryId plan) {state : InquiryState} :
    (rci.requestSelected inquiryId state plan).Keeps (SdkStep (LoopBatch submitted))
      (Loops submitted (fun _ _ => True)) fact := by
  apply loops_after (.ends _) known
  intro selectedId _
  apply loops_after (.ends _) known
  intro obligation _
  apply loops_after (.ends _) known
  intro asked _
  apply loops_after (.ends _) known
  intro contract _
  apply loops_after (looking_request inquiryId state plan obligation contract) known
  intro question returned
  obtain ⟨request, attempt, rendered⟩ := question
  obtain ⟨manual, requestNamed, attemptNamed⟩ := request_named returned
  apply loops_after (.reads rci) known
  intro occurredAt _
  have named : Asking.Named ⟨plan, request, attempt, occurredAt⟩ inquiryId :=
    ⟨ready, manual, requestNamed, attemptNamed⟩
  apply loops_bind (applyBatch_loops known apart (fun world given =>
    .asks (opened world given) named (planned world given)))
  intro next
  exact (looking_pure _).loops (inLoop_fact apart) (fun _ _ _ _ => trivial)

theorem step_loops (apart : Function.Injective ByteFacts.sha256) :
    (rci.step inquiryId).Keeps (SdkStep (LoopBatch submitted)) (Loops submitted (fun _ _ => True))
      (SdkWorld.InLoop submitted) := by
  apply loops_inspect (inLoop_fact apart) apart
  intro phase lawful _
  have known : LoopFact submitted
      (fun world => world.InLoop submitted ∧ world.ledger.HasPassed submitted inquiryId phase) :=
    (inLoop_fact apart).passed apart inquiryId phase
  split
  next pending _ =>
    exact (Looking.goesOn (looking_envelope _) fun _ => looking_pure _).loops known (fun _ _ _ _ => trivial)
  next unasked =>
    split
    next => exact (looking_pure _).loops known (fun _ _ _ _ => trivial)
    next =>
      apply loops_after (looking_schedule _) known
      intro plan planned
      split
      next => exact (looking_pure _).loops known (fun _ _ _ _ => trivial)
      next => exact (looking_pure _).loops known (fun _ _ _ _ => trivial)
      next ready =>
        rcases lawful.of_unopened with rfl | ⟨opening, passed⟩
        · obtain ⟨entries, -, scheduled⟩ := Client.canReturn_bind.mp planned
          obtain ⟨context, pinned, -⟩ := Client.canReturn_bind.mp scheduled
          cases Client.canReturn_lift.mp pinned
        · have opened : ∀ world : SdkWorld, world.InLoop submitted ∧ world.ledger.HasPassed submitted inquiryId phase →
              world.ledger.HasPassed submitted inquiryId (.opened opening) := by
            intro world given
            obtain ⟨later, lawful, passes, shown⟩ := given.2
            exact ⟨later, lawful, passed.trans passes, shown⟩
          apply requestSelected_loops apart ready known opened
          intro world given
          rcases passed.of_opened with rfl | ⟨asking, named, -, rfl | ⟨answering, -, rfl⟩⟩
          · exact .inr planned
          · have idle := List.find?_eq_none.mp unasked (asking.requestState inquiryId) List.mem_cons_self
            simp [EffectRequestState.isPendingManual, EffectRequestState.isManual, Asking.requestState,
              Asking.attemptState, AttemptState.start, named.manual] at idle
          · exact .inl ⟨asking, answering, given.2⟩

theorem run_loops (apart : Function.Injective ByteFacts.sha256) (maxSteps : Nat) :
    (rci.run inquiryId maxSteps).Keeps (SdkStep (LoopBatch submitted)) (Loops submitted (fun _ _ => True))
      (SdkWorld.InLoop submitted) := by
  have known : LoopFact submitted (SdkWorld.InLoop submitted) := inLoop_fact apart
  have steps : ∀ (steps : Nat) (sequence : Int), (rci.runSteps inquiryId steps sequence).Keeps
      (SdkStep (LoopBatch submitted)) (Loops submitted (fun _ _ => True)) (SdkWorld.InLoop submitted) := by
    intro steps
    induction steps with
    | zero =>
      intro sequence
      exact (Looking.goesOn (.looks _) fun _ => looking_pure _).loops known (fun _ _ _ _ => trivial)
    | succ steps ih =>
      intro sequence
      apply loops_bind (step_loops apart)
      intro result
      split
      next => exact (looking_pure _).loops known (fun _ _ _ _ => trivial)
      next =>
        split
        next => exact (looking_pure _).loops known (fun _ _ _ _ => trivial)
        next => exact ih _
  apply loops_after (.ends _) known
  intro _ _
  exact steps maxSteps (-1)

variable (prefers : ∀ reference : ArtifactRef, Pydantic.prefersRecord (JsonModel.dump reference) = true)
  (given : submitted inquiryId answer)

include prefers given

theorem answerPending_loops (apart : Function.Injective ByteFacts.sha256)
    (known : LoopFact submitted fact) {request : EffectRequestState} :
    (rci.answerPending inquiryId (phase.state inquiryId) request answer).Keeps (SdkStep (LoopBatch submitted))
      (Loops submitted (AnsweredBy submitted inquiryId answer)) fact := by
  apply loops_after (looking_prepare rci inquiryId _ request answer) known
  intro commands prepared
  obtain ⟨answering, requestId, obligationId, occurredAt, bound, matched, rfl⟩ := prepare_answers apart prefers prepared
  apply (applyBatch_loops known apart
    (fun _ _ => .answers requestId obligationId occurredAt bound given matched)).weaken (fun _ holds => holds)
  intro outcome world ended
  refine ⟨ended.1, ?_⟩
  intro state returned
  obtain ⟨before, after, lawful, passes, ran, rfl, passed⟩ := ended.2 state returned
  obtain ⟨opening, asking, known, -, same, claims⟩ := answer_moves apart lawful bound given matched ran
  have phase : after.state inquiryId = (LoopPhase.answered opening asking known).state inquiryId := same
  obtain rfl := LoopPhase.state_injective inquiryId phase
  exact ⟨opening, asking, known, rfl, claims ▸ matched, passed⟩

theorem submitAnswer_loops (apart : Function.Injective ByteFacts.sha256) :
    (rci.submitAnswer inquiryId answer).Keeps (SdkStep (LoopBatch submitted))
      (Loops submitted (AnsweredBy submitted inquiryId answer)) (SdkWorld.InLoop submitted) := by
  apply loops_inspect (inLoop_fact apart) apart
  intro phase _ _
  have known : LoopFact submitted
      (fun world => world.InLoop submitted ∧ world.ledger.HasPassed submitted inquiryId phase) :=
    (inLoop_fact apart).passed apart inquiryId phase
  split
  next pending _ => exact answerPending_loops prefers given apart known
  next =>
    apply loops_bind ((step_loops apart).under (fun _ holds => holds.1))
    intro result
    apply loops_inspect (inLoop_fact apart) apart
    intro later lawful _
    have settled : LoopFact submitted
        (fun world => world.InLoop submitted ∧ world.ledger.HasPassed submitted inquiryId later) :=
      (inLoop_fact apart).passed apart inquiryId later
    split
    next =>
      apply loops_after (.ends _) settled
      intro pending _
      exact answerPending_loops prefers given apart settled
    next =>
      apply loops_after (looking_matches _ answer) settled
      intro matched found
      split
      next same =>
        rw [same] at found
        obtain ⟨opening, asking, answering, rfl, matched⟩ := matches_answered apart lawful found
        apply (looking_pure _).loops settled
        intro state returned world holds
        obtain rfl := Client.canReturn_pure.mp returned
        exact ⟨opening, asking, answering, rfl, matched, holds.2⟩
      next =>
        apply Looking.loops (.ends _) settled
        intro state returned
        cases Client.canReturn_lift.mp returned

end

/-- The calls of the manual loop, which submit such answers only. -/
inductive LoopCall (submitted : String → ManualAnswer → Prop) : {α : Type} → SdkProgram α → Prop
  | looks {α : Type} {program : SdkProgram α} (looking : Looking program) : LoopCall submitted program
  | starts (rci : RCI) (inquiryId : String) (context : InquiryContext) :
      LoopCall submitted (rci.start inquiryId context)
  | steps (rci : RCI) (inquiryId : String) : LoopCall submitted (rci.step inquiryId)
  | runs (rci : RCI) (inquiryId : String) (maxSteps : Nat) : LoopCall submitted (rci.run inquiryId maxSteps)
  | answers (rci : RCI) {inquiryId : String} {answer : ManualAnswer} (given : submitted inquiryId answer) :
      LoopCall submitted (rci.submitAnswer inquiryId answer)
  | goesOn {α β : Type} {first : SdkProgram α} {next : α → SdkProgram β} (begins : LoopCall submitted first)
      (continues : ∀ value, LoopCall submitted (next value)) : LoopCall submitted (first >>= next)

section
variable (apart : Function.Injective ByteFacts.sha256)
  (prefers : ∀ reference : ArtifactRef, Pydantic.prefersRecord (JsonModel.dump reference) = true)

include apart prefers

theorem LoopCall.loops {α : Type} {program : SdkProgram α} (call : LoopCall submitted program) :
    program.Keeps (SdkStep (LoopBatch submitted)) (Loops submitted (fun _ _ => True)) (SdkWorld.InLoop submitted) := by
  induction call with
  | looks looking => exact looking.loops (inLoop_fact apart) (fun _ _ _ _ => trivial)
  | starts rci inquiryId context =>
    exact (start_loops apart context).weaken (fun _ holds => holds) (fun _ _ ended => ⟨ended.1, fun _ _ => trivial⟩)
  | steps rci inquiryId => exact step_loops apart
  | runs rci inquiryId maxSteps => exact run_loops apart maxSteps
  | answers rci given =>
    exact (submitAnswer_loops prefers given apart).weaken (fun _ holds => holds)
      (fun _ _ ended => ⟨ended.1, fun _ _ => trivial⟩)
  | goesOn _ _ first second => exact loops_bind first second

end

end

namespace WorkedApart

scoped instance apartFingerprints : Fingerprints := Worked.readableFingerprints

scoped instance apartSerializer : Pydantic := Worked.eagerSerializer

end WorkedApart

end RatchetingInquiry
