import RatchetingInquiry.Invariants.InquiryLoop

/-! The calls of the manual loop side by side. What each of them commits moves the phase of its inquiry on or leaves it,
so that an inquiry is opened, asked and answered once however the calls take turns. -/

namespace RatchetingInquiry

section
variable [ByteFacts] [Fingerprints] [Pydantic]

omit [ByteFacts] [Fingerprints] in
/-- The command carries no payload, or that of a claim which is read back as it was written. -/
def CommandBody.Plain : CommandBody → Prop
  | .startInquiry _ _ _ | .effect _ | .claim (.openObligation _) | .claim (.recordObligationDisposition _) => True
  | .claim (.admitClaim admitted) => admitted.payload.keepsKind = true
  | _ => False

section
variable {state after : InquiryState} {commands : List DomainCommand} {pending : List DomainEvent}

omit [ByteFacts] in
theorem CommandBody.Plain.keepsKinds {body : CommandBody} {inquiryId : String} {event : EventBody} (plain : body.Plain)
    (head : EventMetadata) (decided : decideBody state inquiryId body = .ok (some event)) :
    (⟨head, event⟩ : DomainEvent).keepsKinds = true := by
  cases body with
  | startInquiry manifest policyVersion context =>
    simp only [decideBody, decideStart] at decided
    split at decided
    next =>
      obtain rfl := Option.some.inj (Except.ok.inj decided)
      rfl
    next => split at decided <;> simp at decided
  | effect command =>
    obtain ⟨-, effect, -, rfl⟩ := activeDecision_eq_some.mp decided
    rfl
  | claim command =>
    obtain ⟨-, claim, lawful, rfl⟩ := activeDecision_eq_some.mp decided
    have same := decideClaim_command _ _ lawful claim rfl
    rw [← same] at plain
    cases claim with
    | claimAdmitted admitted conflicts obligations =>
      have kept : admitted.payload.keepsKind = true := plain
      simp [DomainEvent.keepsKinds, DomainEvent.inertPayloads, ClaimEvent.inertPayloads, kept]
    | candidateRecorded candidate => cases plain
    | residualRecorded residual => cases plain
    | _ => rfl
  | _ => cases plain

omit [ByteFacts] in
/-- The events of plain commands are read back as they were written. -/
theorem decidePending_plain (plain : ∀ command ∈ commands, command.body.Plain)
    (decided : PersistedEffectExecutor.decidePending state commands = .ok (pending, after)) :
    ∀ event ∈ pending, event.DecodesToItself := by
  induction commands using List.reverseRecOn generalizing pending after with
  | nil =>
    obtain ⟨rfl, rfl⟩ := Prod.mk.inj (Except.ok.inj decided)
    exact fun _ listed => nomatch listed
  | append_singleton commands command ih =>
    obtain ⟨earlier, between, added, before, decides, -, rfl⟩ := decidePending_snoc.mp decided
    have others := ih (fun item listed => plain item (List.mem_append_left _ listed)) before
    obtain ⟨body, chosen, rfl⟩ := decide_eq_ok.mp decides
    intro event listed
    rcases List.mem_append.mp listed with earlierListed | listed
    · exact others event earlierListed
    · cases body with
      | none => cases listed
      | some body =>
        obtain rfl := List.mem_singleton.mp listed
        have kept := (plain command (List.mem_append_right _ List.mem_cons_self)).keepsKinds command.head chosen
        rw [DomainEvent.DecodesToItself, decodeEventBytes_encodeEvent, (DomainEvent.readBack_eq_iff _).mpr kept]

end

/-- The ledger shows the inquiry in the phase. -/
def Ledger.ShowsPhase (ledger : Ledger) (inquiryId : String) (phase : LoopPhase) : Prop :=
  ∃ events, ShowsFold ledger inquiryId events (phase.state inquiryId)

/-- The inquiry is in the phase, or in one that came of it, and it went there by the moves of the loop. -/
def Ledger.HasPassed (submitted : String → ManualAnswer → Prop) (ledger : Ledger) (inquiryId : String)
    (phase : LoopPhase) : Prop :=
  ∃ later, LoopPhase.Passes submitted inquiryId .unopened later ∧ LoopPhase.Passes submitted inquiryId phase later ∧
    ledger.ShowsPhase inquiryId later

/-- The batches of the loop. A question is put together from an opening that the ledger has passed, and a claim from an
answer that was submitted. -/
inductive LoopBatch (submitted : String → ManualAnswer → Prop) (ledger : Ledger) : CommandBatch → Prop
  | starts (inquiryId : String) (context : InquiryContext) (manifest : ArtifactRef) (occurredAt : Timestamp) :
      LoopBatch submitted ledger ⟨inquiryId, RCI.startCommands inquiryId context manifest occurredAt⟩
  | asks {inquiryId : String} {opening : Opening} {asking : Asking}
      (passed : ledger.HasPassed submitted inquiryId (.opened opening)) (named : asking.Named inquiryId)
      (planned : (∃ asked answered, ledger.HasPassed submitted inquiryId (.answered opening asked answered)) ∨
        opening.Plans inquiryId asking.plan) :
      LoopBatch submitted ledger ⟨inquiryId,
        RCI.stepCommands inquiryId asking.occurredAt asking.plan asking.request asking.attempt⟩
  | answers {inquiryId : String} {answering : Answering} {answer : ManualAnswer} (requestId obligationId : String)
      (occurredAt : Timestamp) (bound : answering.Bound) (given : submitted inquiryId answer)
      (matched : RCI.claimMatches answering.claim answer = true) :
      LoopBatch submitted ledger ⟨inquiryId, RCI.answerCommands inquiryId occurredAt requestId obligationId
        answering.externalReturn answering.decoded answering.claim none⟩

section
variable {submitted : String → ManualAnswer → Prop} {ledger next : Ledger} {inquiryId : String}
  {phase earlier : LoopPhase} {batch : CommandBatch} {after : InquiryState}

theorem Ledger.HasPassed.behind (passed : ledger.HasPassed submitted inquiryId earlier)
    (shown : ledger.ShowsPhase inquiryId phase) : LoopPhase.Passes submitted inquiryId earlier phase := by
  obtain ⟨later, -, passes, events, shows⟩ := passed
  obtain ⟨others, again⟩ := shown
  rw [← LoopPhase.state_injective inquiryId (shows.unique again).2]
  exact passes

theorem LoopBatch.plain (permitted : LoopBatch submitted ledger batch) :
    ∀ command ∈ batch.commands, command.body.Plain := by
  cases permitted with
  | starts => simp [RCI.startCommands, CommandBody.Plain]
  | asks => simp [RCI.stepCommands, CommandBody.Plain]
  | answers _ _ _ bound => simp [RCI.answerCommands, CommandBody.Plain, bound.kept]

/-- A batch of the loop moves the phase of its inquiry on, or leaves it. -/
theorem LoopBatch.moves (apart : Function.Injective ByteFacts.sha256)
    (permitted : LoopBatch submitted ledger batch)
    (lawful : LoopPhase.Passes submitted batch.inquiryId .unopened phase)
    (shown : ledger.ShowsPhase batch.inquiryId phase)
    (ran : runCommands (phase.state batch.inquiryId) batch.commands = .ok after) :
    ∃ later, LoopPhase.Passes submitted batch.inquiryId phase later ∧ after = later.state batch.inquiryId := by
  cases permitted with
  | starts inquiryId context manifest occurredAt =>
    rcases start_moves ran with ⟨rfl, same⟩ | ⟨opening, -, -, same⟩
    · exact ⟨_, .single (.opens _), same⟩
    · exact ⟨phase, .refl, same⟩
  | asks passed named planned =>
    apply ask_moves (passed.behind shown) named _ ran
    apply planned.imp_left
    intro answered
    obtain ⟨asked, answered, passed⟩ := answered
    exact ⟨asked, answered, (passed.behind shown).of_answered⟩
  | answers requestId obligationId occurredAt bound given matched =>
    obtain ⟨opening, asking, known, passes, same, -⟩ := answer_moves apart lawful bound given matched ran
    exact ⟨_, passes, same⟩

/-- Batch after batch, the phases that the ledger shows move on. -/
theorem Served.moves (apart : Function.Injective ByteFacts.sha256)
    {batches : List (CommandBatch × List DomainEvent)} (served : Served (LoopBatch submitted) ledger batches next) :
    ∀ inquiryId phase, ledger.HasPassed submitted inquiryId phase → next.HasPassed submitted inquiryId phase := by
  induction served with
  | nothing => exact fun _ _ passed => passed
  | @batch middle next batches batch shown pending read proposed _ _ _ served permitted shows decided appended ih =>
    intro inquiryId phase passed
    obtain ⟨later, lawful, passes, events, showsLater⟩ := ih inquiryId phase passed
    have single : Served (LoopBatch submitted) middle [(batch, pending)] next :=
      .batch (.nothing middle) permitted shows decided appended
    have faithful : ∀ event ∈ [(batch, pending)].flatMap Prod.snd, event.DecodesToItself := by
      rw [List.flatMap_singleton]
      exact decidePending_plain permitted.plain decided
    obtain ⟨after, folds, ran⟩ := single.folds faithful showsLater
    by_cases own : batch.inquiryId = inquiryId
    · subst own
      have commands : commandsFor batch.inquiryId [(batch, pending)] = batch.commands := by simp [commandsFor]
      rw [commands] at ran
      obtain ⟨last, moves, rfl⟩ := permitted.moves apart lawful ⟨events, showsLater⟩ ran
      exact ⟨last, lawful.trans moves, passes.trans moves, _, folds⟩
    · have aside : commandsFor inquiryId [(batch, pending)] = [] := by simp [commandsFor, own]
      rw [aside] at ran
      obtain rfl := Except.ok.inj ran
      exact ⟨later, lawful, passes, _, folds⟩

end

/-- The ledger can be read, and every inquiry went where it is by the moves of the loop. -/
def SdkWorld.InLoop (submitted : String → ManualAnswer → Prop) (world : SdkWorld) : Prop :=
  world.Sound ∧ ∀ inquiryId, world.ledger.HasPassed submitted inquiryId .unopened

/-- A fact about a world in the loop that stays true whatever the calls commit. -/
structure LoopFact (submitted : String → ManualAnswer → Prop) (fact : SdkWorld → Prop) : Prop where
  stays : Client.Stable (SdkStep (LoopBatch submitted)) fact
  looped : ∀ world, fact world → world.InLoop submitted

/-- A call ends in the loop, and with what holds of the value that it returns. -/
def Loops {α : Type} (submitted : String → ManualAnswer → Prop) (holds : α → SdkWorld → Prop)
    (outcome : Except StoreFailure α) (world : SdkWorld) : Prop :=
  world.InLoop submitted ∧ ∀ value, outcome = .ok value → holds value world

section
variable {submitted : String → ManualAnswer → Prop} {inquiryId : String} {fact : SdkWorld → Prop} {α β : Type}
  {holds : α → SdkWorld → Prop}

theorem inLoop_fact (apart : Function.Injective ByteFacts.sha256) :
    LoopFact submitted (SdkWorld.InLoop submitted) where
  looped := fun _ looped => looped
  stays := by
    intro world next step given
    have readable := step.sound given.1
    obtain ⟨batches, served⟩ := step
    exact ⟨readable, fun inquiryId => served.moves apart inquiryId _ (given.2 inquiryId)⟩

/-- What an inquiry has passed it has passed for good. -/
theorem LoopFact.passed (known : LoopFact submitted fact)
    (apart : Function.Injective ByteFacts.sha256) (inquiryId : String) (phase : LoopPhase) :
    LoopFact submitted (fun world => fact world ∧ world.ledger.HasPassed submitted inquiryId phase) where
  looped := fun world given => known.looped world given.1
  stays := by
    intro world next step given
    have kept := known.stays world next step given.1
    obtain ⟨batches, served⟩ := step
    exact ⟨kept, served.moves apart inquiryId phase given.2⟩

/-- A program that only looks keeps the loop. -/
theorem Looking.loops {program : SdkProgram α} (looking : Looking program) (known : LoopFact submitted fact)
    (given : ∀ value, program.CanReturn value → ∀ world, fact world → holds value world) :
    program.Keeps (SdkStep (LoopBatch submitted)) (Loops submitted holds) fact := by
  apply (looking.keeps known.stays).returning.weaken (fun _ begun => begun)
  intro outcome world ended
  exact ⟨known.looped world ended.1, fun value returned => given value (ended.2 value returned) world ended.1⟩

/-- A call that has only looked goes on with a value that it can have found. -/
theorem loops_after {first : SdkProgram β} {next : β → SdkProgram α} (looking : Looking first)
    (known : LoopFact submitted fact)
    (goesOn : ∀ value, first.CanReturn value →
      (next value).Keeps (SdkStep (LoopBatch submitted)) (Loops submitted holds) fact) :
    (first >>= next).Keeps (SdkStep (LoopBatch submitted)) (Loops submitted holds) fact := by
  apply Client.keeps_after (looking.keeps known.stays) _ goesOn
  intro failure world given
  exact ⟨known.looped world given, fun _ returned => nomatch returned⟩

/-- A call that inspects an inquiry finds a phase of it, and the inquiry has passed that phase from then on. -/
theorem loops_inspect {next : InquiryState → SdkProgram α} (known : LoopFact submitted fact)
    (apart : Function.Injective ByteFacts.sha256)
    (goesOn : ∀ phase, LoopPhase.Passes submitted inquiryId .unopened phase →
      (∃ world, fact world ∧ world.ledger.ShowsPhase inquiryId phase) →
      (next (phase.state inquiryId)).Keeps (SdkStep (LoopBatch submitted)) (Loops submitted holds)
        (fun world => fact world ∧ world.ledger.HasPassed submitted inquiryId phase)) :
    (RCI.inspect inquiryId >>= next).Keeps (SdkStep (LoopBatch submitted)) (Loops submitted holds) fact := by
  apply Client.keeps_bind (fun state world => ∃ phase, state = phase.state inquiryId ∧
    LoopPhase.Passes submitted inquiryId .unopened phase ∧
    (∃ world, fact world ∧ world.ledger.ShowsPhase inquiryId phase) ∧
    fact world ∧ world.ledger.HasPassed submitted inquiryId phase)
  · apply Client.keeps_observe
    intro world given later run
    constructor
    · intro state rebuilt
      obtain ⟨sound, looped⟩ := known.looped world given
      obtain ⟨events, shows⟩ := inspected_shows sound rebuilt
      obtain ⟨phase, lawful, -, others, again⟩ := looped inquiryId
      have shown : world.ledger.ShowsPhase inquiryId phase := ⟨others, again⟩
      have same := (shows.unique again).2
      have kept := (known.passed apart inquiryId phase).stays.run run ⟨given, phase, lawful, .refl, shown⟩
      exact ⟨phase, same, lawful, ⟨world, given, shown⟩, kept⟩
    · intro failure _
      exact ⟨known.looped later (known.stays.run run given), fun _ returned => nomatch returned⟩
  · intro state
    by_cases found : ∃ phase, state = phase.state inquiryId ∧ LoopPhase.Passes submitted inquiryId .unopened phase ∧
        ∃ world, fact world ∧ world.ledger.ShowsPhase inquiryId phase
    · obtain ⟨phase, rfl, lawful, shown⟩ := found
      apply (goesOn phase lawful shown).under
      intro world given
      obtain ⟨other, same, -, -, holds⟩ := given
      rw [LoopPhase.state_injective inquiryId same]
      exact holds
    · apply Client.keeps_unreached
      intro world given
      obtain ⟨phase, same, lawful, shown, -⟩ := given
      exact found ⟨phase, same, lawful, shown⟩

/-- A batch of the loop led from a phase of the inquiry to the state, which is that of a phase as well. -/
def ReachedBy (submitted : String → ManualAnswer → Prop) (inquiryId : String) (commands : List DomainCommand)
    (state : InquiryState) (world : SdkWorld) : Prop :=
  ∃ before after, LoopPhase.Passes submitted inquiryId .unopened before ∧
    LoopPhase.Passes submitted inquiryId before after ∧ runCommands (before.state inquiryId) commands = .ok state ∧
    state = after.state inquiryId ∧ world.ledger.HasPassed submitted inquiryId after

/-- The append of a batch that was decided upon a phase succeeds in that phase only, and moves it on. -/
theorem appendEvents_loops {commands : List DomainCommand} {pending : List DomainEvent} {before after : LoopPhase}
    (known : LoopFact submitted fact) (apart : Function.Injective ByteFacts.sha256)
    (permitted : ∀ world, fact world → LoopBatch submitted world.ledger ⟨inquiryId, commands⟩)
    (lawful : LoopPhase.Passes submitted inquiryId .unopened after)
    (decided : PersistedEffectExecutor.decidePending (before.state inquiryId) commands =
      .ok (pending, after.state inquiryId)) :
    (RCI.appendEvents inquiryId (before.state inquiryId).sequence pending).Keeps (SdkStep (LoopBatch submitted))
      (Loops submitted (fun _ world => world.ledger.HasPassed submitted inquiryId after))
      (fun world => fact world ∧ world.ledger.HasPassed submitted inquiryId before) := by
  have judged : ∀ world : SdkWorld, fact world ∧ world.ledger.HasPassed submitted inquiryId before → ∀ outcome next,
      append (some world.store) (some world.store) world.ledger inquiryId (before.state inquiryId).sequence pending =
        (next, outcome) →
      SdkStep (LoopBatch submitted) world { world with ledger := next } ∧
        ∀ sequence, outcome = .ok sequence → next.HasPassed submitted inquiryId after := by
    intro world given outcome next appended
    cases outcome with
    | error failure =>
      rw [append_rejected appended]
      exact ⟨⟨[], .nothing _⟩, fun _ returned => nomatch returned⟩
    | ok sequence =>
      obtain ⟨_, _, passed⟩ := append_passed appended
      obtain ⟨shownPhase, -, passes, events, shows⟩ := given.2
      -- The version of the stream is that of the phase, so no move was made since.
      have current : (shownPhase.state inquiryId).sequence = (before.state inquiryId).sequence := by
        rw [shows.version.2, ← shows.version.1]
        exact (Nat.cast_inj.mp passed.current).symm
      rcases passes.sequence with rfl | grown
      · have allowed := permitted world given.1
        have served : Served (LoopBatch submitted) world.ledger [(⟨inquiryId, commands⟩, pending)] next :=
          .batch (.nothing _) allowed shows decided appended
        refine ⟨⟨_, served⟩, ?_⟩
        intro _ _
        have faithful : ∀ event ∈ [((⟨inquiryId, commands⟩ : CommandBatch), pending)].flatMap Prod.snd,
            event.DecodesToItself := by
          rw [List.flatMap_singleton]
          exact decidePending_plain allowed.plain decided
        obtain ⟨last, folds, ran⟩ := served.folds faithful shows
        have own : commandsFor inquiryId [((⟨inquiryId, commands⟩ : CommandBatch), pending)] = commands := by
          simp [commandsFor]
        rw [own, (decidePending_runs decided).1] at ran
        obtain rfl := Except.ok.inj ran
        exact ⟨after, lawful, .refl, _, folds⟩
      · rw [current] at grown
        exact absurd grown (Nat.lt_irrefl _)
  apply Client.keeps_update
  · intro world given
    exact .single (judged world given _ _ rfl).1
  · intro world given later run
    obtain ⟨step, passed⟩ := judged world given _ _ rfl
    have kept := (known.stays.run (.single step) given.1)
    refine ⟨known.looped later (known.stays.run run kept), ?_⟩
    intro sequence returned
    exact (((inLoop_fact apart).passed apart inquiryId after).stays.run run
      ⟨known.looped _ kept, passed sequence returned⟩).2

/-- A batch of the loop is committed in the phase that it was decided upon, or not at all. -/
theorem applyBatch_loops {commands : List DomainCommand} (known : LoopFact submitted fact)
    (apart : Function.Injective ByteFacts.sha256)
    (permitted : ∀ world, fact world → LoopBatch submitted world.ledger ⟨inquiryId, commands⟩) :
    (RCI.applyBatch inquiryId commands).Keeps (SdkStep (LoopBatch submitted))
      (Loops submitted (ReachedBy submitted inquiryId commands)) fact := by
  unfold RCI.applyBatch
  apply loops_inspect known apart
  intro before lawful shown
  cases decided : PersistedEffectExecutor.decidePending (before.state inquiryId) commands with
  | error failure =>
    change Client.Keeps (SdkStep (LoopBatch submitted)) _ (.done (.error (StoreFailure.domain failure))) _
    intro world given
    exact ⟨known.looped world given.1, fun _ returned => nomatch returned⟩
  | ok decision =>
    obtain ⟨pending, next⟩ := decision
    obtain ⟨ran, replayed⟩ := decidePending_runs decided
    obtain ⟨world, holds, shows⟩ := shown
    obtain ⟨after, passes, rfl⟩ := (permitted world holds).moves apart lawful shows ran
    change Client.Keeps (SdkStep (LoopBatch submitted)) _ (if pending = [] then pure (after.state inquiryId) else do
      let _ ← RCI.appendEvents inquiryId (before.state inquiryId).sequence pending
      return after.state inquiryId : SdkProgram InquiryState) _
    split
    next nothing =>
      rw [nothing] at replayed
      have same := LoopPhase.state_injective inquiryId (Except.ok.inj replayed)
      apply Client.keeps_pure
      intro world given
      refine ⟨known.looped world given.1, ?_⟩
      intro value returned
      obtain rfl := Except.ok.inj returned
      exact ⟨before, after, lawful, passes, ran, rfl, same ▸ given.2⟩
    next something =>
      apply Client.keeps_bind (fun _ world => world.InLoop submitted ∧ world.ledger.HasPassed submitted inquiryId after)
      · apply (appendEvents_loops known apart permitted (lawful.trans passes) decided).weaken (fun _ given => given)
        intro outcome world ended
        exact ⟨fun sequence returned => ⟨ended.1, ended.2 sequence returned⟩,
          fun failure _ => ⟨ended.1, fun _ returned => nomatch returned⟩⟩
      · intro _
        apply Client.keeps_pure
        intro world given
        refine ⟨given.1, ?_⟩
        intro value returned
        obtain rfl := Except.ok.inj returned
        exact ⟨before, after, lawful, passes, ran, rfl, given.2⟩

end

end

end RatchetingInquiry
