import RatchetingInquiry.Invariants.StreamFold
import RatchetingInquiry.Library.Interference
import RatchetingInquiry.Sdk.Satisfaction

/-! Calls of the SDK that run side by side. Each reads the ledger in one operation and appends in a later one, and
between the two the others go on. What the calls commit is nevertheless one batch of commands after another, each
decided upon the state that the batches before it left. -/

namespace RatchetingInquiry

/-- The commands that a call decides together. -/
structure CommandBatch where
  inquiryId : String
  commands : List DomainCommand
deriving DecidableEq

/-- The commands that batches address to one inquiry, in their order. -/
def commandsFor (inquiryId : String) (batches : List (CommandBatch × List DomainEvent)) : List DomainCommand :=
  (batches.filter (fun served => served.1.inquiryId = inquiryId)).flatMap (fun served => served.1.commands)

theorem commandsFor_append (inquiryId : String) (first second : List (CommandBatch × List DomainEvent)) :
    commandsFor inquiryId (first ++ second) = commandsFor inquiryId first ++ commandsFor inquiryId second := by
  unfold commandsFor
  rw [List.filter_append, List.flatMap_append]

section
variable [Fingerprints] {state middle after : InquiryState} {commands : List DomainCommand} {pending : List DomainEvent}

theorem decidePending_snoc {command : DomainCommand} :
    PersistedEffectExecutor.decidePending state (commands ++ [command]) = .ok (pending, after) ↔
      ∃ earlier between added, PersistedEffectExecutor.decidePending state commands = .ok (earlier, between) ∧
        decide between command = .ok added ∧ added.foldlM evolve between = .ok after ∧ pending = earlier ++ added := by
  simp only [PersistedEffectExecutor.decidePending, List.foldlM_append, List.foldlM_cons, List.foldlM_nil, bind_eq_ok,
    pure, Except.pure, Except.ok.injEq]
  constructor
  · intro decided
    obtain ⟨⟨earlier, between⟩, before, last, ⟨added, decides, next, folds, rfl⟩, same⟩ := decided
    obtain ⟨rfl, rfl⟩ := Prod.mk.inj same
    exact ⟨earlier, between, added, before, decides, folds, rfl⟩
  · intro decided
    obtain ⟨earlier, between, added, before, decides, folds, rfl⟩ := decided
    exact ⟨(earlier, between), before, _, ⟨added, decides, after, folds, rfl⟩, rfl⟩

/-- The state that a batch leads to is that of its commands, and that of its pending events. -/
theorem decidePending_runs (decided : PersistedEffectExecutor.decidePending state commands = .ok (pending, after)) :
    runCommands state commands = .ok after ∧ replay state pending = .ok after := by
  induction commands using List.reverseRecOn generalizing pending after with
  | nil =>
    obtain ⟨rfl, rfl⟩ := Prod.mk.inj (Except.ok.inj decided)
    exact ⟨rfl, rfl⟩
  | append_singleton commands command ih =>
    obtain ⟨earlier, between, added, before, decides, folds, rfl⟩ := decidePending_snoc.mp decided
    obtain ⟨ran, replayed⟩ := ih before
    have applied : applyCommand between command = .ok after := bind_eq_ok.mpr ⟨added, decides, folds⟩
    refine ⟨?_, replay_append.mpr ⟨between, replayed, folds⟩⟩
    unfold runCommands at ran ⊢
    rw [List.foldlM_append, bind_eq_ok]
    exact ⟨between, ran, by simpa using applied⟩

end

section
variable [Fingerprints] [ByteFacts] [Pydantic]

/-- Batches that took effect one after another: each was allowed, its commands were decided upon the state that the
ledger showed, and their events were appended behind it. -/
inductive Served (allowed : Ledger → CommandBatch → Prop) :
    Ledger → List (CommandBatch × List DomainEvent) → Ledger → Prop
  | nothing (ledger : Ledger) : Served allowed ledger [] ledger
  | batch {ledger middle next : Ledger} {batches : List (CommandBatch × List DomainEvent)} {batch : CommandBatch}
      {events pending : List DomainEvent} {state after : InquiryState} {store atCommit : Option ArtifactStore}
      {sequence : Nat} (earlier : Served allowed ledger batches middle) (permitted : allowed middle batch)
      (shows : ShowsFold middle batch.inquiryId events state)
      (decided : PersistedEffectExecutor.decidePending state batch.commands = .ok (pending, after))
      (appended : append store atCommit middle batch.inquiryId state.sequence pending = (next, .ok sequence)) :
      Served allowed ledger (batches ++ [(batch, pending)]) next

/-- The ledger holds the events of a batch right behind those of the state that it was decided upon. -/
def HasServed (ledger : Ledger) (batch : CommandBatch) (next : InquiryState) : Prop :=
  ∃ history earlier pending state, Represents ledger history ∧ replay initialState earlier = .ok state ∧
    PersistedEffectExecutor.decidePending state batch.commands = .ok (pending, next) ∧
    earlier ++ pending.map DomainEvent.readBack <+:
      (streamOf history batch.inquiryId).map DomainEvent.readBack

/-- The state was read from the ledger, which has grown since. -/
def HasRead (ledger : Ledger) (inquiryId : String) (state : InquiryState) : Prop :=
  ∃ history earlier, Represents ledger history ∧ replay initialState earlier = .ok state ∧
    earlier <+: (streamOf history inquiryId).map DomainEvent.readBack

section
variable {allowed : Ledger → CommandBatch → Prop} {ledger middle next : Ledger}
  {batches later : List (CommandBatch × List DomainEvent)}
  {history events : List DomainEvent} {inquiryId : String} {state after : InquiryState}

theorem Served.trans (first : Served allowed ledger batches middle)
    (second : Served allowed middle later next) : Served allowed ledger (batches ++ later) next := by
  induction second with
  | nothing => simpa using first
  | batch _ permitted shows decided appended ih =>
    rw [← List.append_assoc]
    exact .batch ih permitted shows decided appended

/-- The ledger holds the events of the batches behind those that it held before. -/
theorem Served.represents (served : Served allowed ledger batches next) (represents : Represents ledger history) :
    Represents next (history ++ batches.flatMap Prod.snd) := by
  induction served with
  | nothing => simpa using represents
  | batch _ _ _ _ appended ih =>
    obtain ⟨_, _, passed⟩ := append_passed appended
    rw [List.flatMap_append, ← List.append_assoc, List.flatMap_singleton]
    exact ih.continued passed.own passed.wrote

theorem Served.snapshots (served : Served allowed ledger batches next) : next.snapshots = ledger.snapshots := by
  induction served with
  | nothing => rfl
  | batch _ _ _ _ appended ih =>
    obtain ⟨_, _, passed⟩ := append_passed appended
    exact (writeBatch_eq_ok rfl passed.wrote).2.1.trans ih

omit [Fingerprints] [ByteFacts] in
theorem faithful_readBack (faithful : ∀ event ∈ events, event.DecodesToItself) :
    events.map DomainEvent.readBack = events := by
  conv_rhs => rw [← List.map_id events]
  apply List.map_congr_left
  intro event member
  have decoded := faithful event member
  rw [DomainEvent.DecodesToItself, decodeEventBytes_encodeEvent] at decoded
  exact Except.ok.inj decoded

/-- What the ledger shows of an inquiry after batches are the commands that they addressed to it, one after another,
where their events are read back as they were. -/
theorem Served.folds (served : Served allowed ledger batches next)
    (faithful : ∀ event ∈ batches.flatMap Prod.snd, event.DecodesToItself)
    (shows : ShowsFold ledger inquiryId events state) :
    ∃ after, ShowsFold next inquiryId (events ++ streamOf (batches.flatMap Prod.snd) inquiryId) after ∧
      runCommands state (commandsFor inquiryId batches) = .ok after := by
  induction served with
  | nothing =>
    refine ⟨state, ?_, rfl⟩
    simpa [streamOf] using shows
  | @batch middle next batches batch shown pending read proposed _ _ _ _ _ decides decided appended ih =>
    simp only [List.flatMap_append, List.flatMap_singleton, List.mem_append] at faithful
    obtain ⟨between, folds, ran⟩ := ih (fun event member => faithful event (.inl member))
    obtain ⟨_, _, passed⟩ := append_passed appended
    have kept := faithful_readBack (fun event member => faithful event (.inr member))
    rw [List.flatMap_append, List.flatMap_singleton, streamOf_append, commandsFor_append]
    obtain ⟨history, represents, same, replayed⟩ := folds
    have continued := represents.continued passed.own passed.wrote
    by_cases own : batch.inquiryId = inquiryId
    · subst own
      obtain ⟨rfl, rfl⟩ := ShowsFold.unique ⟨history, represents, same, replayed⟩ decides
      obtain ⟨ranBatch, replayedBatch⟩ := decidePending_runs decided
      refine ⟨proposed, ⟨history ++ pending, continued, ?_, ?_⟩, ?_⟩
      · rw [streamOf_append, streamOf_own passed.own, List.map_append, same, kept, List.append_assoc]
      · rw [← List.append_assoc, streamOf_own passed.own]
        exact replay_append.mpr ⟨between, replayed, replayedBatch⟩
      · have single : commandsFor batch.inquiryId [(batch, pending)] = batch.commands := by simp [commandsFor]
        unfold runCommands at ran ranBatch ⊢
        rw [List.foldlM_append, bind_eq_ok, single]
        exact ⟨between, ran, ranBatch⟩
    · have aside : streamOf pending inquiryId = [] := streamOf_other passed.own (Ne.symm own)
      have single : commandsFor inquiryId [(batch, pending)] = [] := by simp [commandsFor, own]
      rw [aside, single, List.append_nil, List.append_nil]
      refine ⟨between, ⟨history ++ pending, continued, ?_, replayed⟩, ran⟩
      rw [streamOf_append, aside, List.append_nil, same]

/-- What was read or served stays so when the ledger goes on. -/
theorem HasRead.kept (read : HasRead ledger inquiryId state) (served : Served allowed ledger batches next) :
    HasRead next inquiryId state := by
  obtain ⟨history, earlier, represents, replayed, begins⟩ := read
  refine ⟨_, earlier, served.represents represents, replayed, ?_⟩
  rw [streamOf_append, List.map_append]
  exact begins.trans (List.prefix_append _ _)

theorem HasServed.kept {batch : CommandBatch} (done : HasServed ledger batch after)
    (served : Served allowed ledger batches next) : HasServed next batch after := by
  obtain ⟨history, earlier, pending, state, represents, replayed, decided, begins⟩ := done
  refine ⟨_, earlier, pending, state, served.represents represents, replayed, decided, ?_⟩
  rw [streamOf_append, List.map_append]
  exact begins.trans (List.prefix_append _ _)

/-- A state that was read at the version of the stream is what the stream shows. -/
theorem HasRead.shows (read : HasRead ledger inquiryId state)
    (current : ledger.streamVersion inquiryId = state.sequence) :
    ∃ events, ShowsFold ledger inquiryId events state := by
  obtain ⟨history, earlier, represents, replayed, begins⟩ := read
  have whole : earlier = (streamOf history inquiryId).map DomainEvent.readBack := by
    apply begins.eq_of_length
    rw [List.length_map, ← represents.versions, current, replay_sequence .refl replayed]
    exact (Nat.zero_add _).symm
  exact ⟨earlier, history, represents, whole.symm, replayed⟩

end

/-! The calls as clients of one world. -/

/-- The ledger can be read, and every read folds all the events of its stream. -/
def SdkWorld.Sound (world : SdkWorld) : Prop :=
  (∃ history, Represents world.ledger history) ∧ world.ledger.snapshots = []

/-- What an operation of a call does to the ledger: it commits allowed batches, if it commits anything. -/
def SdkStep (allowed : Ledger → CommandBatch → Prop) (world next : SdkWorld) : Prop :=
  ∃ batches, Served allowed world.ledger batches next.ledger

/-- How the call of a batch ends: the ledger is readable, and holds the batch if the call returned. -/
def BatchEnds (batch : CommandBatch) (outcome : Except StoreFailure InquiryState) (world : SdkWorld) : Prop :=
  world.Sound ∧ ∀ next, outcome = .ok next → HasServed world.ledger batch next

/-- Programs that look at the world, store artifacts and read the clock, and append nothing. -/
inductive Looking : {α : Type} → SdkProgram α → Prop
  | ends {α : Type} (outcome : Except StoreFailure α) : Looking (Client.lift outcome)
  | looks {α : Type} (look : SdkWorld → Except StoreFailure α) : Looking (Client.observe look)
  | stores (data : StoredBytes) (mediaType encoding : String) : Looking (RCI.putBytes data mediaType encoding)
  | reads (rci : RCI) : Looking rci.now
  | goesOn {α β : Type} {first : SdkProgram α} {next : α → SdkProgram β} (begins : Looking first)
      (continues : ∀ value, Looking (next value)) : Looking (first >>= next)

/-- The calls that are made of the operations of the SDK. -/
inductive SdkCall : {α : Type} → SdkProgram α → Prop
  | looks {α : Type} {program : SdkProgram α} (looking : Looking program) : SdkCall program
  | serves (inquiryId : String) (commands : List DomainCommand) : SdkCall (RCI.applyBatch inquiryId commands)
  | goesOn {α β : Type} {first : SdkProgram α} {next : α → SdkProgram β} (begins : SdkCall first)
      (continues : ∀ value, SdkCall (next value)) : SdkCall (first >>= next)

section
variable {allowed : Ledger → CommandBatch → Prop} {world moved : SdkWorld} {inquiryId : String}
  {commands : List DomainCommand} {state : InquiryState}

theorem SdkStep.run (run : Relation.ReflTransGen (SdkStep allowed) world moved) :
    SdkStep allowed world moved := by
  induction run with
  | refl => exact ⟨[], .nothing _⟩
  | tail _ step ih =>
    obtain ⟨earlier, first⟩ := ih
    obtain ⟨batches, second⟩ := step
    exact ⟨earlier ++ batches, first.trans second⟩

theorem SdkStep.sound (step : SdkStep allowed world moved) (sound : world.Sound) : moved.Sound := by
  obtain ⟨batches, served⟩ := step
  obtain ⟨⟨history, represents⟩, plain⟩ := sound
  exact ⟨⟨_, served.represents represents⟩, served.snapshots.trans plain⟩

/-- An inspection returns what the ledger shows. -/
theorem inspected_shows (sound : world.Sound)
    (rebuilt : rebuildState (some world.store) world.ledger inquiryId true = .ok state) :
    ∃ events, ShowsFold world.ledger inquiryId events state := by
  obtain ⟨⟨history, represents⟩, plain⟩ := sound
  have fresh : rebuildFrom (some world.store) world.ledger inquiryId initialState = .ok state := by
    have latest : world.ledger.latestSnapshot inquiryId = none := by simp [Ledger.latestSnapshot, plain]
    simpa [rebuildState, usableSnapshot, loadLatestSnapshot, latest, bind, Except.bind] using rebuilt
  obtain ⟨slice, loads, replayed, -⟩ := rebuildFrom_eq_ok.mp fresh
  obtain ⟨-, decoded, -, -, -, -⟩ := loadStream_eq_ok.mp loads
  have all : (world.ledger.rowsOf inquiryId).filter (fun row => initialState.sequence < row.sequence) =
      world.ledger.rowsOf inquiryId := by
    have numbered : (world.ledger.rowsOf inquiryId).map EventRow.sequence =
        List.range' (0 + 1) (world.ledger.streamVersion inquiryId) := represents.sequences inquiryId
    exact filter_numbered 0 numbered
  rw [all, represents.rowsOf_eq] at decoded
  rw [decodedRows_unique decoded (decoded_eventRows 0 (streamOf_named history inquiryId)),
    storedEvents_events] at replayed
  exact ⟨_, history, represents, rfl, replayed⟩

/-- What an inspection returns was read from the ledger. -/
theorem inspected_hasRead (sound : world.Sound)
    (rebuilt : rebuildState (some world.store) world.ledger inquiryId true = .ok state) :
    HasRead world.ledger inquiryId state := by
  obtain ⟨_, history, represents, rfl, replayed⟩ := inspected_shows sound rebuilt
  exact ⟨history, _, represents, replayed, List.prefix_rfl⟩

theorem HasRead.later (read : HasRead world.ledger inquiryId state)
    (run : Relation.ReflTransGen (SdkStep allowed) world moved) : HasRead moved.ledger inquiryId state := by
  obtain ⟨batches, served⟩ := SdkStep.run run
  exact read.kept served

theorem SdkWorld.Sound.later (sound : world.Sound) (run : Relation.ReflTransGen (SdkStep allowed) world moved) :
    moved.Sound :=
  (SdkStep.run run).sound sound

/-- An append behind a state that was read commits nothing or the batch of that state. -/
theorem appendEvents_keeps {pending : List DomainEvent} {after : InquiryState}
    (decided : PersistedEffectExecutor.decidePending state commands = .ok (pending, after)) :
    (RCI.appendEvents inquiryId state.sequence pending).Keeps (SdkStep allowed)
      (fun outcome world => world.Sound ∧
        ∀ sequence, outcome = .ok sequence → HasServed world.ledger ⟨inquiryId, commands⟩ after)
      (fun world => world.Sound ∧ allowed world.ledger ⟨inquiryId, commands⟩ ∧
        HasRead world.ledger inquiryId state) := by
  have judged : ∀ world : SdkWorld, world.Sound ∧ allowed world.ledger ⟨inquiryId, commands⟩ ∧
      HasRead world.ledger inquiryId state → ∀ outcome next,
        append (some world.store) (some world.store) world.ledger inquiryId state.sequence pending = (next, outcome) →
        SdkStep allowed world { world with ledger := next } ∧
          ∀ sequence, outcome = .ok sequence → HasServed next ⟨inquiryId, commands⟩ after := by
    intro world given outcome next appended
    cases outcome with
    | error failure =>
      rw [append_rejected appended]
      refine ⟨⟨[], .nothing _⟩, ?_⟩
      intro sequence returned
      cases returned
    | ok sequence =>
      obtain ⟨_, _, passed⟩ := append_passed appended
      obtain ⟨events, shows⟩ := given.2.2.shows (Nat.cast_inj.mp passed.current).symm
      have served : Served allowed world.ledger [(⟨inquiryId, commands⟩, pending)] next :=
        .batch (.nothing _) given.2.1 shows decided appended
      refine ⟨⟨_, served⟩, ?_⟩
      intro _ _
      obtain ⟨history, represents, same, replayed⟩ := shows
      refine ⟨_, events, pending, state, represents.continued passed.own passed.wrote, replayed, decided, [], ?_⟩
      rw [List.append_nil, streamOf_append, streamOf_own passed.own, List.map_append, same]
  apply Client.keeps_update
  · intro world given
    exact .single (judged world given _ _ rfl).1
  · intro world given later run
    obtain ⟨step, served⟩ := judged world given _ _ rfl
    obtain ⟨batches, grown⟩ := SdkStep.run run
    refine ⟨(SdkStep.run run).sound (step.sound given.1), ?_⟩
    intro sequence returned
    exact (served sequence returned).kept grown

/-- What is left of a batch whose commands are decided. -/
theorem commitPending_keeps {pending : List DomainEvent} {after : InquiryState}
    (decided : PersistedEffectExecutor.decidePending state commands = .ok (pending, after)) :
    (if pending = [] then return after
      else do
        let _ ← RCI.appendEvents inquiryId state.sequence pending
        return after : SdkProgram InquiryState).Keeps (SdkStep allowed)
      (BatchEnds ⟨inquiryId, commands⟩)
      (fun world => world.Sound ∧ allowed world.ledger ⟨inquiryId, commands⟩ ∧
        HasRead world.ledger inquiryId state) := by
  split
  next nothing =>
    apply Client.keeps_pure
    intro world given
    obtain ⟨sound, -, history, earlier, represents, replayed, begins⟩ := given
    refine ⟨sound, ?_⟩
    intro next returned
    obtain rfl := Except.ok.inj returned
    exact ⟨history, earlier, pending, state, represents, replayed, decided, by simpa [nothing] using begins⟩
  next something =>
    apply Client.keeps_bind (fun _ world => world.Sound ∧ HasServed world.ledger ⟨inquiryId, commands⟩ after)
    · apply Client.Keeps.weaken (appendEvents_keeps decided)
      · intro world given
        exact given
      · intro outcome world holds
        refine ⟨fun sequence appended => ⟨holds.1, holds.2 sequence appended⟩, ?_⟩
        intro failure _
        refine ⟨holds.1, ?_⟩
        intro next returned
        cases returned
    · intro _
      apply Client.keeps_pure
      intro world given
      refine ⟨given.1, ?_⟩
      intro next returned
      obtain rfl := Except.ok.inj returned
      exact given.2

/-- However the others go on, a batch that stays allowed is served as a whole and at once, or nothing of it is. -/
theorem applyBatch_keeps
    (stays : Client.Stable (SdkStep allowed) (fun world : SdkWorld => allowed world.ledger ⟨inquiryId, commands⟩)) :
    (RCI.applyBatch inquiryId commands).Keeps (SdkStep allowed)
      (BatchEnds ⟨inquiryId, commands⟩)
      (fun world => world.Sound ∧ allowed world.ledger ⟨inquiryId, commands⟩) := by
  unfold RCI.applyBatch
  apply Client.keeps_bind (fun state world => world.Sound ∧ allowed world.ledger ⟨inquiryId, commands⟩ ∧
    HasRead world.ledger inquiryId state)
  · apply Client.keeps_observe
    intro world given later run
    have sound := given.1.later run
    constructor
    · intro state rebuilt
      exact ⟨sound, stays.run run given.2, (inspected_hasRead given.1 rebuilt).later run⟩
    · intro failure _
      refine ⟨sound, ?_⟩
      intro next returned
      cases returned
  · intro state
    cases decided : PersistedEffectExecutor.decidePending state commands with
    | error failure =>
      change Client.Keeps (SdkStep allowed) _ (.done (.error (StoreFailure.domain failure))) _
      intro world given
      refine ⟨given.1, ?_⟩
      intro next returned
      cases returned
    | ok decision =>
      obtain ⟨pending, after⟩ := decision
      exact commitPending_keeps decided

theorem SdkStep.aside (same : moved.ledger = world.ledger) : SdkStep allowed world moved := by
  refine ⟨[], ?_⟩
  rw [same]
  exact .nothing _

/-- A program that appends nothing keeps whatever the others keep. -/
theorem Looking.keeps {α : Type} {program : SdkProgram α} (looking : Looking program) {fact : SdkWorld → Prop}
    (stays : Client.Stable (SdkStep allowed) fact) :
    program.Keeps (SdkStep allowed) (fun _ world => fact world) fact := by
  induction looking with
  | ends outcome =>
    intro world holds
    exact holds
  | looks look => exact Client.keeps_observe (fun world holds later run => stays.run run holds)
  | stores data mediaType encoding =>
    apply Client.keeps_update
    · intro world holds
      exact .single (SdkStep.aside rfl)
    · intro world holds later run
      exact stays.run run (stays world _ (SdkStep.aside rfl) holds)
  | reads rci =>
    apply Client.keeps_update
    · intro world holds
      exact .single (SdkStep.aside rfl)
    · intro world holds later run
      exact stays.run run (stays world _ (SdkStep.aside rfl) holds)
  | goesOn _ _ first second =>
    apply Client.keeps_bind (fun _ world => fact world)
    · exact first.weaken (fun _ holds => holds) (fun _ _ holds => ⟨fun _ _ => holds, fun _ _ => holds⟩)
    · exact second

theorem sound_stable : Client.Stable (SdkStep allowed) SdkWorld.Sound := fun _ _ step sound => step.sound sound

/-- Every batch is allowed. -/
def anyBatch (_ : Ledger) (_ : CommandBatch) : Prop := True

theorem anyBatch_keeps (inquiryId : String) (commands : List DomainCommand) :
    (RCI.applyBatch inquiryId commands).Keeps (SdkStep anyBatch)
      (BatchEnds ⟨inquiryId, commands⟩) SdkWorld.Sound :=
  (applyBatch_keeps (fun _ _ _ holds => holds)).under (fun _ sound => ⟨sound, trivial⟩)

/-- Every call keeps the ledger readable and commits nothing but batches. -/
theorem SdkCall.keeps {α : Type} {program : SdkProgram α} (call : SdkCall program) :
    program.Keeps (SdkStep anyBatch) (fun _ world => world.Sound) SdkWorld.Sound := by
  induction call with
  | looks looking => exact looking.keeps sound_stable
  | serves inquiryId commands =>
    exact (anyBatch_keeps inquiryId commands).weaken (fun _ sound => sound) (fun _ _ holds => holds.1)
  | goesOn _ _ first second =>
    apply Client.keeps_bind (fun _ world => world.Sound)
    · exact first.weaken (fun _ sound => sound) (fun _ _ sound => ⟨fun _ _ => sound, fun _ _ => sound⟩)
    · exact second

/-- Calls of any clients on any inquiries, in any interleaving of their operations: what they commit is one batch
of commands after another, each decided upon the state that the batches before it left. With events that are read
back as they were, every inquiry is where its batches lead one after another. A batch whose call returned is
committed, with the state that was returned. -/
theorem sdk_serializable {world moved : SdkWorld} {clients rest : List (SdkProgram InquiryState)}
    {history : List DomainEvent} (represents : Represents world.ledger history) (plain : world.ledger.snapshots = [])
    (calls : ∀ client ∈ clients, SdkCall client)
    (run : Relation.ReflTransGen Client.Turn (world, clients) (moved, rest)) :
    ∃ batches, Served anyBatch world.ledger batches moved.ledger ∧
      Represents moved.ledger (history ++ batches.flatMap Prod.snd) ∧
      ((∀ event ∈ batches.flatMap Prod.snd, event.DecodesToItself) → ∀ inquiryId events state,
        ShowsFold world.ledger inquiryId events state → ∃ after,
          ShowsFold moved.ledger inquiryId (events ++ streamOf (batches.flatMap Prod.snd) inquiryId) after ∧
          runCommands state (commandsFor inquiryId batches) = .ok after) ∧
      ∀ (place : Nat) (batch : CommandBatch) (next : InquiryState),
        clients[place]? = some (RCI.applyBatch batch.inquiryId batch.commands) →
        rest[place]? = some (Client.done (.ok next)) → HasServed moved.ledger batch next := by
  have sound : world.Sound := ⟨⟨history, represents⟩, plain⟩
  -- What each client promises depends on the batch that it is, if it is one.
  have specified : Client.Specified (SdkStep anyBatch) world (clients.map (fun client outcome later =>
      ∀ batch : CommandBatch, client = RCI.applyBatch batch.inquiryId batch.commands → ∀ next, outcome = .ok next →
        HasServed later.ledger batch next)) clients := by
    unfold Client.Specified
    rw [List.forall₂_map_left_iff, List.forall₂_same]
    intro client member
    have behind : ∀ later, Relation.ReflTransGen (SdkStep anyBatch) world later → later.Sound :=
      fun _ reached => sound.later reached
    apply Client.Keeps.all
    · exact (calls client member).keeps.weaken behind (fun _ _ _ => trivial)
    · intro batch
      by_cases same : client = RCI.applyBatch batch.inquiryId batch.commands
      · rw [same]
        exact (anyBatch_keeps batch.inquiryId batch.commands).weaken behind (fun _ _ holds _ => holds.2)
      · exact (calls client member).keeps.weaken behind (fun _ _ _ called => absurd called same)
  obtain ⟨steps, kept⟩ := specified.turns run
  obtain ⟨batches, served⟩ := SdkStep.run steps
  refine ⟨batches, served, served.represents represents, fun faithful _ _ _ => served.folds faithful, ?_⟩
  intro place batch next started ended
  obtain ⟨post, listed, holds⟩ := kept.ended ended
  rw [List.getElem?_map, started] at listed
  obtain rfl := Option.some.inj listed
  exact holds batch rfl next rfl

end

end

namespace Worked

/-- Two clients that open the same inquiry. -/
def openers : List (SdkProgram InquiryState) :=
  [RCI.applyBatch "inquiry" [command start], RCI.applyBatch "inquiry" [⟨⟨"other", "inquiry", 0⟩, start⟩]]

/-- The world in which both have read the empty ledger before the first of them appends. -/
def opened : SdkWorld × List (SdkProgram InquiryState) :=
  [0, 1, 0, 1].foldl Client.turnOf (⟨{}, namingStore, 0⟩, openers)

/-- The event that the first of them commits. -/
def openersEvent : DomainEvent where
  head := ⟨"event", "inquiry", 0⟩
  body := .inquiryStarted (artifact "manifest") "policy" context

theorem opened_holds :
    (opened.2.map Client.outcome? = [some (.ok (reached [start])),
      some (.error (.optimisticConcurrency "stream is not at the expected sequence"))]) ∧
    opened.1.ledger.events = [eventRow "inquiry" 1 openersEvent] := by decide +kernel

/-- Whatever history the ledger stands for, its events are read back as they were. -/
theorem opened_faithful {history : List DomainEvent} (represents : Represents opened.1.ledger history) :
    ∀ event ∈ history, event.DecodesToItself := by
  intro event member
  have listed : event ∈ streamOf history event.head.inquiryId := List.mem_filter.mpr ⟨member, decide_eq_true rfl⟩
  obtain ⟨number, row⟩ := mem_eventRows event.head.inquiryId 0 listed
  rw [← represents.rows, opened_holds.2] at row
  have same := List.mem_singleton.mp (List.mem_of_mem_filter row)
  have bytes : canonicalBytes (encodeEvent event) = canonicalBytes (encodeEvent openersEvent) :=
    congrArg EventRow.eventBytes same
  have read := congrArg decodeEventBytes bytes
  rw [decodeEventBytes_encodeEvent, decodeEventBytes_encodeEvent, Except.ok.injEq] at read
  have plain : event.body.readBack = openersEvent.body := congrArg DomainEvent.body read
  have kept : event.body.readBack = event.body := by
    generalize event.body = body at plain
    cases body with
    | claim changed => exact nomatch plain
    | learning changed => exact nomatch plain
    | _ => rfl
  unfold DomainEvent.DecodesToItself
  rw [decodeEventBytes_encodeEvent, DomainEvent.readBack, kept]

/-- The one that comes second is refused, the ledger holds the batch of the first, and the inquiry is where that batch
leads. -/
theorem openers_serialized :
    (opened.2.map Client.outcome? = [some (.ok (reached [start])),
      some (.error (.optimisticConcurrency "stream is not at the expected sequence"))]) ∧
    ∃ batches after, Served anyBatch {} batches opened.1.ledger ∧
      Represents opened.1.ledger ([] ++ batches.flatMap Prod.snd) ∧
      ShowsFold opened.1.ledger "inquiry" ([] ++ streamOf (batches.flatMap Prod.snd) "inquiry") after ∧
      runCommands initialState (commandsFor "inquiry" batches) = .ok after := by
  refine ⟨opened_holds.1, ?_⟩
  have calls : ∀ client ∈ openers, SdkCall client := by
    intro client member
    rcases List.mem_pair.mp member with rfl | rfl
    · exact .serves _ _
    · exact .serves _ _
  obtain ⟨batches, served, represents, folds, -⟩ :=
    sdk_serializable (show Represents (⟨{}, namingStore, 0⟩ : SdkWorld).ledger [] from represents_empty) rfl calls
      (Client.turnsOf_turns _ [0, 1, 0, 1])
  obtain ⟨after, shows, ran⟩ := folds (opened_faithful represents) "inquiry" [] initialState
    ⟨[], represents_empty, rfl, rfl⟩
  exact ⟨batches, after, served, represents, shows, ran⟩

end Worked

end RatchetingInquiry
