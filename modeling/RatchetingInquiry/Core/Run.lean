import Mathlib.Logic.Relation
import RatchetingInquiry.Core.Transition

/-! Runs of the inquiry: a command is decided and the reducer is folded over the events it returns. -/

namespace RatchetingInquiry

section
variable [Fingerprints]

/-- Decide one command and apply the events that it returns. -/
def applyCommand (state : InquiryState) (command : DomainCommand) : Except Failure InquiryState := do
  (← decide state command).foldlM evolve state

/-- Apply commands one after another. -/
def runCommands (state : InquiryState) (commands : List DomainCommand) : Except Failure InquiryState :=
  commands.foldlM applyCommand state

/-- Rebuild a state from events, without executing any requested effect. -/
def replay (state : InquiryState) (events : List DomainEvent) : Except Failure InquiryState :=
  events.foldlM evolve state

/-- One command leads from one state to the next. -/
def CommandStep (state next : InquiryState) : Prop := ∃ command, applyCommand state command = .ok next

/-- One event leads from one state to the next. -/
def EventStep (state next : InquiryState) : Prop := ∃ event, evolve state event = .ok next

/-- The later state is the end of a run of commands that starts in the earlier one. -/
abbrev RunsTo : InquiryState → InquiryState → Prop := Relation.ReflTransGen CommandStep

/-- The state is the end of a run of commands from the empty aggregate. -/
def Reachable (state : InquiryState) : Prop := RunsTo initialState state

/-- One command that meets the condition leads from one state to the next. -/
def StepUnder (condition : InquiryState → DomainCommand → Prop) (state next : InquiryState) : Prop :=
  ∃ command, condition state command ∧ applyCommand state command = .ok next

/-- The state is the end of a run of commands from the empty aggregate that all meet the condition. -/
def ReachableUnder (condition : InquiryState → DomainCommand → Prop) (state : InquiryState) : Prop :=
  Relation.ReflTransGen (StepUnder condition) initialState state

/-- The state is the end of a run of events from the empty aggregate, however they were proposed. -/
def Replayable (state : InquiryState) : Prop := Relation.ReflTransGen EventStep initialState state

theorem applyCommand_eq_ok {state next : InquiryState} {command : DomainCommand} :
    applyCommand state command = .ok next ↔
      (decide state command = .ok [] ∧ next = state) ∨
        ∃ event, decide state command = .ok [event] ∧ evolve state event = .ok next := by
  unfold applyCommand
  rw [bind_eq_ok]
  constructor
  · rintro ⟨events, decided, folded⟩
    obtain ⟨body, -, rfl⟩ := decide_eq_ok.mp decided
    cases body with
    | none =>
      left
      simp only [Option.map_none, Option.toList_none, List.foldlM_nil, pure, Except.pure, Except.ok.injEq] at folded
      exact ⟨decided, folded.symm⟩
    | some body =>
      right
      simp only [Option.map_some, Option.toList_some, List.foldlM_cons, List.foldlM_nil, bind_pure] at folded
      exact ⟨_, decided, folded⟩
  · rintro (⟨decided, rfl⟩ | ⟨event, decided, evolved⟩)
    · exact ⟨[], decided, rfl⟩
    · exact ⟨[event], decided, by simpa using evolved⟩

theorem CommandStep.eventRun {state next : InquiryState} (step : CommandStep state next) :
    Relation.ReflTransGen EventStep state next := by
  obtain ⟨command, applied⟩ := step
  rcases applyCommand_eq_ok.mp applied with ⟨-, rfl⟩ | ⟨event, -, evolved⟩
  · exact .refl
  · exact .single ⟨event, evolved⟩

theorem RunsTo.eventRun {state next : InquiryState} (run : RunsTo state next) :
    Relation.ReflTransGen EventStep state next := by
  induction run with
  | refl => exact .refl
  | tail _ step ih => exact ih.trans step.eventRun

/-- Whatever commands reach, events replay. -/
theorem Reachable.replayable {state : InquiryState} (reached : Reachable state) : Replayable state :=
  RunsTo.eventRun reached

theorem ReachableUnder.reachable {condition : InquiryState → DomainCommand → Prop} {state : InquiryState}
    (reached : ReachableUnder condition state) : Reachable state := by
  induction reached with
  | refl => exact .refl
  | tail _ step ih =>
    obtain ⟨command, -, applied⟩ := step
    exact ih.tail ⟨command, applied⟩

/-- A command leaves the state alone or makes one lawful transition, with its own facts, to a valid state. -/
theorem applyCommand_cases {state next : InquiryState} {command : DomainCommand}
    (applied : applyCommand state command = .ok next) :
    next = state ∨ ∃ body, decideBody state command.head.inquiryId command.body = .ok (some body) ∧
      Transition state command.head body next ∧ AggregateValid next := by
  rcases applyCommand_eq_ok.mp applied with ⟨-, rfl⟩ | ⟨event, decided, evolved⟩
  · exact .inl rfl
  · obtain ⟨head, bodyDecided⟩ := decide_singleton.mp decided
    obtain ⟨transition, valid⟩ := evolve_eq_ok.mp evolved
    rw [head] at transition
    exact .inr ⟨event.body, bodyDecided, transition, valid⟩

theorem replay_append {state next : InquiryState} {first second : List DomainEvent} :
    replay state (first ++ second) = .ok next ↔
      ∃ middle, replay state first = .ok middle ∧ replay middle second = .ok next := by
  unfold replay
  rw [List.foldlM_append, bind_eq_ok]

theorem replay_run {state next : InquiryState} {events : List DomainEvent} (replayed : replay state events = .ok next) :
    Relation.ReflTransGen EventStep state next := by
  induction events generalizing state with
  | nil =>
    simp only [replay, List.foldlM_nil, pure, Except.pure, Except.ok.injEq] at replayed
    subst replayed
    exact .refl
  | cons event rest ih =>
    simp only [replay, List.foldlM_cons, bind_eq_ok] at replayed
    obtain ⟨middle, evolved, later⟩ := replayed
    exact .head ⟨event, evolved⟩ (ih later)

/-- A property that every lawful transition to a valid state keeps holds along every run of events. -/
theorem eventRun_induction {P : InquiryState → Prop} {state next : InquiryState}
    (run : Relation.ReflTransGen EventStep state next)
    (keeps : ∀ before head body after, P before → Transition before head body after → AggregateValid after → P after)
    (start : P state) : P next := by
  induction run with
  | refl => exact start
  | tail _ step ih =>
    obtain ⟨event, evolved⟩ := step
    obtain ⟨transition, valid⟩ := evolve_eq_ok.mp evolved
    exact keeps _ _ _ _ ih transition valid

theorem runCommands_runsTo {state next : InquiryState} {commands : List DomainCommand}
    (ran : runCommands state commands = .ok next) : RunsTo state next := by
  induction commands generalizing state with
  | nil =>
    simp only [runCommands, List.foldlM_nil, pure, Except.pure, Except.ok.injEq] at ran
    subst ran
    exact .refl
  | cons command rest ih =>
    simp only [runCommands, List.foldlM_cons, bind_eq_ok] at ran
    obtain ⟨middle, applied, later⟩ := ran
    exact .head ⟨command, applied⟩ (ih later)

/-- Apply commands one after another, as long as each meets the condition. -/
def runUnder (condition : InquiryState → DomainCommand → Bool) (state : InquiryState) (commands : List DomainCommand) :
    Option InquiryState :=
  commands.foldlM (fun state command =>
    if condition state command then (applyCommand state command).toOption else none) state

theorem runUnder_steps {condition : InquiryState → DomainCommand → Bool} {state next : InquiryState}
    {commands : List DomainCommand} (ran : runUnder condition state commands = some next) :
    Relation.ReflTransGen (StepUnder (fun state command => condition state command)) state next := by
  induction commands generalizing state with
  | nil =>
    simp only [runUnder, List.foldlM_nil, pure, Option.some.injEq] at ran
    subst ran
    exact .refl
  | cons command rest ih =>
    simp only [runUnder, List.foldlM_cons, Option.bind_eq_bind, Option.bind_eq_some_iff] at ran
    obtain ⟨middle, applied, later⟩ := ran
    split at applied
    next meets =>
      cases outcome : applyCommand state command with
      | error failure => simp [outcome, Except.toOption] at applied
      | ok result =>
        obtain rfl : result = middle := by simpa [outcome, Except.toOption] using applied
        have first : StepUnder (fun state command => condition state command) state result := ⟨command, meets, outcome⟩
        exact .head first (ih later)
    next => simp at applied

end

/-! The pins of a worked inquiry and the states that its commands reach, for the witnesses of the results
about runs. Fingerprints are kept readable. -/

namespace Worked

/-- A readable stand-in for the hash: the namespace of the material and what identifies it. -/
def readableDigest : Material → String
  | .scope scope => "scope:" ++ scope.id ++ "@" ++ scope.bindingRevision
  | .obligation kind args scope bindingRevision =>
    "obligation:" ++ (match kind with
      | .necessityCounterexample => "necessity"
      | .sufficiencyCounterexample => "sufficiency"
      | .prerequisiteBypass => "prerequisite"
      | .localizeConflict => "conflict"
      | _ => "other") ++ ":" ++
      String.intercalate "," (args.map (fun argument => argument.name ++ "=" ++ argument.value.asText.getD "?")) ++
      ":" ++ scope ++ ":" ++ bindingRevision
  | .conflict claimIds => claimIds.1 ++ "," ++ claimIds.2
  | .conflictObligation conflictId => "conflict/" ++ conflictId
  | .attackObligation carrier kind scope =>
    "attack/" ++ carrier ++ (match kind with
      | .necessityCounterexample => "/n"
      | .sufficiencyCounterexample => "/s"
      | _ => "/p") ++ scope
  | .probeIdentity identity => "probe:" ++ identity.questionContractKey ++ ":" ++ identity.relationalRole
  | .probeSample sample => "sample:" ++ sample.observationId
  | .backlogFinding title _ source =>
    String.ofList (((title ++ "/" ++ source).toList ++ List.replicate 64 '0').take 64)
  | .backlogEffect text => text
  | _ => "other"

scoped instance readableFingerprints : Fingerprints where
  digest := readableDigest

/-- An artifact whose bytes are its name. -/
def artifact (name : String) : ArtifactRef where
  digest := name
  size := name.utf8ByteSize

def scope : Scope where
  id := "scope"
  bindingRevision := "binding"
  assumptionIds := ["assumption"]

def context : InquiryContext where
  bindingRevision := "binding"
  carrierSchemaIds := ["carrier"]
  relationSchemaIds := ["relation"]
  consequenceProfileId := "consequences"
  protectedHorizonId := "horizon"
  dischargeMechanismIds := ["checker"]
  scopeId := "scope"
  scopeFingerprint := scope.fingerprint
  assumptionIds := ["assumption"]
  catalogManifestDigest := "catalog"
  schedulerPolicyVersion := "scheduler"
  warrantPolicyVersion := "policy"
  provenanceRefs := ["provenance"]

def start : CommandBody := .startInquiry (artifact "manifest") "policy" context

def command (body : CommandBody) : DomainCommand where
  head := ⟨"event", "inquiry", 0⟩
  body := body

/-- The state that further commands lead to; the state itself when one of them is refused. -/
def further (state : InquiryState) (bodies : List CommandBody) : InquiryState :=
  (runCommands state (bodies.map command)).toOption.getD state

theorem runsTo_further (state : InquiryState) (bodies : List CommandBody) : RunsTo state (further state bodies) := by
  unfold further
  cases ran : runCommands state (bodies.map command) with
  | ok next => exact runCommands_runsTo ran
  | error failure => exact .refl

/-- The state that the commands lead to from the empty aggregate. -/
def reached (bodies : List CommandBody) : InquiryState := further initialState bodies

theorem reachable_reached (bodies : List CommandBody) : Reachable (reached bodies) :=
  runsTo_further initialState bodies

/-- The state that the commands lead to when each of them meets the condition. -/
def reachedUnder (condition : InquiryState → DomainCommand → Bool) (bodies : List CommandBody) : InquiryState :=
  (runUnder condition initialState (bodies.map command)).getD initialState

theorem reachableUnder_reachedUnder (condition : InquiryState → DomainCommand → Bool) (bodies : List CommandBody) :
    ReachableUnder (fun state command => condition state command) (reachedUnder condition bodies) := by
  unfold reachedUnder
  cases ran : runUnder condition initialState (bodies.map command) with
  | some next => exact runUnder_steps ran
  | none => exact .refl

end Worked

end RatchetingInquiry
