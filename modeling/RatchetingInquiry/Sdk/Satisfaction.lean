import Mathlib.Data.List.ReduceOption
import RatchetingInquiry.Invariants.Conflicts
import RatchetingInquiry.Invariants.Saga
import RatchetingInquiry.Orchestration.Scheduling
import RatchetingInquiry.Sdk.Step

/-! When a step reports an inquiry as satisfied. The scheduler sees the obligations that have a contract; of the
others only the open ones are looked at. -/

namespace RatchetingInquiry

section
variable [Fingerprints] {state : InquiryState} {obligation : Obligation} {place : Nat}

theorem RCI.schedulerEntry_none (viewed : RCI.schedulerEntry state obligation place = .ok none) :
    contractForObligation state.context state.toProjectRecords obligation = .ok none := by
  obtain ⟨contract, asked⟩ := contractForObligation_ok state.context state.toProjectRecords obligation
  unfold RCI.schedulerEntry at viewed
  rw [asked] at viewed ⊢
  cases contract with
  | none => rfl
  | some contract =>
    obtain ⟨status, _, shown⟩ := found_bind_eq_ok.mp viewed
    simp [pure, Except.pure] at shown

/-- An entry shows the obligation with its current status, its contract and its place. -/
theorem RCI.schedulerEntry_some {entry : ObligationEntry}
    (viewed : RCI.schedulerEntry state obligation place = .ok (some entry)) : ∃ contract status,
      contractForObligation state.context state.toProjectRecords obligation = .ok (some contract) ∧
      state.currentObligationStatus obligation.id = some status ∧
      entry.toScheduledObligation = {
        obligation := { obligation with status := status }
        attemptKey := ⟨obligation.fingerprint, contract.id, contract.version, obligation.bindingRevision⟩
        creationSequence := place
        dependencyDepth := obligation.parentObligationIds.length } := by
  obtain ⟨contract, asked⟩ := contractForObligation_ok state.context state.toProjectRecords obligation
  unfold RCI.schedulerEntry at viewed
  rw [asked] at viewed
  cases contract with
  | none => simp [bind, Except.bind, pure, Except.pure] at viewed
  | some contract =>
    obtain ⟨status, current, shown⟩ := found_bind_eq_ok.mp viewed
    simp only [pure, Except.pure, Except.ok.injEq, Option.some.injEq] at shown
    exact ⟨contract, status, asked, current, by rw [← shown]⟩

/-- The entries of some obligations, each with its place. -/
def RCI.Views (state : InquiryState) : List (Obligation × Nat) → List (Option ObligationEntry) → Prop :=
  List.Forall₂ (fun placed entry => RCI.schedulerEntry state placed.1 placed.2 = .ok entry)

theorem RCI.schedulerEntries_views {entries : List ObligationEntry} (listed : RCI.schedulerEntries state = .ok entries) :
    ∃ views, RCI.Views state (state.obligations.zipIdx 1) views ∧ entries = views.reduceOption := by
  unfold RCI.schedulerEntries at listed
  obtain ⟨views, viewed, reduced⟩ := mapM_bind_eq_ok.mp listed
  exact ⟨views, viewed, (Except.ok.inj reduced).symm⟩

variable {placed : List (Obligation × Nat)} {views : List (Option ObligationEntry)}

/-- The entries keep the fingerprints of the obligations and their order. -/
theorem RCI.Views.fingerprints (viewed : RCI.Views state placed views) :
    (views.reduceOption.map (fun entry => entry.obligation.fingerprint)).Sublist
      (placed.map (fun pair => pair.1.fingerprint)) := by
  induction viewed with
  | nil => simp
  | @cons pair view rest others first later ih =>
    cases view with
    | none => exact ih.cons _
    | some entry =>
      obtain ⟨contract, status, _, _, shows⟩ := RCI.schedulerEntry_some first
      have same : entry.obligation.fingerprint = pair.1.fingerprint := by
        rw [show entry.obligation = { pair.1 with status := status } from congrArg ScheduledObligation.obligation shows]
        rfl
      rw [List.reduceOption_cons_of_some, List.map_cons, List.map_cons, same]
      exact ih.cons_cons _

/-- Every obligation with a contract has an entry with its current status. -/
theorem RCI.Views.covers (viewed : RCI.Views state placed views) {pair : Obligation × Nat} (member : pair ∈ placed) :
    contractForObligation state.context state.toProjectRecords pair.1 = .ok none ∨
      ∃ entry ∈ views.reduceOption, state.currentObligationStatus pair.1.id = some entry.obligation.status := by
  induction viewed with
  | nil => simp at member
  | @cons listed view rest others first later ih =>
    rcases List.mem_cons.mp member with rfl | behind
    · cases view with
      | none => exact .inl (RCI.schedulerEntry_none first)
      | some entry =>
        obtain ⟨contract, status, _, current, shows⟩ := RCI.schedulerEntry_some first
        refine .inr ⟨entry, ?_, ?_⟩
        · rw [List.reduceOption_cons_of_some]
          exact List.mem_cons_self
        · rw [current, show entry.obligation = { pair.1 with status := status } from
            congrArg ScheduledObligation.obligation shows]
    · rcases ih behind with unasked | ⟨entry, kept, current⟩
      · exact .inl unasked
      · refine .inr ⟨entry, ?_, current⟩
        cases view with
        | none => exact kept
        | some _ => exact List.mem_cons_of_mem _ kept

end

section
variable [Fingerprints] {entries : List ObligationEntry} {completedObligationIds : List String}
  {attemptCounts : AttemptCounts} {stepsUsed stepBudget readyEventCost maxAttemptsPerKey : Int} {policyVersion : String}
  {plan : StepPlan}

/-- A satisfied plan has nothing left to do among the deduplicated entries. -/
theorem planNext_satisfied (planned : planNext entries completedObligationIds attemptCounts stepsUsed stepBudget
      readyEventCost maxAttemptsPerKey policyVersion = .ok plan) (satisfied : plan.status = .satisfied) :
    ∀ entry ∈ deduplicateObligations entries, entry.obligation.status = .satisfied := by
  unfold planNext at planned
  simp only [require_bind_eq_ok, pure, Except.pure, Except.ok.injEq] at planned
  obtain ⟨_, _, _, rfl⟩ := planned
  unfold selectNext at satisfied
  dsimp only at satisfied
  split at satisfied
  next => simp at satisfied
  next =>
    split at satisfied
    next =>
      split at satisfied
      next => simp at satisfied
      next resolved => simpa using resolved
    next =>
      split at satisfied
      next => simp at satisfied
      next => split at satisfied <;> simp at satisfied

end

section
variable [Fingerprints] [ByteFacts] [Pydantic] {rci : RCI} {inquiryId : String} {state : InquiryState}
  {world last : SdkWorld} {result : StepResult}

/-- A step that requests a question needs input. -/
theorem RCI.requestSelected_needsInput {stepPlan : StepPlan} :
    Client.Yields (rci.requestSelected inquiryId state stepPlan) (fun result => result.status = .needsInput) := by
  unfold RCI.requestSelected
  apply Client.yields_bind
  intro selectedId
  apply Client.yields_bind
  intro obligation
  apply Client.yields_bind
  intro asked
  apply Client.yields_bind
  intro contract
  apply Client.yields_bind
  intro ⟨request, plan, rendered⟩
  apply Client.yields_bind
  intro occurredAt
  apply Client.yields_bind
  intro next
  exact Client.yields_pure rfl

omit [Pydantic] in
theorem RCI.schedule_planned {stepPlan : StepPlan} (ran : (RCI.schedule state).run world = (.ok stepPlan, last)) :
    ∃ entries counts context, RCI.schedulerEntries state = .ok entries ∧ state.context = some context ∧
      planNext entries ((state.obligations.filter (fun obligation =>
        state.currentObligationStatus obligation.id = some .satisfied)).map Obligation.id) counts state.sequence
        defaultStepBudget 4 defaultAttemptsPerKey context.schedulerPolicyVersion = .ok stepPlan := by
  unfold RCI.schedule at ran
  simp only [Client.run_bind_eq_ok, Client.run_lift, Prod.mk.injEq, fromCore_eq_ok, found_eq_ok] at ran
  obtain ⟨entries, _, ⟨listed, _⟩, context, _, ⟨pinned, _⟩, counts, _, _, planned, _⟩ := ran
  exact ⟨entries, counts, context, listed, pinned, planned⟩

/-- What the scheduler and the test behind it say of the obligations of a satisfied inquiry. -/
theorem RCI.stepScheduled_satisfied (reached : Reachable state)
    (ran : (rci.stepScheduled inquiryId state).run world = (.ok result, last)) (satisfied : result.status = .satisfied) :
    RCI.unsupportedOpen state = false ∧ ∀ obligation ∈ state.obligations,
      contractForObligation state.context state.toProjectRecords obligation = .ok none ∨
        state.currentObligationStatus obligation.id = some .satisfied := by
  unfold RCI.stepScheduled at ran
  obtain ⟨stepPlan, middle, scheduled, ran⟩ := Client.run_bind_eq_ok.mp ran
  cases planStatus : stepPlan.status with
  | ready =>
    rw [planStatus] at ran
    rw [RCI.requestSelected_needsInput _ _ _ ran] at satisfied
    contradiction
  | unknown =>
    rw [planStatus] at ran
    simp only [Client.run_pure, Prod.mk.injEq, Except.ok.injEq] at ran
    rw [← ran.1] at satisfied
    contradiction
  | satisfied =>
    rw [planStatus] at ran
    simp only [Client.run_pure, Prod.mk.injEq, Except.ok.injEq] at ran
    rw [← ran.1] at satisfied
    have supported : RCI.unsupportedOpen state = false := by
      by_contra unsupported
      simp [unsupported] at satisfied
    refine ⟨supported, ?_⟩
    obtain ⟨entries, counts, context, listed, _, planned⟩ := RCI.schedule_planned scheduled
    obtain ⟨views, viewed, rfl⟩ := RCI.schedulerEntries_views listed
    have obligations : (state.obligations.zipIdx 1).map Prod.fst = state.obligations := List.zipIdx_map_fst _ _
    -- no two obligations have one fingerprint, so that no entry is dropped
    have distinct : (views.reduceOption.map (fun entry => entry.obligation.fingerprint)).Nodup := by
      refine viewed.fingerprints.nodup ?_
      have fingerprints := reached.obligationFingerprints_distinct
      rwa [← obligations, List.map_map] at fingerprints
    have finished := planNext_satisfied planned planStatus
    rw [deduplicateObligations_eq distinct] at finished
    intro obligation owned
    rw [← obligations] at owned
    obtain ⟨pair, placed, rfl⟩ := List.mem_map.mp owned
    rcases viewed.covers placed with unasked | ⟨entry, kept, current⟩
    · exact .inl unasked
    · refine .inr ?_
      rw [current, finished entry ((List.mem_insertionSort _).mpr kept)]

/-- A step that reports an inquiry as satisfied is right exactly if every obligation without a contract is open or
satisfied: blocked, impossible and unknown ones are passed over. -/
theorem satisfied_exactly (reached : Reachable state)
    (inspected : rebuildState (some world.store) world.ledger inquiryId true = .ok state)
    (stepped : (rci.step inquiryId).run world = (.ok result, last)) (reported : result.status = .satisfied) :
    (∀ obligation ∈ state.obligations, state.currentObligationStatus obligation.id = some .satisfied) ↔
      ∀ obligation ∈ state.obligations,
        contractForObligation state.context state.toProjectRecords obligation = .ok none →
          state.currentObligationStatus obligation.id ∉ [some .blocked, some .impossible, some .unknown] := by
  have scheduled : (rci.stepScheduled inquiryId state).run world = (.ok result, last) := by
    unfold RCI.step at stepped
    obtain ⟨seen, middle, looked, stepped⟩ := Client.run_bind_eq_ok.mp stepped
    obtain ⟨rfl, rfl⟩ : state = seen ∧ world = middle := by simpa [RCI.inspect, inspected] using looked
    split at stepped
    next pending _ =>
      obtain ⟨envelope, _, _, stepped⟩ := Client.run_bind_eq_ok.mp stepped
      simp only [Client.run_pure, Prod.mk.injEq, Except.ok.injEq] at stepped
      rw [← stepped.1] at reported
      contradiction
    next =>
      split at stepped
      next =>
        simp only [Client.run_pure, Prod.mk.injEq, Except.ok.injEq] at stepped
        rw [← stepped.1] at reported
        contradiction
      next => exact stepped
  obtain ⟨supported, seen⟩ := RCI.stepScheduled_satisfied reached scheduled reported
  constructor
  · intro all obligation owned _
    rw [all obligation owned]
    decide
  · intro others obligation owned
    rcases seen obligation owned with unasked | satisfied
    · have closed : state.currentObligationStatus obligation.id ≠ some .opened := by
        intro opened
        unfold RCI.unsupportedOpen at supported
        rw [List.any_eq_false] at supported
        exact supported obligation owned (by simp [opened, unasked])
      have known : (state.currentObligationStatus obligation.id).isSome := by
        unfold ClaimRecords.currentObligationStatus ClaimRecords.obligationById
        rw [Option.isSome_map, List.find?_isSome]
        exact ⟨obligation, owned, by simp⟩
      have listed := others obligation owned unasked
      obtain ⟨status, current⟩ := Option.isSome_iff_exists.mp known
      rw [current] at listed closed ⊢
      cases status <;> simp_all
    · exact satisfied

end

namespace Worked

def sdk : RCI where
  clock := id

/-- A store that holds for every artifact the bytes that its digest names. -/
def namingStore : ArtifactStore where
  files digest := some (.other digest)

/-- The world after the events of an inquiry are appended. -/
def sdkWorld (bodies : List CommandBody) : SdkWorld where
  ledger := (append (some namingStore) (some namingStore) {} "inquiry" 0 (eventsOf "inquiry" bodies)).1
  store := namingStore

/-- An obligation of a kind that has no contract. -/
def bypass : Obligation where
  id := "bypass"
  kind := .prerequisiteBypass
  carrierId := "carrier"
  args := []
  scope := scope
  bindingRevision := "binding"

/-- It is opened and blocked. -/
def bypassBlocked : List CommandBody := [start, .claim (.openObligation bypass),
  .claim (.recordObligationDisposition ⟨"disposition", "bypass", .blocked, "reason", [], none⟩)]

/-- It is opened beside a question, and one hard decision satisfies both. -/
def bothSatisfied : List CommandBody := start :: check "carrier" "carrier" ++ [evaluate "carrier" "carrier",
  .claim (.openObligation openQuestion), .claim (.openObligation bypass),
  .claim (.recordObligationDisposition ⟨"question", "obligation", .satisfied, "reason", ["decision-carrier"], none⟩),
  .claim (.recordObligationDisposition ⟨"disposition", "bypass", .satisfied, "reason", ["decision-carrier"], none⟩)]

/-- No obligation without a contract is closed as anything but satisfied. -/
def NonePassedOver (state : InquiryState) : Prop := ∀ obligation ∈ state.obligations,
  contractForObligation state.context state.toProjectRecords obligation = .ok none →
    state.currentObligationStatus obligation.id ∉ [some .blocked, some .impossible, some .unknown]

instance (state : InquiryState) : Decidable (NonePassedOver state) :=
  inferInstanceAs (Decidable (∀ obligation ∈ state.obligations,
    contractForObligation state.context state.toProjectRecords obligation = .ok none →
      state.currentObligationStatus obligation.id ∉ [some .blocked, some .impossible, some .unknown]))

def satisfiedAt (sequence : Nat) : StepResult where
  inquiryId := "inquiry"
  status := .satisfied
  sequence := sequence

/-- The inquiry after these events is read back, and a step reports it as satisfied. -/
def ReportsSatisfied (bodies : List CommandBody) (sequence : Nat) : Prop :=
  rebuildState (some (sdkWorld bodies).store) (sdkWorld bodies).ledger "inquiry" true = .ok (reached bodies) ∧
    ((sdk.step "inquiry").run (sdkWorld bodies)).1 = .ok (satisfiedAt sequence)

instance (bodies : List CommandBody) (sequence : Nat) : Decidable (ReportsSatisfied bodies sequence) :=
  inferInstanceAs (Decidable (_ ∧ _))

theorem ReportsSatisfied.stepped {bodies : List CommandBody} {sequence : Nat}
    (reports : ReportsSatisfied bodies sequence) : (sdk.step "inquiry").run (sdkWorld bodies) =
      (.ok (satisfiedAt sequence), ((sdk.step "inquiry").run (sdkWorld bodies)).2) := Prod.ext reports.2 rfl

theorem satisfaction_reported :
    (ReportsSatisfied bypassBlocked 3 ∧ (reached bypassBlocked).obligations.map Obligation.id = ["bypass"] ∧
      ¬ NonePassedOver (reached bypassBlocked) ∧ ¬ ∀ obligation ∈ (reached bypassBlocked).obligations,
        (reached bypassBlocked).currentObligationStatus obligation.id = some .satisfied) ∧
      ReportsSatisfied bothSatisfied 8 ∧
        (reached bothSatisfied).obligations.map Obligation.id = ["obligation", "bypass"] ∧
        NonePassedOver (reached bothSatisfied) := by
  decide +kernel

theorem bypassBlocked_passed_over :
    ((reached bypassBlocked).obligations.map Obligation.id = ["bypass"] ∧
      ¬ ∀ obligation ∈ (reached bypassBlocked).obligations,
        (reached bypassBlocked).currentObligationStatus obligation.id = some .satisfied) ∧
      (reached bothSatisfied).obligations.map Obligation.id = ["obligation", "bypass"] ∧
        ∀ obligation ∈ (reached bothSatisfied).obligations,
          (reached bothSatisfied).currentObligationStatus obligation.id = some .satisfied := by
  obtain ⟨⟨blocked, named, overlooks, -⟩, satisfied, alsoNamed, meets⟩ := satisfaction_reported
  refine ⟨⟨named, ?_⟩, alsoNamed, ?_⟩
  · rw [satisfied_exactly (reachable_reached bypassBlocked) blocked.1 blocked.stepped rfl]
    exact overlooks
  · exact (satisfied_exactly (reachable_reached bothSatisfied) satisfied.1 satisfied.stepped rfl).mpr meets

/-- A blocked obligation without a contract does not keep a step from reporting the inquiry as satisfied. -/
theorem satisfied_misreports : ¬ ∀ (rci : RCI) (world last : SdkWorld) (inquiryId : String) (state : InquiryState)
    (result : StepResult), Reachable state →
      rebuildState (some world.store) world.ledger inquiryId true = .ok state →
        (rci.step inquiryId).run world = (.ok result, last) → result.status = .satisfied →
          ∀ obligation ∈ state.obligations, state.currentObligationStatus obligation.id = some .satisfied := by
  intro claimed
  obtain ⟨⟨reports, -, -, blocked⟩, -⟩ := satisfaction_reported
  exact blocked (claimed sdk (sdkWorld bypassBlocked) _ "inquiry" _ _ (reachable_reached bypassBlocked) reports.1
    reports.stepped rfl)

end Worked

end RatchetingInquiry
