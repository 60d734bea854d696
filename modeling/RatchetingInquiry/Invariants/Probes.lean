import Mathlib.Data.List.Chain
import RatchetingInquiry.Invariants.Compression

/-! Recurrent probes over whole runs: which observations of a probe are comparable, and what stands behind a
learned probe. An observation may be compared through the bridge of the observation before it, whose lemma is
not looked at again. -/

namespace RatchetingInquiry

section
variable [Fingerprints] {state before after later : InquiryState} {fingerprint : String}
  {observation previous : ProbeEvent} {bridge : ComparabilityBridge}

/-- The lemma of the bridge is in the active theory with the exact proposition and scope of the bridge. -/
def InquiryState.activates (state : InquiryState) (bridge : ComparabilityBridge) : Bool :=
  state.lemmaVersions.any (fun version => version.id = bridge.warrantLemmaId && version.id ∈ state.activeLemmaIds &&
    bridge.comparisonPropositionId = version.relationId && bridge.scopeFingerprint = version.scope.fingerprint)

/-- Both observations were bound alike. -/
def ProbeEvent.boundAlike (left right : ProbeEvent) : Bool :=
  left.bindingRevision = right.bindingRevision && RecordEq.same left.boundReferents right.boundReferents

/-- An observation without a bridge of its own is bound as the one before it, or the bridge of that one is
still active. -/
def bridgesActively (state : InquiryState) (command : DomainCommand) : Bool :=
  match command.body with
  | .probe (.recordProbeObservation observation) =>
    observation.comparabilityBridge.isSome ||
      (state.historyOf observation.probeIdentity.fingerprint).getLast?.all (fun previous =>
        previous.boundAlike observation || previous.comparabilityBridge.all state.activates)
  | _ => true

/-- The observation was recorded in the given state of a run. -/
def ProbeEvent.RecordedIn (observation : ProbeEvent) (before state : InquiryState) : Prop :=
  Reachable before ∧ observation ∉ before.probeObservations ∧
    ∃ after, CommandStep before after ∧ observation ∈ after.probeObservations ∧ RunsTo after state

/-- Both observations were bound alike, or one of them carries a bridge between their probes that was active
when the later one was recorded. -/
def ComparableIn (state : InquiryState) (previous observation : ProbeEvent) : Prop :=
  previous.boundAlike observation ∨ ∃ bridge before,
    (previous.comparabilityBridge = some bridge ∨ observation.comparabilityBridge = some bridge) ∧
    bridge.connects previous.probeIdentity.fingerprint observation.probeIdentity.fingerprint ∧
    observation.RecordedIn before state ∧ before.activates bridge

theorem ProbeEvent.RecordedIn.trans (recorded : observation.RecordedIn before state) (run : RunsTo state later) :
    observation.RecordedIn before later := by
  obtain ⟨reached, absent, after, step, present, rest⟩ := recorded
  exact ⟨reached, absent, after, step, present, rest.trans run⟩

theorem ComparableIn.trans (comparable : ComparableIn state previous observation) (run : RunsTo state later) :
    ComparableIn later previous observation := by
  rcases comparable with alike | ⟨bridge, before, carried, connects, recorded, active⟩
  · exact .inl alike
  · exact .inr ⟨bridge, before, carried, connects, recorded.trans run, active⟩

theorem requireBridge_activates {context : InquiryContext} (required : requireBridge state context bridge = .ok ()) :
    state.activates bridge = true := by
  simp only [requireBridge, found_bind_eq_ok, require_eq_ok] at required
  obtain ⟨version, hit, proposition, scope, -⟩ := required
  have found := List.find?_some hit
  simp only [Bool.and_eq_true, decide_eq_true_eq] at found
  simp only [InquiryState.activates, List.any_eq_true, Bool.and_eq_true, decide_eq_true_eq]
  exact ⟨version, List.mem_of_find?_eq_some hit, ⟨found, proposition⟩, scope⟩

omit [Fingerprints] in
theorem rejectValueError_eq_ok {α : Type} {outcome : Except Failure α} {value : α} :
    rejectValueError outcome = .ok value ↔ outcome = .ok value := by
  cases outcome with
  | ok result => rfl
  | error failure => cases failure <;> simp [rejectValueError]

theorem appendProbeEvent_follows {trace extended : ProbeTrace}
    (appended : appendProbeEvent trace observation = .ok extended) :
    ∀ previous ∈ trace.events.getLast?,
      previous.sequenceIndex < observation.sequenceIndex ∧ compareProbeEvents previous observation := by
  intro previous last
  simp only [Option.mem_def] at last
  simp only [appendProbeEvent, require_bind_eq_ok, last] at appended
  exact ⟨appended.2.1, appended.2.2.1⟩

/-- An observation is recorded after the last one of its probe, comparable with it and under its own active
bridge. -/
theorem freshObservation_follows {event : ProbeDomainEvent} (judged : freshObservation state observation = .ok event) :
    (∀ bridge, observation.comparabilityBridge = some bridge → state.activates bridge) ∧
      ∀ previous ∈ (state.historyOf observation.probeIdentity.fingerprint).getLast?,
        previous.sequenceIndex < observation.sequenceIndex ∧ compareProbeEvents previous observation := by
  simp only [freshObservation, found_bind_eq_ok, require_bind_eq_ok, forM_bind_eq_ok] at judged
  obtain ⟨-, context, -, -, -, -, bridged, rest⟩ := judged
  obtain ⟨trace, validated, appended⟩ := bind_eq_ok.mp rest
  obtain ⟨extended, accepted, -⟩ := bind_eq_ok.mp appended
  constructor
  · intro bridge carried
    exact requireBridge_activates (bridged bridge (by simp [carried]))
  · simp only [ProbeTrace.validateTrace, require_bind_eq_ok] at validated
    obtain ⟨-, -, -, same⟩ := validated
    obtain rfl := Except.ok.inj same
    exact appendProbeEvent_follows (rejectValueError_eq_ok.mp accepted)

/-- Observations of one probe that are comparable are bound alike or joined by a bridge. -/
theorem compareProbeEvents_bridged (compared : compareProbeEvents previous observation = true) :
    previous.boundAlike observation ∨ ∃ bridge,
      observation.comparabilityBridge.or previous.comparabilityBridge = some bridge ∧
        bridge.connects previous.probeIdentity.fingerprint observation.probeIdentity.fingerprint := by
  simp only [compareProbeEvents] at compared
  split at compared
  next same =>
    simp only [Bool.and_eq_true, decide_eq_true_eq] at same
    exact .inl (by simp [ProbeEvent.boundAlike, same.1.2, same.2])
  next => exact .inr (by simpa [Option.any_eq_true] using compared)

section
variable {condition : InquiryState → DomainCommand → Prop} {command : DomainCommand} {body : EventBody}

omit [Fingerprints] in
theorem collects_observations : Collects (fun state => state.probeObservations) := collects_probe rfl (fun _ _ => rfl)

/-- A command leaves the observations as they are or records one. -/
theorem RunStep.observations (step : RunStep condition before command body after later) :
    after.probeObservations = before.probeObservations ∨ ∃ observation,
      after.probeObservations = before.probeObservations ++ [observation] ∧
      command.body = .probe (.recordProbeObservation observation) ∧
      observation ∉ before.probeObservations ∧
      freshObservation before observation = .ok (.probeObservationRecorded observation) := by
  have grown := collects_observations.grows _ _ _ step.appended
  rcases List.eq_nil_or_concat (body.introduces before).probeObservations with none | ⟨others, observation, listed⟩
  · exact .inl (by rw [grown, none, List.append_nil])
  · have introduced : observation ∈ (body.introduces before).probeObservations := by simp [listed]
    obtain ⟨event, rfl, recorded, commanded, lawful⟩ :=
      step.introduces_probe (fun _ => rfl) introduced
    obtain rfl : event = .probeObservationRecorded observation := by
      cases event <;> simp_all [ProbeRecords.apply]
    obtain ⟨absent, judged⟩ := recordOnce_eq_some.mp lawful
    refine .inr ⟨observation, grown, commanded, ?_, judged⟩
    intro member
    simpa using List.find?_eq_none.mp absent observation member

/-- An observation that meets the condition is comparable with the last one of its probe. -/
theorem RunStep.comparable (step : RunStep (fun state command => bridgesActively state command) before command body after later)
    (recorded : observation.RecordedIn before later)
    (commanded : command.body = .probe (.recordProbeObservation observation))
    (judged : freshObservation before observation = .ok (.probeObservationRecorded observation))
    (last : previous ∈ (before.historyOf observation.probeIdentity.fingerprint).getLast?) :
    previous.sequenceIndex < observation.sequenceIndex ∧ ComparableIn later previous observation := by
  obtain ⟨own, follows⟩ := freshObservation_follows judged
  obtain ⟨later, compared⟩ := follows previous last
  refine ⟨later, ?_⟩
  rcases compareProbeEvents_bridged compared with alike | ⟨bridge, carried, connects⟩
  · exact .inl alike
  · have meets := step.meets
    simp only [bridgesActively, commanded, Option.mem_def.mp last, Option.all_some, Bool.or_eq_true] at meets
    cases carries : observation.comparabilityBridge with
    | some ownBridge =>
      rw [carries] at carried
      obtain rfl : ownBridge = bridge := Option.some.inj carried
      exact .inr ⟨ownBridge, before, .inr carries, connects, recorded, own ownBridge carries⟩
    | none =>
      simp only [carries, Option.none_or] at carried
      simp only [carries, Option.isSome_none, Bool.false_eq_true, false_or, carried, Option.all_some] at meets
      rcases meets with alike | active
      · exact .inl alike
      · exact .inr ⟨bridge, before, .inl carried, connects, recorded, active⟩

end

/-- The observations of a probe in the order in which they were recorded. -/
theorem history_chain (reached : ReachableUnder (fun state command => bridgesActively state command) state)
    (fingerprint : String) : (state.historyOf fingerprint).IsChain (fun previous observation =>
      previous.sequenceIndex < observation.sequenceIndex ∧ ComparableIn state previous observation) := by
  induction reached with
  | refl => simp [ProbeRecords.historyOf, initialState]
  | tail earlier applied ih =>
    rename_i middle last
    obtain ⟨command, meets, accepted⟩ := applied
    rcases applyCommand_cases accepted with rfl | ⟨body, decided, transition, valid⟩
    · exact ih
    · have step : RunStep (fun state command => bridgesActively state command) middle command body last last :=
        ⟨earlier, meets, decideBody_proposed decided, accepted, transition, valid, .refl⟩
      have moved : RunsTo middle last := .single step.commandStep
      have kept := ih.imp (fun _ _ ordered => And.imp_right (fun comparable => ComparableIn.trans comparable moved) ordered)
      rcases step.observations with same | ⟨observation, added, commanded, absent, judged⟩
      · rw [ProbeRecords.historyOf, same]
        exact kept
      · by_cases own : observation.probeIdentity.fingerprint = fingerprint
        · have recorded : observation.RecordedIn middle last :=
            ⟨step.reached.reachable, absent, last, step.commandStep, by simp [added], .refl⟩
          rw [ProbeRecords.historyOf, added, List.filter_append, List.isChain_append]
          refine ⟨kept, by simp [own], ?_⟩
          intro previous tail next head
          simp only [own, decide_true, List.filter_cons_of_pos, List.filter_nil, List.head?_cons, Option.mem_def,
            Option.some.injEq] at head
          subst head
          exact step.comparable recorded commanded judged (own ▸ tail)
        · rw [ProbeRecords.historyOf, added, List.filter_append]
          simpa [own, ProbeRecords.historyOf] using kept

/-- In every run whose observations reuse only bridges that are still active, the observations of every probe
are recorded in strict order and each is comparable with the one before it. -/
theorem traces_comparable (reached : ReachableUnder (fun state command => bridgesActively state command) state)
    (fingerprint : String) :
    ((state.historyOf fingerprint).map ProbeEvent.sequenceIndex).Pairwise (· < ·) ∧
      (state.historyOf fingerprint).IsChain (ComparableIn state) := by
  have chain := history_chain reached fingerprint
  refine ⟨?_, chain.imp (fun _ _ ordered => ordered.2)⟩
  rw [← List.isChain_iff_pairwise, List.isChain_map]
  exact chain.imp (fun _ _ ordered => ordered.1)

/-- The parts of the samples that an evaluation counts its gains over. -/
structure ProbeEvaluation.CountsOver (evaluation : ProbeEvaluation) (training holdout : List ProbeSample) : Prop where
  split : stratifiedProbeSplit evaluation.samples evaluation.protocol = .ok (training, holdout)
  training_ids : evaluation.trainingObservationIds = sortedIds (training.map ProbeSample.observationId)
  holdout_ids : evaluation.holdoutObservationIds = sortedIds (holdout.map ProbeSample.observationId)
  disjoint : ∀ observationId ∈ evaluation.trainingObservationIds, observationId ∉ evaluation.holdoutObservationIds
  training_gain : evaluation.trainingDiscriminationGain = pairGain training
  holdout_gain : evaluation.holdoutDiscriminationGain = pairGain holdout

/-- A recorded evaluation of the candidate: the deterministic result for its samples, over owned observations and
with two checks of its own proposition. -/
structure ProbeEvaluation.Evaluates (evaluation : ProbeEvaluation) (state : InquiryState)
    (candidate : LearnedProbeCandidate) : Prop where
  recorded : evaluation ∈ state.probeEvaluations
  about : evaluation.candidateProbeId = candidate.id
  deterministic : buildProbeEvaluation evaluation.id evaluation.candidateProbeId evaluation.samples evaluation.protocol
    evaluation.redundancyCheck evaluation.protectedBehaviorCheck = .ok evaluation
  counts : ∃ training holdout, evaluation.CountsOver training holdout
  owned : evaluation.trainingObservationIds ++ evaluation.holdoutObservationIds ⊆
    state.probeObservations.map ProbeEvent.id
  redundancy_checked : state.OwnsCheck evaluation.redundancyCheck evaluation.evaluationPropositionId
    candidate.probeIdentity.scopeFingerprint
  behavior_checked : state.OwnsCheck evaluation.protectedBehaviorCheck evaluation.evaluationPropositionId
    candidate.probeIdentity.scopeFingerprint

/-- The decision that admitted a probe, in the state in which it was made. -/
structure AdmitsProbe (before : InquiryState) (decision : ProbeAdmissionDecision) (candidate : LearnedProbeCandidate)
    (evaluation : ProbeEvaluation) : Prop where
  admits : decision.outcome = .admitted
  candidate_recorded : candidate ∈ before.learnedProbeCandidates ∧ candidate.id = decision.candidateProbeId
  evaluation_named : evaluation.id = decision.evaluationId
  evaluates : evaluation.Evaluates before candidate
  gains : 0 < evaluation.trainingDiscriminationGain ∧ 0 < evaluation.holdoutDiscriminationGain
  challenges_satisfied : ∀ obligationId ∈ candidate.challengeObligationIds,
    before.currentObligationStatus obligationId = some .satisfied

section
variable {evaluation : ProbeEvaluation} {candidate : LearnedProbeCandidate} {decision : ProbeAdmissionDecision}

omit [Fingerprints] in
theorem collects_candidates : Collects (fun state => state.learnedProbeCandidates) :=
  collects_learning rfl (fun _ _ => rfl)

omit [Fingerprints] in
theorem collects_decisions : Collects (fun state => state.probeAdmissionDecisions) :=
  collects_learning rfl (fun _ _ => rfl)

omit [Fingerprints] in
theorem collects_admitted : Collects (fun state => state.admittedProbes) := collects_probe rfl (fun _ _ => rfl)

/-- The deterministic result counts its gains over disjoint parts of its samples. -/
theorem buildProbeEvaluation_counts
    (built : buildProbeEvaluation evaluation.id evaluation.candidateProbeId evaluation.samples evaluation.protocol
      evaluation.redundancyCheck evaluation.protectedBehaviorCheck = .ok evaluation) :
    ∃ training holdout, evaluation.CountsOver training holdout := by
  obtain ⟨⟨training, holdout⟩, split, validated⟩ := bind_eq_ok.mp built
  simp only [ProbeEvaluation.validateProbeEvaluation, require_bind_eq_ok] at validated
  obtain ⟨-, -, disjoint, -, -, same⟩ := validated
  have same := Except.ok.inj same
  have trainingIds := congrArg ProbeEvaluation.trainingObservationIds same
  have holdoutIds := congrArg ProbeEvaluation.holdoutObservationIds same
  refine ⟨training, holdout, split, trainingIds.symm, holdoutIds.symm, ?_,
    (congrArg ProbeEvaluation.trainingDiscriminationGain same).symm,
    (congrArg ProbeEvaluation.holdoutDiscriminationGain same).symm⟩
  rw [← trainingIds, ← holdoutIds]
  exact disjoint

/-- Every recorded evaluation evaluates the candidate that it names. -/
theorem Reachable.evaluates (reached : Reachable state) (member : evaluation ∈ state.probeEvaluations) :
    ∃ candidate, state.learnedProbeCandidates.find? (fun item => item.id = evaluation.candidateProbeId) =
      some candidate ∧ evaluation.Evaluates state candidate := by
  obtain ⟨before, command, event, after, step, introduced, -, lawful⟩ :=
    (reachableUnder_of_reachable reached).learning_origin LearningRecords.probeEvaluations (fun _ _ => rfl) rfl member
  obtain rfl : event = .probeEvaluationRecorded evaluation := by
    cases event <;> simp_all [LearningRecords.apply]
  have judged := (recordOnce_eq_some.mp lawful).2
  simp only [freshProbeEvaluation, found_bind_eq_ok] at judged
  obtain ⟨candidate, hit, rest⟩ := judged
  obtain ⟨expected, built, checked⟩ := bind_eq_ok.mp rest
  simp only [require_bind_eq_ok, forM_bind_eq_ok, List.mem_cons, List.not_mem_nil, or_false, forall_eq_or_imp,
    forall_eq] at checked
  obtain ⟨rfl, owned, ⟨redundancy, behavior⟩, -⟩ := checked
  have candidates := collects_candidates.kept step.joined
  have named : candidate.id = expected.candidateProbeId := by simpa using List.find?_some hit
  refine ⟨candidate, candidates.find?_eq_some hit, member, named.symm, built, buildProbeEvaluation_counts built, ?_,
    step.ownsCheck (requireRelationCheck_owned redundancy), step.ownsCheck (requireRelationCheck_owned behavior)⟩
  exact fun _ cited => List.map_subset _ (collects_observations.kept step.joined).subset (owned cited)

/-- The learned probe that a decision admits is the one of its evaluated candidate. -/
theorem freshProbeAdmission_admits {event : LearningEvent} (reached : Reachable state) {probe : ProbeIdentity}
    (judged : freshProbeAdmission state.toClaimRecords state.toProbeRecords state.toLearningRecords decision = .ok event)
    (admitted : decision.admittedProbe state.toLearningRecords = some probe) :
    ∃ candidate evaluation, AdmitsProbe state decision candidate evaluation ∧ candidate.probeIdentity = probe := by
  simp only [freshProbeAdmission, found_bind_eq_ok, require_bind_eq_ok, Option.filter_eq_some_iff,
    decide_eq_true_eq] at judged
  obtain ⟨candidate, candidateHit, evaluation, ⟨evaluationHit, about⟩, qualified, -⟩ := judged
  simp only [ProbeAdmissionDecision.admittedProbe, candidateHit, Option.map_some] at admitted
  split at admitted
  next admits =>
    have qualifies := qualified admits
    simp only [qualifiesForAdmission, Bool.and_eq_true, List.all_eq_true, decide_eq_true_eq] at qualifies
    obtain ⟨⟨⟨closed, training⟩, holdout⟩, -⟩ := qualifies
    obtain ⟨evaluated, evaluatedHit, evaluates⟩ := reached.evaluates (List.mem_of_find?_eq_some evaluationHit)
    have named : candidate.id = decision.candidateProbeId := by simpa using List.find?_some candidateHit
    rw [about, named, candidateHit] at evaluatedHit
    obtain rfl := Option.some.inj evaluatedHit
    refine ⟨candidate, evaluation, ?_, Option.some.inj admitted⟩
    exact ⟨admits, ⟨List.mem_of_find?_eq_some candidateHit, named⟩, by simpa using List.find?_some evaluationHit,
      evaluates, ⟨training, holdout⟩, closed⟩
  next => cases admitted

section
variable {condition : InquiryState → DomainCommand → Prop} {command : DomainCommand} {body : EventBody}

/-- Only a decision brings in a learned probe: the general admission refuses its contract. -/
theorem RunStep.learned_by_decision (step : RunStep condition before command body after later) {probe : ProbeIdentity}
    (learned : probe.questionContractKey = learnedProbeContractKey)
    (introduced : probe ∈ (body.introduces before).admittedProbes) :
    ∃ decision, body = .learning (.probeAdmissionDecisionRecorded decision) ∧
      decision.admittedProbe before.toLearningRecords = some probe := by
  cases body with
  | probe event =>
    obtain ⟨-, lawful⟩ := step.proposed.probe_command
    cases event with
    | probeAdmitted admitted =>
      obtain rfl : probe = admitted := by simpa [EventBody.introduces, ProbeRecords.apply] using introduced
      have judged := (recordOnce_eq_some.mp lawful).2
      simp only [freshProbe, require_bind_eq_ok] at judged
      exact absurd learned judged.1
    | _ => simp [EventBody.introduces, ProbeRecords.apply] at introduced
  | learning event =>
    cases event with
    | probeAdmissionDecisionRecorded decision =>
      exact ⟨decision, rfl, by simpa [EventBody.introduces, Option.mem_toList] using introduced⟩
    | _ => simp [EventBody.introduces] at introduced
  | memory event => cases event <;> simp [EventBody.introduces, InquiryState.applyMemory] at introduced
  | _ => simp [EventBody.introduces] at introduced

end

end

/-- Every learned probe was brought in by the recorded decision to admit an evaluated candidate. -/
theorem learned_probe_evaluated (reached : Reachable state) {probe : ProbeIdentity}
    (member : probe ∈ state.admittedProbes) (learned : probe.questionContractKey = learnedProbeContractKey) :
    ∃ before after head decision candidate evaluation, Reachable before ∧ probe ∉ before.admittedProbes ∧
      applyCommand before ⟨head, .learning (.recordProbeAdmissionDecision decision)⟩ = .ok after ∧
      probe ∈ after.admittedProbes ∧ decision ∈ after.probeAdmissionDecisions ∧ RunsTo after state ∧
      candidate.probeIdentity = probe ∧ AdmitsProbe before decision candidate evaluation := by
  obtain ⟨before, command, body, after, step, absent, introduced⟩ :=
    (reachableUnder_of_reachable reached).record_origin collects_admitted member
  obtain ⟨decision, rfl, admitted⟩ := step.learned_by_decision learned introduced
  obtain ⟨commanded, lawful⟩ := step.proposed.learning_command
  have reachedBefore := step.reached.reachable
  obtain ⟨candidate, evaluation, admits, same⟩ :=
    freshProbeAdmission_admits reachedBefore (recordOnce_eq_some.mp lawful).2 admitted
  have applied := step.applied
  obtain ⟨head, body⟩ := command
  obtain rfl : body = .learning (.recordProbeAdmissionDecision decision) := commanded
  refine ⟨before, after, head, decision, candidate, evaluation, reachedBefore, absent, applied, ?_, ?_, step.run, same,
    admits⟩
  · rw [collects_admitted.grows _ _ _ step.appended]
    exact List.mem_append_right _ introduced
  · rw [collects_decisions.grows _ _ _ step.appended]
    exact List.mem_append_right _ (by simp [EventBody.introduces, LearningRecords.apply])

end

/-! A probe of the worked inquiry whose referents change, and a probe that the inquiry learns. -/

section
variable [Fingerprints] {state before later : InquiryState} {observation : ProbeEvent}

/-- A run that adds no event stays where it is. -/
theorem RunsTo.unmoved (reached : Reachable state) (run : RunsTo state later)
    (same : later.sequence = state.sequence) : later = state := by
  induction run with
  | refl => rfl
  | tail earlier applied ih =>
    rename_i middle last
    have within := sequence_le reached.replayable (RunsTo.eventRun earlier)
    rcases applied.runStep (reached.trans earlier) .refl with rfl | ⟨command, body, step⟩
    · exact ih same
    · have succ := step.sequence_succ
      omega

/-- An observation of the last revision was recorded by the last event, which leaves the theory alone. -/
theorem ProbeEvent.RecordedIn.activates_eq (recorded : observation.RecordedIn before state)
    (last : state.sequence = observation.stateRevision + 1) : before.activates = state.activates := by
  obtain ⟨reached, absent, after, applied, present, run⟩ := recorded
  rcases applied.runStep reached run with rfl | ⟨command, body, step⟩
  · exact absurd present absent
  · obtain ⟨event, rfl, listed, -, lawful⟩ :=
      step.introduces_probe (fun _ => rfl) (step.introduces collects_observations absent present)
    obtain rfl : event = .probeObservationRecorded observation := by
      cases event <;> simp_all [ProbeRecords.apply]
    have judged := (recordOnce_eq_some.mp lawful).2
    simp only [freshObservation, found_bind_eq_ok, require_bind_eq_ok] at judged
    obtain ⟨-, context, -, revision, -⟩ := judged
    have within := sequence_le (reached.replayable.trans applied.eventRun) run.eventRun
    have succ := step.sequence_succ
    obtain rfl := run.unmoved (reached.tail applied) (by omega)
    cases step.transition
    rfl

end

namespace Worked

def recurrentProbe (contract role : String) : ProbeIdentity where
  questionContractKey := contract
  relationalRole := role
  bindingSchemaId := "carrier"
  bindingRevision := "binding"
  scopeFingerprint := scope.fingerprint
  comparisonSemanticsId := "comparison"
  applicabilityGuardId := "guard"
  protectedHorizonId := "horizon"

def baseProbe : ProbeIdentity := recurrentProbe "question@1.0.0" "characterize"

def probeBridge : ComparabilityBridge where
  fromProbeFingerprint := baseProbe.fingerprint
  toProbeFingerprint := baseProbe.fingerprint
  comparisonPropositionId := "a"
  scopeFingerprint := scope.fingerprint
  warrantLemmaId := "lemma-a"

/-- An observation of the probe about the given referent. -/
def observationOf (id referent : String) (revision index : Nat) (bridge : Option ComparabilityBridge := none) :
    ProbeEvent where
  id := id
  probeIdentity := baseProbe
  boundReferents := [⟨"referent", .text referent⟩]
  bindingRevision := "binding"
  stateRevision := revision
  semanticFieldId := "field"
  sequenceIndex := index
  comparabilityBridge := bridge

def bridged : ProbeEvent := observationOf "first" "x" 9 1 (some probeBridge)

def rebound (revision : Nat) : ProbeEvent := observationOf "second" "y" revision 2

/-- The probe is observed, some commands follow, and it is observed at another referent. -/
def observedTwice (between : List CommandBody) : List CommandBody :=
  promoted ++ [.probe (.admitProbe baseProbe), .probe (.recordProbeObservation bridged)] ++ between ++
    [.probe (.recordProbeObservation (rebound (10 + between.length)))]

def withdrawRoute : CommandBody :=
  .warrant (.changeSupportRouteStanding ⟨"change", "route-a", .withdrawn, "reason", none⟩)

theorem bridged_comparable :
    (reachedUnder bridgesActively (observedTwice [])).historyOf baseProbe.fingerprint = [bridged, rebound 10] ∧
      (((reachedUnder bridgesActively (observedTwice [])).historyOf baseProbe.fingerprint).map
        ProbeEvent.sequenceIndex).Pairwise (· < ·) ∧
      ((reachedUnder bridgesActively (observedTwice [])).historyOf baseProbe.fingerprint).IsChain
        (ComparableIn (reachedUnder bridgesActively (observedTwice []))) :=
  ⟨by decide +kernel, traces_comparable (reachableUnder_reachedUnder _ _) _⟩

/-- The lemma of the bridge is withdrawn before the second observation, which is accepted nevertheless. -/
theorem withdrawn_not_comparable : ¬ ∀ state, Reachable state → ∀ fingerprint,
    ((state.historyOf fingerprint).map ProbeEvent.sequenceIndex).Pairwise (· < ·) ∧
      (state.historyOf fingerprint).IsChain (ComparableIn state) := by
  intro claimed
  have facts : (reached (observedTwice [withdrawRoute])).historyOf baseProbe.fingerprint = [bridged, rebound 11] ∧
      (reached (observedTwice [withdrawRoute])).sequence = (rebound 11).stateRevision + 1 ∧
      (reached (observedTwice [withdrawRoute])).activates probeBridge = false ∧
      bridged.boundAlike (rebound 11) = false := by decide +kernel
  obtain ⟨history, last, inactive, unlike⟩ := facts
  have chain := (claimed _ (reachable_reached (observedTwice [withdrawRoute])) baseProbe.fingerprint).2
  rw [history, List.isChain_pair] at chain
  rcases chain with alike | ⟨bridge, before, carried, -, recorded, active⟩
  · rw [unlike] at alike
    cases alike
  · obtain rfl : bridge = probeBridge := by
      rcases carried with own | other
      · exact (Option.some.inj own).symm
      · cases other
    rw [recorded.activates_eq last, inactive] at active
    cases active

def gap : RepresentationGap where
  id := "gap"
  obligationId := "obligation"
  stateOrClaimIds := []
  protectedConsequenceDifferenceId := "difference"
  failedProbeFingerprints := [baseProbe.fingerprint]
  kind := .noSeparator
  scopeFingerprint := scope.fingerprint
  bindingRevision := "binding"
  protectedHorizonId := "horizon"

def learnedProbe : ProbeIdentity := recurrentProbe learnedProbeContractKey "separate"

def learnedCandidate : LearnedProbeCandidate where
  id := "candidate"
  representationGapId := "gap"
  probeIdentity := learnedProbe
  generatedPayload := .null
  challengeObligationIds := ["obligation"]
  challenges_canonical := canonical_singleton "obligation"

/-- Four observations of two consequence classes, which the existing basis does not separate. -/
def samples : List ProbeSample :=
  [⟨"o1", "left", "basis", "v1"⟩, ⟨"o2", "left", "basis", "v2"⟩, ⟨"o3", "right", "basis", "v3"⟩,
    ⟨"o4", "right", "basis", "v4"⟩]

def probeEvaluation : ProbeEvaluation where
  id := "evaluation"
  candidateProbeId := "candidate"
  protocol := .finiteStratifiedHoldoutV1
  sampleIndexFingerprint := "other"
  samples := samples
  trainingObservationIds := ["o1", "o3"]
  holdoutObservationIds := ["o2", "o4"]
  trainingDiscriminationGain := 1
  holdoutDiscriminationGain := 1
  protectedErrorCount := 0
  redundancyCheck := checkOf "redundancy"
  protectedBehaviorCheck := checkOf "behavior"
  evaluationPropositionId := "probe-evaluation:other"

/-- The gap is recorded, its candidate challenged and evaluated, and the probe admitted. -/
def learnedRun : List CommandBody :=
  planned ++ [.probe (.admitProbe baseProbe), .learning (.recordRepresentationGap gap),
      .learning (.recordLearnedProbeCandidate learnedCandidate)] ++ acceptance "a" "result-a" ++
    [.claim (.recordObligationDisposition ⟨"disposition", "obligation", .satisfied, "answered", ["decode-a"], none⟩)] ++
    (samples.zipIdx 1).map (fun (sample, index) =>
      .probe (.recordProbeObservation (observationOf sample.observationId "x" 0 index))) ++
    relationCheck "redundancy" "probe-evaluation:other" ++ relationCheck "behavior" "probe-evaluation:other" ++
    [.learning (.recordProbeEvaluation probeEvaluation),
      .learning (.recordProbeAdmissionDecision ⟨"admission", "candidate", "evaluation", .admitted, "controller"⟩)]

theorem learnedRun_evaluated :
    learnedProbe ∈ (reached learnedRun).admittedProbes ∧
    ∃ before after head decision candidate evaluation, Reachable before ∧ learnedProbe ∉ before.admittedProbes ∧
      applyCommand before ⟨head, .learning (.recordProbeAdmissionDecision decision)⟩ = .ok after ∧
      learnedProbe ∈ after.admittedProbes ∧ decision ∈ after.probeAdmissionDecisions ∧
      RunsTo after (reached learnedRun) ∧ candidate.probeIdentity = learnedProbe ∧
      AdmitsProbe before decision candidate evaluation := by
  have member : learnedProbe ∈ (reached learnedRun).admittedProbes := by decide +kernel
  exact ⟨member, learned_probe_evaluated (reachable_reached learnedRun) member rfl⟩

end Worked

end RatchetingInquiry
