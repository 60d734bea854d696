import RatchetingInquiry.Core.Rebuild
import RatchetingInquiry.Invariants.Effects
import RatchetingInquiry.Invariants.Warrants

/-! Semantic change and its warrants. Every warranted change of a committed delta rests on a lemma that was
active when it was committed, but the two structure lists of a delta are only compared with the changes
that it carries: an id that no change carries is listed as reopened or retired without any warrant. -/

namespace RatchetingInquiry

/-- Every structure that the delta reopens or retires is the subject of one of its warranted changes. -/
def SemanticDelta.listsCovered (delta : SemanticDelta) : Prop :=
  delta.reopenedStructureIds ⊆ delta.warrantedChanges.map WarrantedChange.changeId ∧
    delta.retiredStructureIds ⊆ delta.warrantedChanges.map WarrantedChange.changeId

instance (delta : SemanticDelta) : Decidable delta.listsCovered := inferInstanceAs (Decidable (_ ∧ _))

/-- The command commits no delta, or one whose structure lists its own changes cover. -/
def CommandBody.commitsCovered : CommandBody → Bool
  | .probe (.commitSemanticDelta delta) => Decidable.decide delta.listsCovered
  | _ => true

section
variable [Fingerprints] {state before after later : InquiryState} {delta : SemanticDelta}

/-- The delta was committed by a command on the earlier state, and a run led from there to the later one. -/
def SemanticDelta.CommittedFrom (delta : SemanticDelta) (before later : InquiryState) : Prop :=
  Reachable before ∧ before.sequence + 1 = delta.committedSequence ∧ delta ∉ before.semanticDeltas ∧
    ∃ after, CommandStep before after ∧ delta ∈ after.semanticDeltas ∧ RunsTo after later

/-- The change rests on an active lemma of the state, with its exact relation and scope. -/
def WarrantedChange.ActiveIn (change : WarrantedChange) (state : InquiryState) : Prop :=
  ∃ version ∈ state.lemmaVersions, version.id = change.warrantLemmaId ∧ version.id ∈ state.activeLemmaIds ∧
    version.relationId = change.propositionId ∧ version.scope.fingerprint = change.scopeFingerprint

/-- Each reopened or retired structure has its warranted change, and each change had an active lemma in
the state in which the delta was committed. -/
structure SemanticDelta.IsWarranted (delta : SemanticDelta) (state : InquiryState) : Prop where
  reopened : ∀ structureId ∈ delta.reopenedStructureIds, ∃ change ∈ delta.warrantedChanges,
    change.changeId = structureId ∧ change.operation = .reopen
  retired : ∀ structureId ∈ delta.retiredStructureIds, ∃ change ∈ delta.warrantedChanges,
    change.changeId = structureId ∧ change.operation = .retire
  active : ∃ before, delta.CommittedFrom before state ∧ ∀ change ∈ delta.warrantedChanges, change.ActiveIn before

/-- What the commit of a delta was judged by. -/
structure DeltaLawful (state : InquiryState) (delta : SemanticDelta) : Prop where
  fresh : delta ∉ state.semanticDeltas
  position : delta.committedSequence = state.sequence + 1
  active : ∀ change ∈ delta.warrantedChanges, change.ActiveIn state
  operations : ∀ change ∈ delta.warrantedChanges, change.operation = delta.expectedOperation change

theorem requireWarrantedChange_ok {context : InquiryContext} {change : WarrantedChange}
    (required : requireWarrantedChange state context delta change = .ok ()) :
    change.ActiveIn state ∧ change.operation = delta.expectedOperation change := by
  simp only [requireWarrantedChange, found_bind_eq_ok, require_bind_eq_ok, require_eq_ok,
    Option.filter_eq_some_iff, decide_eq_true_eq] at required
  obtain ⟨version, ⟨owned, active⟩, ⟨relation, scope, -⟩, operation⟩ := required
  obtain ⟨member, names⟩ := indexBy_some owned
  exact ⟨⟨version, member, names, names ▸ active, relation, scope⟩, operation⟩

theorem commitSemanticDelta_lawful {event : ProbeDomainEvent}
    (lawful : decideProbe state (.commitSemanticDelta delta) = .ok (some event)) :
    DeltaLawful state delta ∧ event = .semanticDeltaCommitted delta := by
  obtain ⟨absent, judged⟩ := recordOnce_eq_some.mp lawful
  simp only [freshSemanticDelta, found_bind_eq_ok, require_bind_eq_ok, forM_bind_eq_ok, pure, Except.pure,
    Except.ok.injEq] at judged
  obtain ⟨-, -, position, -, context, -, changes, rfl⟩ := judged
  have fresh : delta ∉ state.semanticDeltas := by
    intro member
    exact find_eq_none_iff.mp absent (List.mem_map_of_mem member)
  exact ⟨⟨fresh, position, fun change member => (requireWarrantedChange_ok (changes change member)).1,
    fun change member => (requireWarrantedChange_ok (changes change member)).2⟩, rfl⟩

/-- A delta that a transition brings in passed the judgement of its commit. -/
theorem Transition.delta_lawful {head : EventMetadata} {body : EventBody}
    (transition : Transition before head body after) (member : delta ∈ after.semanticDeltas) :
    delta ∈ before.semanticDeltas ∨
      (body = .probe (.semanticDeltaCommitted delta) ∧ DeltaLawful before delta) := by
  have owned : delta ∈ after.toProbeRecords.semanticDeltas := member
  rcases transition.probeView with
    ⟨-, records⟩ | records | ⟨event, expected, committing, lawful, same, records⟩ | ⟨_, records⟩
  · rw [records] at owned
    simp at owned
  · rw [records] at owned
    exact .inl owned
  · rw [records] at owned
    cases event with
    | semanticDeltaCommitted committed =>
      simp only [ProbeRecords.apply, List.mem_append, List.mem_singleton] at owned
      rcases owned with earlier | rfl
      · exact .inl earlier
      · exact .inr ⟨committing, (commitSemanticDelta_lawful lawful).1⟩
    | _ => exact .inl owned
  · rw [records] at owned
    exact .inl owned

theorem SemanticDelta.CommittedFrom.further (committed : delta.CommittedFrom before state) (run : RunsTo state later) :
    delta.CommittedFrom before later := by
  obtain ⟨reached, position, fresh, after, step, member, earlier⟩ := committed
  exact ⟨reached, position, fresh, after, step, member, earlier.trans run⟩

/-- Every delta of a reachable state was lawful in the state that it was committed from. -/
theorem committed_lawful (reached : Reachable state) (member : delta ∈ state.semanticDeltas) :
    ∃ before, delta.CommittedFrom before state ∧ DeltaLawful before delta := by
  induction reached with
  | refl => simp [initialState] at member
  | tail run step ih =>
    rename_i middle last
    obtain ⟨command, applied⟩ := step
    have lastStep : CommandStep middle last := ⟨command, applied⟩
    rcases applyCommand_cases applied with rfl | ⟨body, -, transition, -⟩
    · exact ih member
    · rcases transition.delta_lawful member with earlier | ⟨-, lawful⟩
      · obtain ⟨before, committed, lawful⟩ := ih earlier
        exact ⟨before, committed.further (.single lastStep), lawful⟩
      · exact ⟨middle, ⟨run, lawful.position.symm, lawful.fresh, last, lastStep, member, .refl⟩, lawful⟩

theorem SemanticDelta.isWarranted_iff (reached : Reachable state) (member : delta ∈ state.semanticDeltas) :
    delta.IsWarranted state ↔ delta.listsCovered := by
  constructor
  · intro warranted
    constructor
    · intro structureId listed
      obtain ⟨change, owned, rfl, -⟩ := warranted.reopened structureId listed
      exact List.mem_map_of_mem owned
    · intro structureId listed
      obtain ⟨change, owned, rfl, -⟩ := warranted.retired structureId listed
      exact List.mem_map_of_mem owned
  · rintro ⟨reopened, retired⟩
    obtain ⟨before, committed, lawful⟩ := committed_lawful reached member
    refine ⟨?_, ?_, before, committed, lawful.active⟩
    · intro structureId listed
      obtain ⟨change, owned, rfl⟩ := List.mem_map.mp (reopened listed)
      refine ⟨change, owned, rfl, ?_⟩
      rw [lawful.operations change owned, SemanticDelta.expectedOperation, if_pos listed]
    · intro structureId listed
      obtain ⟨change, owned, rfl⟩ := List.mem_map.mp (retired listed)
      refine ⟨change, owned, rfl, ?_⟩
      -- a structure is not reopened and retired by one delta
      have notReopened : change.changeId ∉ delta.reopenedStructureIds :=
        fun reopenedToo => delta.reopened_not_retired _ reopenedToo listed
      rw [lawful.operations change owned, SemanticDelta.expectedOperation, if_neg notReopened, if_pos listed]

theorem deltas_covered (reached : ReachableUnder (fun _ command => command.body.commitsCovered) state) :
    ∀ delta ∈ state.semanticDeltas, delta.listsCovered := by
  induction reached with
  | refl => simp [initialState]
  | tail _ step ih =>
    rename_i middle last
    obtain ⟨command, covered, applied⟩ := step
    rcases applyCommand_cases applied with rfl | ⟨body, decided, transition, -⟩
    · exact ih
    · intro delta member
      rcases transition.delta_lawful member with earlier | ⟨rfl, -⟩
      · exact ih delta earlier
      · rw [(decideBody_proposed decided).probe_command.1] at covered
        simpa [ProbeDomainEvent.command, CommandBody.commitsCovered] using covered

/-- In every run whose commits cover their structure lists, every committed delta is warranted; and a delta
of any reachable state is warranted exactly when its lists are covered. -/
theorem semanticDeltas_warranted :
    (∀ state, ReachableUnder (fun _ command => command.body.commitsCovered) state → ∀ delta ∈ state.semanticDeltas, delta.IsWarranted state) ∧
      ∀ state, Reachable state → ∀ delta ∈ state.semanticDeltas, (delta.IsWarranted state ↔ delta.listsCovered) := by
  constructor
  · intro state reached delta member
    exact (SemanticDelta.isWarranted_iff reached.reachable member).mpr (deltas_covered reached delta member)
  · intro state reached delta member
    exact SemanticDelta.isWarranted_iff reached member

end

/-! Two deltas over one reconstruction of the worked inquiry: one retires a structure by a warranted change,
the other only lists it. -/

namespace Worked

def reconstruction : Reconstruction where
  id := "reconstruction"
  priorStateRevision := 0
  externalReturnId := "return-a"
  decodeOutcomeIds := ["decode-a"]
  reconstructedSequence := 17

def retirement : WarrantedChange where
  changeId := "structure"
  propositionId := "a"
  scopeFingerprint := scope.fingerprint
  operation := .retire
  warrantLemmaId := "lemma-a"

def retiringDelta (changes : List WarrantedChange) (unique : (changes.map WarrantedChange.changeId).Nodup) :
    SemanticDelta where
  id := "delta"
  reconstructionId := "reconstruction"
  warrantedChanges := changes
  retiredStructureIds := ["structure"]
  committedSequence := 18
  changes_unique := unique

def reconstructed : List CommandBody :=
  promoted ++ planned ++ acceptance "a" "result-a" ++ [.probe (.recordReconstruction reconstruction)]

/-- The structure is retired by the change that names it. -/
def warrantedRetirement : List CommandBody :=
  reconstructed ++ [.probe (.commitSemanticDelta (retiringDelta [retirement] (by decide)))]

/-- The structure is listed as retired, and no change names it. -/
def bareRetirement : List CommandBody :=
  reconstructed ++ [.probe (.commitSemanticDelta (retiringDelta [] (by decide)))]

theorem warrantedRetirement_warranted :
    retiringDelta [retirement] (by decide) ∈
        (reachedUnder (fun _ command => command.body.commitsCovered) warrantedRetirement).semanticDeltas ∧
      (retiringDelta [retirement] (by decide)).IsWarranted
        (reachedUnder (fun _ command => command.body.commitsCovered) warrantedRetirement) := by
  have member : retiringDelta [retirement] (by decide) ∈
      (reachedUnder (fun _ command => command.body.commitsCovered) warrantedRetirement).semanticDeltas := by
    decide +kernel
  exact ⟨member, semanticDeltas_warranted.1 _ (reachableUnder_reachedUnder _ _) _ member⟩

theorem bareRetirement_unwarranted :
    ¬ ∀ state, Reachable state → ∀ delta ∈ state.semanticDeltas, delta.IsWarranted state := by
  intro claimed
  have member : retiringDelta [] (by decide) ∈ (reached bareRetirement).semanticDeltas := by decide +kernel
  obtain ⟨change, owned, -⟩ := (claimed _ (reachable_reached bareRetirement) _ member).retired "structure" (by decide)
  simp [retiringDelta] at owned

end Worked

end RatchetingInquiry
