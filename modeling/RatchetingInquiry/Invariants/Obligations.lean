import Mathlib.Data.List.Chain
import RatchetingInquiry.Core.Rebuild
import RatchetingInquiry.Invariants.AppendOnly
import RatchetingInquiry.Invariants.Warrants

/-! The dispositions of obligations. Histories of many obligations interleave in one list; each of them is a
chain of lawful status changes, and what satisfied an obligation stays on record. -/

namespace RatchetingInquiry

/-- The statuses that a disposition may give an obligation of this status. -/
def ObligationStatus.mayBecome : ObligationStatus → List ObligationStatus
  | .opened => [.blocked, .satisfied, .unknown]
  | .blocked => [.opened, .satisfied, .unknown]
  | .unknown => [.opened]
  | .satisfied => [.opened]
  | .impossible => []

/-- The dispositions of one obligation, in the order of their recording. -/
def ClaimRecords.dispositionsOf (records : ClaimRecords) (obligationId : String) : List ObligationDisposition :=
  records.obligationDispositions.filter (fun item => item.obligationId = obligationId)

/-- One chain from no predecessor on, through lawful statuses from the open one on. -/
structure LawfulHistory (history : List ObligationDisposition) : Prop where
  first : ∀ disposition ∈ history.head?, disposition.predecessorId = none
  linked : history.IsChain (fun earlier later => later.predecessorId = some earlier.id)
  statuses : (ObligationStatus.opened :: history.map (·.status)).IsChain (fun earlier later => later ∈ earlier.mayBecome)

section
variable [Fingerprints]

/-- A hard decision about the carrier of the obligation, within its scope. -/
def HardDecisionFor (warrants : WarrantRecords) (obligation : Obligation) (reference : String) : Prop :=
  ∃ decision ∈ warrants.warrantDecisions, decision.id = reference ∧ decision.warrantClass = .hard ∧
    decision.propositionId = obligation.carrierId ∧ decision.scopeFingerprint = obligation.scope.fingerprint

/-- The accepted decode of a request whose ready plan selected the obligation. -/
def AcceptedDecodeFor (effects : EffectRecords) (obligation : Obligation) (reference : String) : Prop :=
  ∃ request ∈ effects.effectRequests, request.acceptedDecodedOutcomeId = some reference ∧
    ∃ plan ∈ effects.stepPlans, plan.id = request.request.stepPlanId ∧ plan.selects obligation = true

/-- What satisfies an obligation. -/
def EvidenceFor (state : InquiryState) (obligation : Obligation) (reference : String) : Prop :=
  HardDecisionFor state.toWarrantRecords obligation reference ∨ AcceptedDecodeFor state.toEffectRecords obligation reference

/-- The obligations of a reachable state and their dispositions. -/
structure DispositionsLawful (state : InquiryState) : Prop where
  opened : ∀ obligation ∈ state.obligations, obligation.status = .opened
  owned : ∀ disposition ∈ state.obligationDispositions, disposition.obligationId ∈ state.obligations.map Obligation.id
  histories : ∀ obligation ∈ state.obligations, LawfulHistory (state.dispositionsOf obligation.id)
  evidenced : ∀ obligation ∈ state.obligations, ∀ disposition ∈ state.dispositionsOf obligation.id,
    disposition.status = .satisfied →
      disposition.evidenceRefs ≠ [] ∧ ∀ reference ∈ disposition.evidenceRefs, EvidenceFor state obligation reference

omit [Fingerprints] in
theorem LawfulHistory.extended {history : List ObligationDisposition} {disposition : ObligationDisposition}
    (lawful : LawfulHistory history) (tail : disposition.predecessorId = history.getLast?.map (·.id))
    (follows : disposition.status ∈ ((history.getLast?.map ObligationDisposition.status).getD .opened).mayBecome) :
    LawfulHistory (history ++ [disposition]) := by
  refine ⟨?_, ?_, ?_⟩
  · cases history with
    | nil => simpa using tail
    | cons first rest => simpa using lawful.first
  · refine List.isChain_append.mpr ⟨lawful.linked, List.isChain_singleton _, ?_⟩
    intro last isLast
    simp only [List.head?_cons, Option.mem_def, Option.some.injEq, forall_eq']
    rw [tail, isLast]
    rfl
  · rw [List.map_append, ← List.cons_append]
    refine List.isChain_append.mpr ⟨lawful.statuses, List.isChain_singleton _, ?_⟩
    intro last isLast
    simp only [List.map_cons, List.map_nil, List.head?_cons, Option.mem_def, Option.some.injEq, forall_eq']
    obtain rfl : (history.getLast?.map (·.status)).getD .opened = last := by
      rw [Option.mem_def, List.getLast?_cons, List.getLast?_map, Option.some.injEq] at isLast
      exact isLast
    exact follows

omit [Fingerprints] in
theorem LawfulHistory.nil : LawfulHistory [] :=
  ⟨by simp, List.isChain_nil, List.isChain_singleton _⟩

omit [Fingerprints] in
theorem statuses_possible {current : ObligationStatus} {statuses : List ObligationStatus}
    (chain : (current :: statuses).IsChain (fun earlier later => later ∈ earlier.mayBecome)) :
    .impossible ∉ statuses := by
  induction statuses generalizing current with
  | nil => simp
  | cons first rest ih =>
    rw [List.isChain_cons_cons] at chain
    have possible : first ≠ .impossible := by
      rintro rfl
      cases current <;> simp [ObligationStatus.mayBecome] at chain
    simp only [List.mem_cons, not_or]
    exact ⟨possible.symm, ih chain.2⟩

omit [Fingerprints] in
theorem LawfulHistory.possible {history : List ObligationDisposition} (lawful : LawfulHistory history) :
    ∀ disposition ∈ history, disposition.status ≠ .impossible := by
  intro disposition member same
  exact statuses_possible lawful.statuses (same ▸ List.mem_map_of_mem member)

variable {before after : InquiryState}

/-- What satisfies an obligation stays on record. -/
theorem EvidenceFor.kept {obligation : Obligation} {reference : String} (evidenced : EvidenceFor before obligation reference)
    (decisions : before.warrantDecisions ⊆ after.warrantDecisions) (plans : before.stepPlans ⊆ after.stepPlans)
    (requests : EffectsContinue before.toEffectRecords after.toEffectRecords) : EvidenceFor after obligation reference := by
  rcases evidenced with ⟨decision, owned, facts⟩ | ⟨request, owned, accepted, plan, planned, selected⟩
  · exact .inl ⟨decision, decisions owned, facts⟩
  · obtain ⟨next, nextOwned, continued⟩ := requests request owned
    refine .inr ⟨next, nextOwned, continued.accepted reference accepted, plan, plans planned, ?_⟩
    rw [continued.request]
    exact selected

/-- The references that a satisfying disposition may cite. -/
theorem evidenceFor_of_cited {obligation : Obligation} {reference : String}
    (cited : reference ∈ hardDecisionIds before.toWarrantRecords obligation ++
      acceptedDecodeIds before.toEffectRecords obligation) : EvidenceFor before obligation reference := by
  rcases List.mem_append.mp cited with hard | decoded
  · simp only [hardDecisionIds, List.mem_map, List.mem_filter, Bool.and_eq_true, decide_eq_true_eq] at hard
    obtain ⟨decision, ⟨owned, ⟨hard, carrier⟩, scope⟩, rfl⟩ := hard
    exact .inl ⟨decision, owned, rfl, hard, carrier, scope⟩
  · simp only [acceptedDecodeIds, List.mem_filterMap] at decoded
    obtain ⟨request, owned, accepted⟩ := decoded
    split at accepted
    next planned =>
      obtain ⟨plan, hit, selects⟩ := Option.any_eq_true _ _ |>.mp planned
      have named : plan.id = request.request.stepPlanId := by simpa using List.find?_some hit
      exact .inr ⟨request, owned, accepted, plan, List.mem_of_find?_eq_some hit, named, selects⟩
    next => simp at accepted

/-- What a disposition that is recorded was checked for. -/
theorem disposition_lawful {disposition : ObligationDisposition}
    (lawful : decideClaim before (.recordObligationDisposition disposition) =
      .ok (some (.obligationDispositionRecorded disposition))) :
    ∃ obligation, before.obligationById disposition.obligationId = some obligation ∧
      disposition.predecessorId = (before.dispositionsOf obligation.id).getLast?.map (·.id) ∧
      disposition.status ≠ .impossible ∧
      disposition.status ∈
        (((before.dispositionsOf obligation.id).getLast?.map (·.status)).getD obligation.status).lawfulNext ∧
      (disposition.status = .satisfied → disposition.evidenceRefs ≠ [] ∧
        ∀ reference ∈ disposition.evidenceRefs, EvidenceFor before obligation reference) := by
  simp only [decideClaim, decideObligationDisposition, found_bind_eq_ok, recordOnce_eq_some, require_bind_eq_ok, pure,
    Except.pure] at lawful
  obtain ⟨obligation, hit, -, tail, -, possible, evidenced, follows, -⟩ := lawful
  refine ⟨obligation, hit, tail, possible, follows, ?_⟩
  intro satisfied
  obtain ⟨nonempty, cited⟩ := evidenced satisfied
  exact ⟨nonempty, fun reference member => evidenceFor_of_cited (cited member)⟩

omit [Fingerprints] in
theorem mayBecome_of_lawfulNext {current next : ObligationStatus} (lawful : next ∈ current.lawfulNext)
    (possible : next ≠ .impossible) (standing : current ≠ .impossible) : next ∈ current.mayBecome := by
  cases current <;> cases next <;> simp_all [ObligationStatus.lawfulNext, ObligationStatus.mayBecome]

/-- Obligations that are added behind the owned ones begin open and without a history. -/
theorem DispositionsLawful.added {obligations : List Obligation} (lawful : DispositionsLawful before)
    (records : after.obligations = before.obligations ++ obligations)
    (dispositions : after.obligationDispositions = before.obligationDispositions)
    (opened : ∀ obligation ∈ obligations, obligation.status = .opened)
    (unique : (after.obligations.map Obligation.id).Nodup)
    (kept : ∀ obligation reference, EvidenceFor before obligation reference → EvidenceFor after obligation reference) :
    DispositionsLawful after := by
  have histories : ∀ obligationId, after.dispositionsOf obligationId = before.dispositionsOf obligationId := by
    intro obligationId
    simp only [ClaimRecords.dispositionsOf, dispositions]
  have untouched : ∀ obligation ∈ obligations, before.dispositionsOf obligation.id = [] := by
    intro obligation member
    rw [ClaimRecords.dispositionsOf, List.filter_eq_nil_iff]
    intro disposition recorded
    simp only [decide_eq_true_eq]
    intro named
    rw [records, List.map_append] at unique
    exact (List.nodup_append.mp unique).2.2 _ (lawful.owned disposition recorded) _
      (List.mem_map_of_mem member) named
  refine ⟨?_, ?_, ?_, ?_⟩
  · intro obligation member
    rw [records] at member
    rcases List.mem_append.mp member with earlier | new
    · exact lawful.opened obligation earlier
    · exact opened obligation new
  · intro disposition recorded
    rw [dispositions] at recorded
    rw [records, List.map_append]
    exact List.mem_append_left _ (lawful.owned disposition recorded)
  · intro obligation member
    rw [histories]
    rw [records] at member
    rcases List.mem_append.mp member with earlier | new
    · exact lawful.histories obligation earlier
    · rw [untouched obligation new]
      exact .nil
  · intro obligation member disposition recorded satisfied
    rw [histories] at recorded
    rw [records] at member
    rcases List.mem_append.mp member with earlier | new
    · obtain ⟨nonempty, evidenced⟩ := lawful.evidenced obligation earlier disposition recorded satisfied
      exact ⟨nonempty, fun reference cited => kept obligation reference (evidenced reference cited)⟩
    · rw [untouched obligation new] at recorded
      simp at recorded

/-- A recorded disposition extends the history of its own obligation and no other. -/
theorem DispositionsLawful.disposed {disposition : ObligationDisposition} (lawful : DispositionsLawful before)
    (decided : decideClaim before (.recordObligationDisposition disposition) =
      .ok (some (.obligationDispositionRecorded disposition)))
    (obligations : after.obligations = before.obligations)
    (dispositions : after.obligationDispositions = before.obligationDispositions ++ [disposition])
    (unique : (after.obligations.map Obligation.id).Nodup)
    (kept : ∀ obligation reference, EvidenceFor before obligation reference → EvidenceFor after obligation reference) :
    DispositionsLawful after := by
  obtain ⟨target, hit, tail, possible, follows, evidenced⟩ := disposition_lawful decided
  have targetOwned : target ∈ before.obligations := List.mem_of_find?_eq_some hit
  have named : target.id = disposition.obligationId := by simpa using List.find?_some hit
  have own : after.dispositionsOf target.id = before.dispositionsOf target.id ++ [disposition] := by
    simp [ClaimRecords.dispositionsOf, dispositions, named]
  have others : ∀ obligation ∈ before.obligations, obligation.id ≠ target.id →
      after.dispositionsOf obligation.id = before.dispositionsOf obligation.id := by
    intro obligation _ other
    have unnamed : disposition.obligationId ≠ obligation.id := by
      rw [← named]
      exact other.symm
    simp [ClaimRecords.dispositionsOf, dispositions, unnamed]
  have extended : LawfulHistory (after.dispositionsOf target.id) := by
    have history := lawful.histories target targetOwned
    rw [own]
    refine history.extended tail ?_
    rw [lawful.opened target targetOwned] at follows
    refine mayBecome_of_lawfulNext follows possible ?_
    cases last : (before.dispositionsOf target.id).getLast? with
    | none => simp
    | some disposition => exact history.possible disposition (List.mem_of_getLast? last)
  rw [obligations] at unique
  refine ⟨?_, ?_, ?_, ?_⟩
  · rw [obligations]
    exact lawful.opened
  · rw [obligations, dispositions]
    intro item recorded
    rcases List.mem_append.mp recorded with earlier | new
    · exact lawful.owned item earlier
    · rw [List.mem_singleton.mp new, ← named]
      exact List.mem_map_of_mem targetOwned
  · rw [obligations]
    intro obligation member
    by_cases same : obligation.id = target.id
    · rw [same]
      exact extended
    · rw [others obligation member same]
      exact lawful.histories obligation member
  · rw [obligations]
    intro obligation member item recorded satisfied
    by_cases same : obligation.id = target.id
    · obtain rfl := List.inj_on_of_nodup_map unique member targetOwned same
      rw [own] at recorded
      rcases List.mem_append.mp recorded with earlier | new
      · obtain ⟨nonempty, cited⟩ := lawful.evidenced obligation member item earlier satisfied
        exact ⟨nonempty, fun reference listed => kept obligation reference (cited reference listed)⟩
      · rw [List.mem_singleton.mp new] at satisfied ⊢
        obtain ⟨nonempty, cited⟩ := evidenced satisfied
        exact ⟨nonempty, fun reference listed => kept obligation reference (cited reference listed)⟩
    · rw [others obligation member same] at recorded
      obtain ⟨nonempty, cited⟩ := lawful.evidenced obligation member item recorded satisfied
      exact ⟨nonempty, fun reference listed => kept obligation reference (cited reference listed)⟩

/-- The obligations that are derived for a claim begin open. -/
theorem derivedObligations_opened {claim : Claim} :
    ∀ obligation ∈ derivedObligations before claim, obligation.status = .opened := by
  intro obligation derived
  simp only [derivedObligations, List.mem_insertionSort] at derived
  rcases List.mem_append.mp (freshBy_subset derived) with attack | conflict
  · have attacks : mandatoryAttackObligation claim = some obligation := by
      simp only [pendingAttack, Option.mem_toList] at attack
      split at attack
      next => simp at attack
      next => exact attack
    unfold mandatoryAttackObligation at attacks
    split at attacks
    next => simp at attacks
    next =>
      split at attacks
      next => simp at attacks
      next =>
        rw [← Option.some.inj attacks]
  · obtain ⟨source, -, rfl⟩ := List.mem_map.mp conflict
    rfl

theorem openObligation_opened {obligation : Obligation} {event : ClaimEvent}
    (lawful : decideClaim before (.openObligation obligation) = .ok (some event)) : obligation.status = .opened := by
  simp only [decideClaim, decideOpenObligation] at lawful
  split at lawful
  next => split at lawful <;> simp at lawful
  next =>
    split at lawful
    next => simp [pure, Except.pure] at lawful
    next =>
      simp only [require_bind_eq_ok] at lawful
      exact lawful.1

theorem evidence_step {head : EventMetadata} {body : EventBody} (replayed : Replayable before)
    (transition : Transition before head body after) (valid : AggregateValid after) {obligation : Obligation}
    {reference : String} (evidenced : EvidenceFor before obligation reference) : EvidenceFor after obligation reference := by
  have fresh := replayed.unstarted_eq_initial
  have effects := transition.effectsAppended replayed.effectsSound fresh
  have records := transition.recordsAppended fresh
  have evolved : evolve before ⟨head, body⟩ = .ok after := evolve_eq_ok.mpr ⟨transition, valid⟩
  have continued := effectsContinue_run replayed (.single ⟨_, evolved⟩)
  refine evidenced.kept ?_ ?_ continued
  · rw [records.warrants]
    exact List.subset_append_left _ _
  · rw [show after.stepPlans = after.toEffectRecords.stepPlans from rfl, effects.plans]
    exact List.subset_append_left _ _

/-- One command keeps every history lawful and every satisfaction evidenced. -/
theorem dispositionsLawful_step {command : DomainCommand} (replayed : Replayable before)
    (lawful : DispositionsLawful before) (applied : applyCommand before command = .ok after) : DispositionsLawful after := by
  rcases applyCommand_cases applied with rfl | ⟨body, decided, transition, valid⟩
  · exact lawful
  · have kept : ∀ obligation reference, EvidenceFor before obligation reference → EvidenceFor after obligation reference :=
      fun _ _ => evidence_step replayed transition valid
    have unique : (after.obligations.map Obligation.id).Nodup :=
      valid.identities_unique _ (by simp [identifiedCollections])
    rcases (decideBody_proposed decided).claimStep transition with ⟨-, records⟩ | ⟨residuals, -, records⟩ |
      ⟨event, -, decidedEvent, -, records⟩
    · have obligations : after.obligations = [] := congrArg ClaimRecords.obligations records
      have dispositions : after.obligationDispositions = [] := congrArg ClaimRecords.obligationDispositions records
      constructor <;> simp [obligations, dispositions]
    · have obligations : after.obligations = before.obligations ++ [] := by
        simpa using congrArg ClaimRecords.obligations records
      have dispositions : after.obligationDispositions = before.obligationDispositions := by
        simpa using congrArg ClaimRecords.obligationDispositions records
      exact lawful.added obligations dispositions (by simp) unique kept
    · have obligations := congrArg ClaimRecords.obligations records
      have dispositions := congrArg ClaimRecords.obligationDispositions records
      cases event with
      | claimAdmitted claim conflicts derived =>
        obtain ⟨-, -, rfl⟩ := ClaimEvent.claimAdmitted.inj (admitClaim_event decidedEvent)
        exact lawful.added obligations dispositions derivedObligations_opened unique kept
      | obligationOpened obligation =>
        have opened := openObligation_opened decidedEvent
        exact lawful.added obligations dispositions (by simpa using opened) unique kept
      | obligationDispositionRecorded disposition =>
        exact lawful.disposed decidedEvent obligations dispositions unique kept
      | _ =>
        have same : after.obligations = before.obligations ++ [] := by
          simpa [ClaimRecords.apply] using obligations
        exact lawful.added same dispositions (by simp) unique kept

theorem Reachable.dispositionsLawful {state : InquiryState} (reached : Reachable state) : DispositionsLawful state := by
  induction reached with
  | refl => constructor <;> simp [initialState]
  | tail run step ih =>
    obtain ⟨command, applied⟩ := step
    exact dispositionsLawful_step (Reachable.replayable run) ih applied

/-- The dispositions of every obligation are one chain of lawful changes, and whatever satisfied it is and
stays a hard decision about it or the accepted decode of a request that was planned for it. -/
theorem dispositions_lawful {state later : InquiryState} (reached : Reachable state) (run : RunsTo state later)
    {obligation : Obligation} (owned : obligation ∈ state.obligations) :
    obligation.status = .opened ∧ LawfulHistory (state.dispositionsOf obligation.id) ∧
      ∀ disposition ∈ state.dispositionsOf obligation.id, disposition.status ≠ .impossible ∧
        (disposition.status = .satisfied → disposition.evidenceRefs ≠ [] ∧
          ∀ reference ∈ disposition.evidenceRefs, EvidenceFor later obligation reference) := by
  have lawful := reached.dispositionsLawful
  have later_lawful := Reachable.dispositionsLawful (Relation.ReflTransGen.trans reached run)
  obtain ⟨added, joined⟩ := records_joined reached.replayable run.eventRun
  have stillOwned : obligation ∈ later.obligations := by
    rw [joined.claims]
    exact List.mem_append_left _ owned
  refine ⟨lawful.opened obligation owned, lawful.histories obligation owned, ?_⟩
  intro disposition recorded
  refine ⟨(lawful.histories obligation owned).possible disposition recorded, ?_⟩
  have stillRecorded : disposition ∈ later.dispositionsOf obligation.id := by
    simp only [ClaimRecords.dispositionsOf, List.mem_filter] at recorded ⊢
    rw [joined.claims]
    exact ⟨List.mem_append_left _ recorded.1, recorded.2⟩
  exact later_lawful.evidenced obligation stillOwned disposition stillRecorded

end

namespace Worked

/-- The obligation is satisfied by the decode that was accepted for it, and reopened. -/
def satisfiedOnce : InquiryState :=
  further acceptedOnce [.claim (.recordObligationDisposition
    ⟨"disposition-a", "obligation", .satisfied, "answered", ["decode-a"], none⟩)]

def reopened : InquiryState :=
  further satisfiedOnce [.claim (.recordObligationDisposition
    ⟨"disposition-b", "obligation", .opened, "questioned", [], some "disposition-a"⟩)]

theorem satisfiedOnce_lawful :
    ((satisfiedOnce.dispositionsOf "obligation").map (·.status) = [.satisfied] ∧
      (reopened.dispositionsOf "obligation").map (·.status) = [.satisfied, .opened]) ∧
    LawfulHistory (satisfiedOnce.dispositionsOf "obligation") ∧
      ∀ disposition ∈ satisfiedOnce.dispositionsOf "obligation", disposition.status = .satisfied →
        ∀ reference ∈ disposition.evidenceRefs, EvidenceFor reopened openQuestion reference := by
  have owned : openQuestion ∈ satisfiedOnce.obligations := by decide +kernel
  have reached : Reachable satisfiedOnce := (reachable_reached _).trans (runsTo_further _ _)
  have run : RunsTo satisfiedOnce reopened := runsTo_further _ _
  have lawful := dispositions_lawful reached run owned
  refine ⟨by decide +kernel, lawful.2.1, ?_⟩
  intro disposition recorded satisfied
  exact ((lawful.2.2 disposition recorded).2 satisfied).2

end Worked

end RatchetingInquiry
