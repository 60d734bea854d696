import RatchetingInquiry.Invariants.Theory

/-! Modal claims and the attacks on them. An attack is derived when a claim is admitted, unless an active
lemma discharges it or an obligation with its fingerprint is owned. Later steps may take the lemma away, and
the fingerprint does not see the carrier, so a claim can be left without an attack. -/

namespace RatchetingInquiry

/-- The claim calls for falsification: its role is modal and it is not a denial. -/
def Claim.isAttackable (claim : Claim) : Bool :=
  (attackByRole claim.role).isSome && claim.polarity ≠ .negative

/-- The command can take a lemma out of the current theory. -/
def CommandBody.demotes : CommandBody → Bool
  | .claim (.changeGuardStanding change) => change.standing = .invalidated
  | .warrant (.recordNogood _) => true
  | .warrant (.changeSupportRouteStanding change) => change.standing = .withdrawn
  | .warrant (.changeNogoodStanding change) => change.standing = .standing
  | _ => false

section
variable [Fingerprints]

/-- The records own an obligation of the attack kind of the claim's role about its proposition (the claim
itself when it names none), in the claim's scope. -/
def ClaimRecords.attacks (records : ClaimRecords) (claim : Claim) : Bool :=
  records.obligations.any (fun obligation => attackByRole claim.role = some obligation.kind &&
    obligation.carrierId = claim.propositionId.getD claim.id &&
    obligation.scope.fingerprint = claim.scope.fingerprint)

/-- A lemma of the current theory has the claim's proposition and scope. -/
def DischargedBy (state : InquiryState) (claim : Claim) : Prop :=
  ∃ version ∈ state.lemmaVersions, version.id ∈ state.activeLemmaIds ∧
    claim.propositionId = some version.relationId ∧ version.scope.fingerprint = claim.scope.fingerprint

/-- Every claim that calls for an attack is under one, or discharged by the current theory. -/
def ClaimsAttacked (state : InquiryState) : Prop :=
  ∀ claim ∈ state.claims, claim.isAttackable = true → DischargedBy state claim ∨ state.attacks claim = true

/-- The attack of an admitted claim is not hidden by an obligation about another carrier, and a lemma leaves
the current theory only while every claim is under its own attack. -/
def keepsAttacks (state : InquiryState) (command : DomainCommand) : Bool :=
  match command.body with
  | .claim (.admitClaim claim) => !claim.isAttackable || (claim.propositionId ≠ some "" &&
      ((mandatoryAttackObligation claim).all (fun attack =>
        attack.fingerprint ∉ state.obligations.map Obligation.fingerprint) || state.attacks claim))
  | body => !body.demotes || state.claims.all (fun claim => !claim.isAttackable || state.attacks claim)

variable {before after : InquiryState} {claim : Claim}

theorem ClaimRecords.attacks_grown {earlier later : ClaimRecords} (grown : earlier.obligations ⊆ later.obligations)
    (attacked : earlier.attacks claim = true) : later.attacks claim = true := by
  simp only [ClaimRecords.attacks, List.any_eq_true] at attacked ⊢
  obtain ⟨obligation, owned, matching⟩ := attacked
  exact ⟨obligation, grown owned, matching⟩

theorem claimAttackIsExactlyDischarged_iff {state : InquiryState} :
    claimAttackIsExactlyDischarged state claim = true ↔ DischargedBy state claim := by
  unfold claimAttackIsExactlyDischarged DischargedBy
  cases named : claim.propositionId with
  | none => simp
  | some propositionId =>
    simp only [List.any_eq_true, Bool.and_eq_true, decide_eq_true_eq, Option.some.injEq]
    constructor
    · rintro ⟨version, owned, ⟨active, relation⟩, scope⟩
      exact ⟨version, owned, active, relation.symm, scope⟩
    · rintro ⟨version, owned, active, relation, scope⟩
      exact ⟨version, owned, ⟨active, relation.symm⟩, scope⟩

omit [Fingerprints] in
theorem attackCarrier_eq (named : claim.propositionId ≠ some "") :
    claim.attackCarrier = claim.propositionId.getD claim.id := by
  unfold Claim.attackCarrier
  cases proposition : claim.propositionId with
  | none => rfl
  | some propositionId =>
    have nonempty : propositionId ≠ "" := by
      rintro rfl
      exact named proposition
    exact if_neg nonempty

/-- The mandatory attack of a claim is about its own carrier, unless the claim names the empty proposition. -/
theorem mandatoryAttackObligation_eq_some (attackable : claim.isAttackable = true)
    (named : claim.propositionId ≠ some "") :
    ∃ attack, mandatoryAttackObligation claim = some attack ∧ attackByRole claim.role = some attack.kind ∧
      attack.carrierId = claim.propositionId.getD claim.id ∧ attack.scope = claim.scope := by
  simp only [Claim.isAttackable, Bool.and_eq_true, decide_eq_true_eq] at attackable
  obtain ⟨kind, attackKind⟩ := Option.isSome_iff_exists.mp attackable.1
  cases derived : mandatoryAttackObligation claim with
  | none => simp [mandatoryAttackObligation, attackKind, attackable.2] at derived
  | some attack =>
    simp only [mandatoryAttackObligation, attackKind, if_neg attackable.2, Option.some.injEq] at derived
    subst derived
    exact ⟨_, rfl, attackKind, attackCarrier_eq named, rfl⟩

/-- An admitted claim is discharged or gets its attack, unless an owned obligation has the attack's fingerprint. -/
theorem admitted_attacked (attackable : claim.isAttackable = true) (named : claim.propositionId ≠ some "")
    (visible : (mandatoryAttackObligation claim).all (fun attack =>
      attack.fingerprint ∉ before.obligations.map Obligation.fingerprint) = true)
    (undischarged : ¬ DischargedBy before claim) :
    ∃ attack ∈ derivedObligations before claim, attackByRole claim.role = some attack.kind ∧
      attack.carrierId = claim.propositionId.getD claim.id ∧ attack.scope = claim.scope := by
  obtain ⟨attack, derived, kind, carrier, scope⟩ := mandatoryAttackObligation_eq_some attackable named
  have pending : pendingAttack before claim = some attack := by
    rw [pendingAttack, if_neg (mt claimAttackIsExactlyDischarged_iff.mp undischarged), derived]
  refine ⟨attack, ?_, kind, carrier, scope⟩
  simp only [derivedObligations, List.mem_insertionSort, pending, Option.toList_some, List.singleton_append]
  apply freshBy_head
  simpa [derived] using visible

omit [Fingerprints] in
theorem supportKept_of_same (context : after.context = before.context)
    (warrants : after.toWarrantRecords = before.toWarrantRecords)
    (guards : after.guardChanges = before.guardChanges) : SupportKept before after := by
  have changes : after.supportRouteStandingChanges = before.supportRouteStandingChanges :=
    congrArg WarrantRecords.supportRouteStandingChanges warrants
  have nogoodChanges : after.nogoodStandingChanges = before.nogoodStandingChanges :=
    congrArg WarrantRecords.nogoodStandingChanges warrants
  have nogoods : after.nogoods = before.nogoods := congrArg WarrantRecords.nogoods warrants
  refine ⟨context, warrants ▸ before.toWarrantRecords.extends_refl, ?_, ?_, ?_⟩
  · rw [changes]
    exact fun _ stands => stands
  · rw [nogoods, nogoodChanges]
    exact fun nogood member stands => ⟨member, stands⟩
  · intro conditionId standing
    rw [ClaimRecords.mem_standingContextIds] at standing ⊢
    rw [guards]
    exact standing

omit [Fingerprints] in
theorem supportKept_guard {change : GuardChange} (standing : change.standing = .standing)
    (context : after.context = before.context) (warrants : after.toWarrantRecords = before.toWarrantRecords)
    (guards : after.guardChanges = before.guardChanges ++ [change]) : SupportKept before after := by
  have same : SupportKept before { after with guardChanges := before.guardChanges } :=
    supportKept_of_same context warrants rfl
  refine ⟨context, same.grown, same.routes, same.nogoods, ?_⟩
  intro conditionId stood
  rw [ClaimRecords.mem_standingContextIds] at stood ⊢
  rw [guards, indexBy_append_singleton]
  split
  next => exact ⟨change, rfl, standing⟩
  next => exact stood

omit [Fingerprints] in
/-- A warrant event keeps the support of active lemmas, unless the command it answers demotes. -/
theorem supportKept_warrant {event : WarrantEvent} (kept : (CommandBody.warrant event.command).demotes = false)
    (context : after.context = before.context) (claims : after.toClaimRecords = before.toClaimRecords)
    (records : after.toWarrantRecords = before.toWarrantRecords.apply event) : SupportKept before after := by
  have grown : before.toWarrantRecords.Extends after.toWarrantRecords := records ▸ before.toWarrantRecords.extends_apply event
  have contexts : before.standingContextIds ⊆ after.standingContextIds := by
    rw [claims]
    exact List.Subset.refl _
  have changes : after.supportRouteStandingChanges = (before.toWarrantRecords.apply event).supportRouteStandingChanges :=
    congrArg WarrantRecords.supportRouteStandingChanges records
  have nogoodChanges : after.nogoodStandingChanges = (before.toWarrantRecords.apply event).nogoodStandingChanges :=
    congrArg WarrantRecords.nogoodStandingChanges records
  have nogoods : after.nogoods = (before.toWarrantRecords.apply event).nogoods := congrArg WarrantRecords.nogoods records
  refine ⟨context, grown, ?_, ?_, contexts⟩
  · intro routeId stands
    rw [changes]
    cases event with
    | supportRouteStandingChanged change =>
      have restored : change.standing = .standing := by
        cases standing : change.standing with
        | standing => rfl
        | withdrawn => simp [WarrantEvent.command, CommandBody.demotes, standing] at kept
      simp only [WarrantRecords.apply, routeStands, indexBy_append_singleton]
      split
      next => simp [restored]
      next => exact stands
    | _ => exact stands
  · rw [nogoods, nogoodChanges]
    cases event with
    | nogoodRecorded nogood => simp [WarrantEvent.command, CommandBody.demotes] at kept
    | nogoodStandingChanged change =>
      have withdrawn : change.standing = .withdrawn := by
        cases standing : change.standing with
        | withdrawn => rfl
        | standing => simp [WarrantEvent.command, CommandBody.demotes, standing] at kept
      intro nogood member stands
      refine ⟨member, ?_⟩
      simp only [WarrantRecords.apply, nogoodStands, indexBy_append_singleton] at stands
      split at stands
      next => simp [withdrawn] at stands
      next => exact stands
    | _ => exact fun nogood member stands => ⟨member, stands⟩

/-- A step keeps the support of active lemmas, unless it starts the inquiry or demotes. -/
theorem supportKept_step {head : EventMetadata} {command : CommandBody} {body : EventBody}
    (proposed : Proposed before head.inquiryId command body) (transition : Transition before head body after)
    (kept : command.demotes = false) : before.status = .notStarted ∨ SupportKept before after := by
  cases proposed with
  | started _ _ _ unstarted => exact .inl unstarted
  | effect => cases transition; exact .inr (supportKept_of_same rfl rfl rfl)
  | claim claimCommand event _ lawful =>
    have rebuilt := decideClaim_command claimCommand _ lawful event rfl
    subst rebuilt
    cases transition
    cases event with
    | guardStandingChanged change =>
      have standing : change.standing = .standing := by
        cases guard : change.standing with
        | standing => rfl
        | invalidated => simp [ClaimEvent.command, CommandBody.demotes, guard] at kept
      exact .inr (supportKept_guard standing rfl rfl rfl)
    | _ => exact .inr (supportKept_of_same rfl rfl rfl)
  | warrant warrantCommand event _ lawful =>
    have keptEvent : (CommandBody.warrant event.command).demotes = false := by
      rcases decideWarrant_command lawful with rebuilt | ⟨_, _, _, _, -, rfl⟩
      · rw [rebuilt]
        exact kept
      · rfl
    cases transition
    exact .inr (supportKept_warrant keptEvent rfl rfl rfl)
  | probe => cases transition; exact .inr (supportKept_of_same rfl rfl rfl)
  | memory _ event => cases transition; cases event <;> exact .inr (supportKept_of_same rfl rfl rfl)
  | learning _ event => cases transition; cases event <;> exact .inr (supportKept_of_same rfl rfl rfl)
  | compression => cases transition; exact .inr (supportKept_of_same rfl rfl rfl)
  | project => cases transition; exact .inr (supportKept_of_same rfl rfl rfl)

omit [Fingerprints] in
theorem ClaimRecords.obligations_apply (records : ClaimRecords) (event : ClaimEvent) :
    records.obligations ⊆ (records.apply event).obligations := by
  cases event <;> simp [ClaimRecords.apply]

/-- A claim that was recorded before a step stays attacked or discharged, unless the step demotes. -/
theorem recorded_attacked {head : EventMetadata} {command : CommandBody} {body : EventBody}
    (replayed : Replayable before) (valid : AggregateValid after)
    (proposed : Proposed before head.inquiryId command body) (transition : Transition before head body after)
    (kept : command.demotes = false ∨ before.attacks claim = true) (recorded : claim ∈ before.claims)
    (attacked : DischargedBy before claim ∨ before.attacks claim = true) :
    DischargedBy after claim ∨ after.attacks claim = true := by
  have running : before.status ≠ .notStarted := by
    intro unstarted
    rw [replayed.unstarted_eq_initial unstarted] at recorded
    simp [initialState] at recorded
  have grown : before.obligations ⊆ after.obligations := by
    rcases transition.claimView with ⟨unstarted, -⟩ | ⟨-, records⟩ | ⟨event, -, -, -, -, -, -, records⟩ | ⟨-, -, overflow, records⟩
    · exact absurd unstarted running
    · rw [records]
      exact List.Subset.refl _
    · rw [records]
      exact ClaimRecords.obligations_apply _ event
    · rw [records]
      exact List.Subset.refl _
  rcases attacked with ⟨version, owned, active, relation, scope⟩ | attacked
  · rcases kept with peaceful | attacked
    · rcases supportKept_step proposed transition peaceful with unstarted | support
      · exact absurd unstarted running
      · have stillActive := activeLemmaIds_kept replayed.aggregateValid valid support active
        exact .inl ⟨version, support.grown.versions.subset owned, stillActive, relation, scope⟩
    · exact .inr (ClaimRecords.attacks_grown grown attacked)
  · exact .inr (ClaimRecords.attacks_grown grown attacked)

/-- The claims of the later state are the earlier ones, and the one that the step admits. -/
theorem claims_step {head : EventMetadata} {body : EventBody} (transition : Transition before head body after)
    (recorded : claim ∈ after.claims) : claim ∈ before.claims ∨
      ∃ conflicts obligations, body = .claim (.claimAdmitted claim conflicts obligations) := by
  rcases transition.claimView with ⟨-, records⟩ | ⟨-, records⟩ | ⟨event, -, body_is, -, -, -, -, records⟩ | ⟨-, -, overflow, records⟩
  · rw [records] at recorded
    simp at recorded
  · rw [records] at recorded
    exact .inl recorded
  · rw [records] at recorded
    cases event with
    | claimAdmitted admitted conflicts obligations =>
      simp only [ClaimRecords.apply, List.mem_append, List.mem_singleton] at recorded
      rcases recorded with earlier | rfl
      · exact .inl earlier
      · exact .inr ⟨conflicts, obligations, body_is⟩
    | _ => exact .inl recorded
  · rw [records] at recorded
    exact .inl recorded

/-- A claim that a step admits is attacked or discharged, if no obligation hides its attack. -/
theorem newcomer_attacked {head : EventMetadata} {command : CommandBody} {conflicts : List Conflict}
    {obligations : List Obligation} (replayed : Replayable before) (valid : AggregateValid after)
    (keeps : keepsAttacks before ⟨head, command⟩ = true)
    (proposed : Proposed before head.inquiryId command (.claim (.claimAdmitted claim conflicts obligations)))
    (transition : Transition before head (.claim (.claimAdmitted claim conflicts obligations)) after)
    (attackable : claim.isAttackable = true) : DischargedBy after claim ∨ after.attacks claim = true := by
  cases proposed with
  | claim claimCommand _ _ lawful =>
    have rebuilt := decideClaim_command claimCommand _ lawful _ rfl
    subst rebuilt
    obtain ⟨-, -, derived⟩ := ClaimEvent.claimAdmitted.inj (admitClaim_event lawful)
    have support : SupportKept before after := by
      cases transition
      exact supportKept_of_same rfl rfl rfl
    have records : after.obligations = before.obligations ++ obligations := by
      cases transition
      rfl
    simp only [keepsAttacks, ClaimEvent.command, attackable, Bool.not_true, Bool.false_or, Bool.and_eq_true,
      Bool.or_eq_true, decide_eq_true_eq] at keeps
    obtain ⟨named, visible | attacked⟩ := keeps
    · by_cases discharged : DischargedBy before claim
      · obtain ⟨version, owned, active, relation, scope⟩ := discharged
        have stillActive := activeLemmaIds_kept replayed.aggregateValid valid support active
        exact .inl ⟨version, support.grown.versions.subset owned, stillActive, relation, scope⟩
      · obtain ⟨attack, pending, kind, carrier, scope⟩ := admitted_attacked attackable named visible discharged
        right
        simp only [ClaimRecords.attacks, List.any_eq_true, Bool.and_eq_true, decide_eq_true_eq]
        refine ⟨attack, ?_, ⟨kind, carrier⟩, by rw [scope]⟩
        rw [records, derived]
        exact List.mem_append_right _ pending
    · refine .inr (ClaimRecords.attacks_grown ?_ attacked)
      rw [records]
      exact List.subset_append_left _ _

/-- One step keeps every claim attacked or discharged. -/
theorem claimsAttacked_step {command : DomainCommand} (replayed : Replayable before)
    (attacked : ClaimsAttacked before) (keeps : keepsAttacks before command = true)
    (applied : applyCommand before command = .ok after) : ClaimsAttacked after := by
  rcases applyCommand_cases applied with rfl | ⟨body, decided, transition, valid⟩
  · exact attacked
  · have proposed := decideBody_proposed decided
    intro claim recorded attackable
    rcases claims_step transition recorded with earlier | ⟨conflicts, obligations, rfl⟩
    · refine recorded_attacked replayed valid proposed transition ?_ earlier (attacked claim earlier attackable)
      unfold keepsAttacks at keeps
      split at keeps
      next admission => exact .inl (by rw [admission]; rfl)
      next =>
        simp only [Bool.or_eq_true, Bool.not_eq_true', List.all_eq_true] at keeps
        refine keeps.imp_right (fun all => (all claim earlier).resolve_left ?_)
        simp [attackable]
    · exact newcomer_attacked replayed valid keeps proposed transition attackable

/-- Every modal claim is under attack or discharged, in every run whose commands neither hide an attack
nor take a lemma away from under a claim. -/
theorem claims_attacked {state : InquiryState}
    (reached : ReachableUnder (fun state command => keepsAttacks state command) state) : ClaimsAttacked state := by
  induction reached with
  | refl =>
    intro claim recorded
    simp [initialState] at recorded
  | tail run step ih =>
    obtain ⟨command, keeps, applied⟩ := step
    exact claimsAttacked_step (ReachableUnder.reachable run).replayable ih keeps applied

end

namespace Worked

/-- A claim that its proposition is necessary. -/
def necessity (id proposition : String) : CommandBody :=
  .claim (.admitClaim { claim id proposition with role := .necessity })

/-- The claim that "a" is necessary is admitted while a lemma for "a" discharges it, and another that "c" is
necessary is admitted without one. -/
def assertedTwice : List CommandBody := promoted ++ [necessity "claim-n" "a", necessity "claim-m" "c"]

/-- The only route of the discharging lemma is withdrawn afterwards. -/
def deserted : List CommandBody :=
  assertedTwice ++ [.warrant (.changeSupportRouteStanding ⟨"change", "route-a", .withdrawn, "reason", none⟩)]

theorem assertedTwice_claims_attacked :
    ((reachedUnder keepsAttacks assertedTwice).claims.filter Claim.isAttackable).map Claim.id = ["claim-n", "claim-m"] ∧
      ClaimsAttacked (reachedUnder keepsAttacks assertedTwice) :=
  ⟨by decide +kernel, claims_attacked (reachableUnder_reachedUnder keepsAttacks assertedTwice)⟩

theorem deserted_not_claimsAttacked : ¬ ∀ state, Reachable state → ClaimsAttacked state := by
  intro claimed
  have attackable : ∃ claim ∈ (reached deserted).claims, claim.isAttackable = true ∧
      (reached deserted).attacks claim = false ∧ claimAttackIsExactlyDischarged (reached deserted) claim = false := by
    decide +kernel
  obtain ⟨claim, recorded, attackable, unattacked, undischarged⟩ := attackable
  rcases claimed _ (reachable_reached deserted) claim recorded attackable with discharged | attacked
  · rw [claimAttackIsExactlyDischarged_iff.mpr discharged] at undischarged
    simp at undischarged
  · rw [unattacked] at attacked
    simp at attacked

end Worked

end RatchetingInquiry
