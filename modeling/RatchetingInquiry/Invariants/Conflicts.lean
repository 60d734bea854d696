import RatchetingInquiry.Invariants.Obligations
import RatchetingInquiry.Invariants.Scopes

/-! Conflicts between claims. They are derived when a claim is admitted, against all earlier claims, and
deduplicated by identities and fingerprints that are hashes: without collisions among what a state hashes,
the recorded conflicts are exactly those between its claims. -/

namespace RatchetingInquiry

/-- The identities of two claims, in order. -/
def Claim.pair (left right : Claim) : String × String :=
  if left.id ≤ right.id then (left.id, right.id) else (right.id, left.id)

theorem Claim.pair_comm (left right : Claim) : left.pair right = right.pair left := by
  unfold Claim.pair
  by_cases ascending : left.id ≤ right.id
  · by_cases descending : right.id ≤ left.id
    · rw [le_antisymm ascending descending]
    · rw [if_pos ascending, if_neg descending]
  · rw [if_neg ascending, if_pos (le_of_not_ge ascending)]

/-- Equal pairs name the same two claims. -/
theorem Claim.pair_eq {first second third fourth : Claim} (same : first.pair second = third.pair fourth) :
    (first.id = third.id ∧ second.id = fourth.id) ∨ (first.id = fourth.id ∧ second.id = third.id) := by
  unfold Claim.pair at same
  split at same
  next =>
    split at same
    next => exact .inl (Prod.mk.inj same)
    next => exact .inr (Prod.mk.inj same)
  next =>
    split at same
    next =>
      obtain ⟨left, right⟩ := Prod.mk.inj same
      exact .inr ⟨right, left⟩
    next =>
      obtain ⟨left, right⟩ := Prod.mk.inj same
      exact .inl ⟨right, left⟩

/-- One claim asserts what the other denies: the same proposition, in the same role, of the same arguments
and in the same scope. -/
def Claim.Opposes (left right : Claim) : Prop :=
  left.propositionId.isSome ∧ left.propositionId = right.propositionId ∧ left.role = right.role ∧
    left.boundArgs = right.boundArgs ∧ left.scope = right.scope ∧
    ((left.polarity = .positive ∧ right.polarity = .negative) ∨
      (left.polarity = .negative ∧ right.polarity = .positive))

section
variable [Fingerprints]

/-- The conflict of two opposed claims. -/
def Claim.conflictWith (left right : Claim) : Conflict where
  id := "cnf_" ++ shortDigest (Fingerprints.digest (.conflict (left.pair right)))
  claimIds := left.pair right
  kind := .structuralPolarity
  scope := left.scope
  propositionId := left.propositionId

omit [Fingerprints] in
theorem opposite_iff {left right : Polarity} : left.opposite right = true ↔
    (left = .positive ∧ right = .negative) ∨ (left = .negative ∧ right = .positive) := by
  simp [Polarity.opposite]

/-- The structural key of a claim that asserts or denies a proposition. -/
theorem structuralKey_eq_some {claim : Claim} {key : String × ClaimRole × List BoundArgument × String} :
    claim.structuralKey = some key ↔ claim.polarity ≠ .unspecified ∧ claim.propositionId = some key.1 ∧
      claim.role = key.2.1 ∧ claim.boundArgs = key.2.2.1 ∧ claim.scope.fingerprint = key.2.2.2 := by
  obtain ⟨propositionId, role, boundArgs, fingerprint⟩ := key
  unfold Claim.structuralKey
  split
  next named => simp [named]
  next proposition named =>
    split
    next unspecified => simp [unspecified]
    next specified => simp [named, specified]

/-- One claim asserts what the other denies, whatever their arguments are: the same proposition, in the same role
and under one scope fingerprint. -/
def Claim.Contradicts (left right : Claim) : Prop :=
  left.propositionId.isSome ∧ left.propositionId = right.propositionId ∧ left.role = right.role ∧
    left.scope.fingerprint = right.scope.fingerprint ∧ left.polarity.opposite right.polarity

/-- The conflict of two claims is decided by what they say and by their argument lists. -/
theorem structuralConflict_isSome_iff {left right : Claim} :
    (structuralConflict left right).isSome ↔ left.Contradicts right ∧ left.boundArgs = right.boundArgs := by
  have keyed : left.polarity.opposite right.polarity = true →
      (¬ (left.structuralKey = none ∨ left.structuralKey ≠ right.structuralKey) ↔
        left.Contradicts right ∧ left.boundArgs = right.boundArgs) := by
    intro opposed
    have polarities := opposite_iff.mp opposed
    have leftSpecified : left.polarity ≠ .unspecified := by
      rcases polarities with ⟨same, -⟩ | ⟨same, -⟩ <;> simp [same]
    have rightSpecified : right.polarity ≠ .unspecified := by
      rcases polarities with ⟨-, same⟩ | ⟨-, same⟩ <;> simp [same]
    constructor
    · intro related
      obtain ⟨present, same⟩ := not_or.mp related
      obtain ⟨key, leftKey⟩ := Option.ne_none_iff_exists'.mp present
      have rightKey := (not_not.mp same).symm.trans leftKey
      obtain ⟨-, leftNamed, leftRole, leftArgs, leftScope⟩ := structuralKey_eq_some.mp leftKey
      obtain ⟨-, rightNamed, rightRole, rightArgs, rightScope⟩ := structuralKey_eq_some.mp rightKey
      exact ⟨⟨by simp [leftNamed], leftNamed.trans rightNamed.symm, leftRole.trans rightRole.symm,
        leftScope.trans rightScope.symm, opposed⟩, leftArgs.trans rightArgs.symm⟩
    · intro contradicts
      obtain ⟨⟨named, sameNamed, sameRole, sameScope, -⟩, sameArgs⟩ := contradicts
      obtain ⟨propositionId, leftNamed⟩ := Option.isSome_iff_exists.mp named
      have leftKey : left.structuralKey = some (propositionId, left.role, left.boundArgs, left.scope.fingerprint) :=
        structuralKey_eq_some.mpr ⟨leftSpecified, leftNamed, rfl, rfl, rfl⟩
      have rightKey : right.structuralKey = some (propositionId, left.role, left.boundArgs, left.scope.fingerprint) :=
        structuralKey_eq_some.mpr ⟨rightSpecified, sameNamed.symm.trans leftNamed, sameRole.symm, sameArgs.symm,
          sameScope.symm⟩
      simp [leftKey, rightKey]
  unfold structuralConflict
  by_cases opposed : left.polarity.opposite right.polarity = true
  · by_cases related : left.structuralKey = none ∨ left.structuralKey ≠ right.structuralKey
    · have unopposed := mt (keyed opposed).mpr (not_not.mpr related)
      simp only [if_pos related, Option.isSome_none, Bool.false_eq_true, unopposed]
    · have contradicts := (keyed opposed).mp related
      simp only [if_neg related, if_neg (not_not.mpr opposed), Option.isSome_some, contradicts, and_self]
  · have consistent : ¬ left.Contradicts right := by
      intro contradicts
      exact opposed contradicts.2.2.2.2
    simp [opposed, consistent]

theorem structuralConflict_conflictWith {left right : Claim} {conflict : Conflict}
    (related : structuralConflict left right = some conflict) : conflict = left.conflictWith right := by
  unfold structuralConflict at related
  split at related
  next => simp at related
  next =>
    split at related
    next => simp at related
    next => exact (Option.some.inj related).symm

/-- Two claims of one scope are in conflict exactly when one opposes the other. -/
theorem structuralConflict_eq_some {left right : Claim} {conflict : Conflict} (sameScope : left.scope = right.scope) :
    structuralConflict left right = some conflict ↔ left.Opposes right ∧ conflict = left.conflictWith right := by
  have opposes_iff : left.Opposes right ↔ left.Contradicts right ∧ left.boundArgs = right.boundArgs := by
    unfold Claim.Opposes Claim.Contradicts
    rw [opposite_iff]
    simp only [sameScope, true_and]
    tauto
  rw [opposes_iff, ← structuralConflict_isSome_iff]
  constructor
  · intro related
    exact ⟨by simp [related], structuralConflict_conflictWith related⟩
  · intro ⟨present, same⟩
    obtain ⟨found, related⟩ := Option.isSome_iff_exists.mp present
    rw [related, structuralConflict_conflictWith related, same]

omit [Fingerprints] in
theorem Claim.Opposes.symm {left right : Claim} (opposes : left.Opposes right) : right.Opposes left := by
  obtain ⟨named, sameNamed, sameRole, sameArgs, sameScope, polarities⟩ := opposes
  exact ⟨sameNamed ▸ named, sameNamed.symm, sameRole.symm, sameArgs.symm, sameScope.symm,
    polarities.symm.imp And.symm And.symm⟩

/-- The conflict of two claims does not depend on which of them came first. -/
theorem Claim.Opposes.conflictWith_comm {left right : Claim} (opposes : left.Opposes right) :
    right.conflictWith left = left.conflictWith right := by
  obtain ⟨-, sameNamed, -, -, sameScope, -⟩ := opposes
  simp only [Claim.conflictWith, Claim.pair_comm right left, sameNamed, sameScope]

/-- What the fingerprint of an obligation covers. -/
def Obligation.hashed (obligation : Obligation) : ObligationKind × List BoundArgument × String × String :=
  (obligation.kind, obligation.args.insertionSort (fun left right => left.name ≤ right.name),
    obligation.scope.fingerprint, obligation.bindingRevision)

/-- The hashes that identify the conflicts and the obligations of a state do not collide. -/
structure NoCollisions (state : InquiryState) : Prop where
  conflicts : ∀ first ∈ state.claims, ∀ second ∈ state.claims, ∀ third ∈ state.claims, ∀ fourth ∈ state.claims,
    shortDigest (Fingerprints.digest (.conflict (first.pair second))) =
      shortDigest (Fingerprints.digest (.conflict (third.pair fourth))) → first.pair second = third.pair fourth
  obligations : ∀ obligation ∈ state.obligations, ∀ conflict ∈ state.conflicts,
    obligation.fingerprint = (conflictObligation conflict).fingerprint →
      obligation.hashed = (conflictObligation conflict).hashed

/-- The conflicts of a state are those between its claims, each with an obligation to localize it. -/
structure ConflictsComplete (state : InquiryState) : Prop where
  recorded : ∀ left ∈ state.claims, ∀ right ∈ state.claims, left.Opposes right →
    left.conflictWith right ∈ state.conflicts
  genuine : ∀ conflict ∈ state.conflicts, ∃ left ∈ state.claims, ∃ right ∈ state.claims,
    left.Opposes right ∧ conflict = left.conflictWith right
  localized : ∀ conflict ∈ state.conflicts, ∃ obligation ∈ state.obligations,
    obligation.kind = .localizeConflict ∧ obligation.fingerprint = (conflictObligation conflict).fingerprint
  distinct : (state.obligations.map Obligation.fingerprint).Nodup

variable {before after : InquiryState}

theorem NoCollisions.earlier (free : NoCollisions after) (claims : before.claims ⊆ after.claims)
    (obligations : before.obligations ⊆ after.obligations) (conflicts : before.conflicts ⊆ after.conflicts) :
    NoCollisions before where
  conflicts _ first _ second _ third _ fourth :=
    free.conflicts _ (claims first) _ (claims second) _ (claims third) _ (claims fourth)
  obligations _ owned _ recorded := free.obligations _ (obligations owned) _ (conflicts recorded)

/-- Conflicts with one identity are between the same claims. -/
theorem NoCollisions.pair_eq (free : NoCollisions after) {first second third fourth : Claim}
    (firstOwned : first ∈ after.claims) (secondOwned : second ∈ after.claims) (thirdOwned : third ∈ after.claims)
    (fourthOwned : fourth ∈ after.claims)
    (same : (first.conflictWith second).id = (third.conflictWith fourth).id) : first.pair second = third.pair fourth := by
  refine free.conflicts first firstOwned second secondOwned third thirdOwned fourth fourthOwned ?_
  exact (String.append_right_inj "cnf_").mp same

/-- Every obligation that a claim calls for is owned after its admission, up to its fingerprint. -/
theorem derivedObligations_cover {claim : Claim} {obligation : Obligation}
    (called : obligation ∈ (pendingAttack before claim).toList ++
      (derivedConflicts before.toClaimRecords claim).map conflictObligation) :
    ∃ owned ∈ before.obligations ++ derivedObligations before claim, owned.fingerprint = obligation.fingerprint := by
  have covered : obligation.fingerprint ∈ before.obligations.map Obligation.fingerprint ∨
      ∃ kept ∈ freshBy Obligation.fingerprint (before.obligations.map Obligation.fingerprint)
        ((pendingAttack before claim).toList ++ (derivedConflicts before.toClaimRecords claim).map conflictObligation),
          kept.fingerprint = obligation.fingerprint := freshBy_covers called
  rcases covered with known | ⟨kept, derived, same⟩
  · obtain ⟨owned, member, same⟩ := List.mem_map.mp known
    exact ⟨owned, List.mem_append_left _ member, same⟩
  · refine ⟨kept, List.mem_append_right _ ?_, same⟩
    simpa only [derivedObligations, List.mem_insertionSort] using derived

/-- Derived obligations have fingerprints of their own. -/
theorem derivedObligations_distinct {claim : Claim} (distinct : (before.obligations.map Obligation.fingerprint).Nodup) :
    ((before.obligations ++ derivedObligations before claim).map Obligation.fingerprint).Nodup := by
  obtain ⟨keptDistinct, keptFresh⟩ := @freshBy_nodup _ _ _ Obligation.fingerprint
    (before.obligations.map Obligation.fingerprint) ((pendingAttack before claim).toList ++
      (derivedConflicts before.toClaimRecords claim).map conflictObligation)
  rw [List.map_append, List.nodup_append]
  refine ⟨distinct, ?_, ?_⟩
  · unfold derivedObligations
    exact ((List.perm_insertionSort _ _).map _).nodup_iff.mpr keptDistinct
  · intro known owned fingerprint derived same
    obtain ⟨obligation, member, rfl⟩ := List.mem_map.mp derived
    simp only [derivedObligations, List.mem_insertionSort] at member
    exact keptFresh obligation member (same ▸ owned)

section
variable {claim : Claim} (free : NoCollisions after) (complete : ConflictsComplete before)
  (sameScopes : ∀ left ∈ after.claims, ∀ right ∈ after.claims, left.scope = right.scope)
  (unowned : ∀ existing ∈ before.claims, existing.id ≠ claim.id) (unique : (before.claims.map Claim.id).Nodup)
  (claims : after.claims = before.claims ++ [claim])
include sameScopes claims

/-- The conflicts that are derived for a new claim are its conflicts with the earlier ones. -/
theorem derivedConflicts_genuine {conflict : Conflict} (derived : conflict ∈ derivedConflicts before.toClaimRecords claim) :
    ∃ existing ∈ before.claims, existing.Opposes claim ∧ conflict = existing.conflictWith claim := by
  simp only [derivedConflicts, List.mem_insertionSort] at derived
  obtain ⟨existing, recorded, related⟩ := List.mem_filterMap.mp (freshBy_subset derived)
  have existingOwned : existing ∈ after.claims := claims ▸ List.mem_append_left _ recorded
  have claimOwned : claim ∈ after.claims := claims ▸ List.mem_append_right _ List.mem_cons_self
  have opposed := (structuralConflict_eq_some (sameScopes existing existingOwned claim claimOwned)).mp related
  exact ⟨existing, recorded, opposed⟩

include free complete unowned unique

theorem derivedConflicts_complete {existing : Claim} (recorded : existing ∈ before.claims)
    (opposes : existing.Opposes claim) : existing.conflictWith claim ∈ derivedConflicts before.toClaimRecords claim := by
  have earlier : ∀ item ∈ before.claims, item ∈ after.claims := by
    intro item member
    exact claims ▸ List.mem_append_left _ member
  have claimOwned : claim ∈ after.claims := claims ▸ List.mem_append_right _ List.mem_cons_self
  have related : structuralConflict existing claim = some (existing.conflictWith claim) :=
    (structuralConflict_eq_some opposes.2.2.2.2.1).mpr ⟨opposes, rfl⟩
  have listed : existing.conflictWith claim ∈ before.claims.filterMap (fun item => structuralConflict item claim) :=
    List.mem_filterMap.mpr ⟨existing, recorded, related⟩
  simp only [derivedConflicts, List.mem_insertionSort]
  have covered : (existing.conflictWith claim).id ∈ before.conflicts.map Conflict.id ∨
      ∃ kept ∈ freshBy Conflict.id (before.conflicts.map Conflict.id)
        (before.claims.filterMap (fun item => structuralConflict item claim)),
          kept.id = (existing.conflictWith claim).id := freshBy_covers listed
  rcases covered with known | kept
  · -- a recorded conflict with this identity would be about the new claim
    obtain ⟨conflict, conflictRecorded, sameId⟩ := List.mem_map.mp known
    obtain ⟨left, leftOwned, right, rightOwned, -, rfl⟩ := complete.genuine conflict conflictRecorded
    have samePair := free.pair_eq (earlier left leftOwned) (earlier right rightOwned) (earlier existing recorded)
      claimOwned sameId
    rcases Claim.pair_eq samePair with ⟨-, same⟩ | ⟨same, -⟩
    · exact absurd same (unowned right rightOwned)
    · exact absurd same (unowned left leftOwned)
  · obtain ⟨conflict, conflictKept, sameId⟩ := kept
    have derived : conflict ∈ derivedConflicts before.toClaimRecords claim := by
      simpa only [derivedConflicts, List.mem_insertionSort] using conflictKept
    obtain ⟨other, otherRecorded, -, rfl⟩ := derivedConflicts_genuine sameScopes claims derived
    have samePair := free.pair_eq (earlier other otherRecorded) claimOwned (earlier existing recorded) claimOwned sameId
    have sameClaim : other.id = existing.id := by
      rcases Claim.pair_eq samePair with ⟨same, -⟩ | ⟨same, -⟩
      · exact same
      · exact absurd same (unowned other otherRecorded)
    obtain rfl := List.inj_on_of_nodup_map unique otherRecorded recorded sameClaim
    exact conflictKept

/-- The admission of a claim keeps the conflicts complete. -/
theorem ConflictsComplete.admitted
    (conflicts : after.conflicts = before.conflicts ++ derivedConflicts before.toClaimRecords claim)
    (obligations : after.obligations = before.obligations ++ derivedObligations before claim) : ConflictsComplete after := by
  have claimOwned : claim ∈ after.claims := claims ▸ List.mem_append_right _ List.mem_cons_self
  have ofDerived : ∀ existing ∈ before.claims, existing.Opposes claim → existing.conflictWith claim ∈ after.conflicts := by
    intro existing recorded opposes
    rw [conflicts]
    exact List.mem_append_right _
      (derivedConflicts_complete free complete sameScopes unowned unique claims recorded opposes)
  refine ⟨?_, ?_, ?_, ?_⟩
  · intro left leftOwned right rightOwned opposes
    rw [claims] at leftOwned rightOwned
    rcases List.mem_append.mp leftOwned with leftEarlier | leftNew
    · rcases List.mem_append.mp rightOwned with rightEarlier | rightNew
      · rw [conflicts]
        exact List.mem_append_left _ (complete.recorded left leftEarlier right rightEarlier opposes)
      · obtain rfl := List.mem_singleton.mp rightNew
        exact ofDerived left leftEarlier opposes
    · obtain rfl := List.mem_singleton.mp leftNew
      rcases List.mem_append.mp rightOwned with rightEarlier | rightNew
      · rw [opposes.symm.conflictWith_comm]
        exact ofDerived right rightEarlier opposes.symm
      · -- no claim opposes itself
        obtain rfl := List.mem_singleton.mp rightNew
        rcases opposes.2.2.2.2.2 with ⟨positive, negative⟩ | ⟨negative, positive⟩
        · simp [positive] at negative
        · simp [positive] at negative
  · intro conflict recorded
    rw [conflicts] at recorded
    rcases List.mem_append.mp recorded with earlier | derived
    · obtain ⟨left, leftOwned, right, rightOwned, genuine⟩ := complete.genuine conflict earlier
      exact ⟨left, claims ▸ List.mem_append_left _ leftOwned, right, claims ▸ List.mem_append_left _ rightOwned, genuine⟩
    · obtain ⟨existing, existingOwned, genuine⟩ := derivedConflicts_genuine sameScopes claims derived
      exact ⟨existing, claims ▸ List.mem_append_left _ existingOwned, claim, claimOwned, genuine⟩
  · intro conflict recorded
    have inState := recorded
    rw [conflicts] at recorded
    rcases List.mem_append.mp recorded with earlier | derived
    · obtain ⟨obligation, owned, facts⟩ := complete.localized conflict earlier
      exact ⟨obligation, obligations ▸ List.mem_append_left _ owned, facts⟩
    · have covered : ∃ obligation ∈ after.obligations,
          obligation.fingerprint = (conflictObligation conflict).fingerprint := by
        rw [obligations]
        exact derivedObligations_cover (List.mem_append_right _ (List.mem_map_of_mem derived))
      obtain ⟨obligation, owned, same⟩ := covered
      have kind := congrArg Prod.fst (free.obligations obligation owned conflict inState same)
      exact ⟨obligation, owned, kind, same⟩
  · rw [obligations]
    exact derivedObligations_distinct complete.distinct

end

/-- Records that add no claim and no conflict, and no obligation but ones with fingerprints of their own. -/
theorem ConflictsComplete.added {obligations : List Obligation} (complete : ConflictsComplete before)
    (claims : after.claims = before.claims) (conflicts : after.conflicts = before.conflicts)
    (records : after.obligations = before.obligations ++ obligations)
    (distinct : (after.obligations.map Obligation.fingerprint).Nodup) : ConflictsComplete after := by
  refine ⟨?_, ?_, ?_, distinct⟩
  · rw [claims, conflicts]
    exact complete.recorded
  · rw [claims, conflicts]
    exact complete.genuine
  · rw [conflicts]
    intro conflict recorded
    obtain ⟨obligation, owned, facts⟩ := complete.localized conflict recorded
    exact ⟨obligation, records ▸ List.mem_append_left _ owned, facts⟩

theorem openObligation_fresh {obligation : Obligation} {event : ClaimEvent}
    (lawful : decideClaim before (.openObligation obligation) = .ok (some event)) :
    obligation.fingerprint ∉ before.obligations.map Obligation.fingerprint := by
  simp only [decideClaim, decideOpenObligation] at lawful
  split at lawful
  next => split at lawful <;> simp at lawful
  next =>
    split at lawful
    next => simp [pure, Except.pure] at lawful
    next fresh => exact fresh

/-- One command keeps the fingerprints of the obligations apart. -/
theorem obligationFingerprints_step {command : DomainCommand} (reached : Reachable before)
    (distinct : (before.obligations.map Obligation.fingerprint).Nodup)
    (applied : applyCommand before command = .ok after) : (after.obligations.map Obligation.fingerprint).Nodup := by
  rcases applyCommand_cases applied with rfl | ⟨body, decided, transition, -⟩
  · exact distinct
  rcases (decideBody_proposed decided).claimStep transition with ⟨-, records⟩ | ⟨residuals, -, records⟩ |
    ⟨event, -, lawful, -, records⟩
  · have obligations : after.obligations = [] := congrArg ClaimRecords.obligations records
    simp [obligations]
  · have obligations : after.obligations = before.obligations := by simpa using congrArg ClaimRecords.obligations records
    rwa [obligations]
  · have obligations : after.obligations = (ClaimRecords.apply before.toClaimRecords event).obligations :=
      congrArg ClaimRecords.obligations records
    rw [obligations]
    cases event with
    | claimAdmitted claim derivedConflicts derivedObligations =>
      obtain ⟨-, rfl, rfl⟩ := ClaimEvent.claimAdmitted.inj (admitClaim_event lawful)
      exact derivedObligations_distinct distinct
    | obligationOpened obligation =>
      have fresh := openObligation_fresh lawful
      rw [ClaimRecords.apply, List.map_append, List.nodup_append]
      refine ⟨distinct, List.nodup_singleton _, ?_⟩
      intro known owned fingerprint new same
      rw [List.map_singleton, List.mem_singleton] at new
      exact fresh (new ▸ same ▸ owned)
    | _ => simpa [ClaimRecords.apply] using distinct

/-- No two obligations of a reachable state have one fingerprint. -/
theorem Reachable.obligationFingerprints_distinct {state : InquiryState} (reached : Reachable state) :
    (state.obligations.map Obligation.fingerprint).Nodup := by
  induction reached with
  | refl => simp [initialState]
  | tail run step ih =>
    obtain ⟨command, applied⟩ := step
    exact obligationFingerprints_step run ih applied

/-- All claims of a reachable state have one scope. -/
theorem Reachable.sameScopes {state : InquiryState} (reached : Reachable state) :
    ∀ left ∈ state.claims, ∀ right ∈ state.claims, left.scope = right.scope := by
  intro left leftOwned right rightOwned
  rcases reached.replayable.initial_or_pinned with rfl | ⟨context, started⟩
  · simp [initialState] at leftOwned
  · have pinned := (reached.scopesPinned started).claims.claims
    exact scope_eq_of_matches (pinned left leftOwned) (pinned right rightOwned)

/-- One command keeps the conflicts complete. -/
theorem conflictsComplete_step {command : DomainCommand} (reached : Reachable before)
    (earlier : NoCollisions before → ConflictsComplete before) (applied : applyCommand before command = .ok after)
    (free : NoCollisions after) : ConflictsComplete after := by
  have reachedAfter : Reachable after := reached.tail ⟨command, applied⟩
  have distinct := reachedAfter.obligationFingerprints_distinct
  rcases applyCommand_cases applied with rfl | ⟨body, decided, transition, valid⟩
  · exact earlier free
  · have joined := (transition.recordsAppended reached.replayable.unstarted_eq_initial).claims
    have complete : ConflictsComplete before := by
      refine earlier (free.earlier ?_ ?_ ?_)
      · rw [joined]
        exact List.subset_append_left _ _
      · rw [joined]
        exact List.subset_append_left _ _
      · rw [joined]
        exact List.subset_append_left _ _
    rcases (decideBody_proposed decided).claimStep transition with ⟨-, records⟩ | ⟨residuals, -, records⟩ |
      ⟨event, -, lawful, -, records⟩
    · have claims : after.claims = [] := congrArg ClaimRecords.claims records
      have conflicts : after.conflicts = [] := congrArg ClaimRecords.conflicts records
      have obligations : after.obligations = [] := congrArg ClaimRecords.obligations records
      constructor <;> simp [claims, conflicts, obligations]
    · have claims : after.claims = before.claims := by simpa using congrArg ClaimRecords.claims records
      have conflicts : after.conflicts = before.conflicts := by simpa using congrArg ClaimRecords.conflicts records
      have obligations : after.obligations = before.obligations ++ [] := by
        simpa using congrArg ClaimRecords.obligations records
      exact complete.added claims conflicts obligations distinct
    · have claims := congrArg ClaimRecords.claims records
      have conflicts := congrArg ClaimRecords.conflicts records
      have obligations := congrArg ClaimRecords.obligations records
      cases event with
      | claimAdmitted claim derivedConflicts derivedObligations =>
        obtain ⟨-, rfl, rfl⟩ := ClaimEvent.claimAdmitted.inj (admitClaim_event lawful)
        have unowned : claim.id ∉ before.claims.map Claim.id := find_eq_none_iff.mp (recordOnce_eq_some.mp lawful).1
        have unique : (before.claims.map Claim.id).Nodup :=
          reached.replayable.aggregateValid.identities_unique _ (by simp [identifiedCollections])
        refine ConflictsComplete.admitted free complete reachedAfter.sameScopes ?_ unique claims conflicts obligations
        intro existing recorded same
        exact unowned (same ▸ List.mem_map_of_mem recorded)
      | obligationOpened obligation => exact complete.added claims conflicts obligations distinct
      | _ =>
        have same : after.obligations = before.obligations ++ [] := by
          simpa [ClaimRecords.apply] using obligations
        exact complete.added claims conflicts same distinct

theorem Reachable.conflictsComplete {state : InquiryState} (reached : Reachable state) (free : NoCollisions state) :
    ConflictsComplete state := by
  induction reached with
  | refl => constructor <;> simp [initialState]
  | tail run step ih =>
    obtain ⟨command, applied⟩ := step
    exact conflictsComplete_step run ih applied free

/-- The recorded conflicts are exactly one for each pair of opposed claims, each with an owned obligation
to localize it, and no two obligations have one fingerprint. -/
theorem conflicts_complete {state : InquiryState} (reached : Reachable state) (free : NoCollisions state) :
    (∀ left ∈ state.claims, ∀ right ∈ state.claims,
        ((structuralConflict left right).isSome ↔ left.Opposes right) ∧
        ∀ conflict, structuralConflict left right = some conflict → conflict ∈ state.conflicts) ∧
      (∀ conflict ∈ state.conflicts, ∃ left ∈ state.claims, ∃ right ∈ state.claims,
        conflict.claimIds = left.pair right ∧ structuralConflict left right = some conflict) ∧
      (state.conflicts.map Conflict.claimIds).Nodup ∧
      (∀ conflict ∈ state.conflicts, ∃ obligation ∈ state.obligations,
        obligation.kind = .localizeConflict ∧ obligation.fingerprint = (conflictObligation conflict).fingerprint) ∧
      (state.obligations.map Obligation.fingerprint).Nodup := by
  have complete := reached.conflictsComplete free
  have sameScopes := reached.sameScopes
  refine ⟨?_, ?_, ?_, complete.localized, complete.distinct⟩
  · intro left leftOwned right rightOwned
    have related : ∀ conflict, structuralConflict left right = some conflict ↔
        left.Opposes right ∧ conflict = left.conflictWith right :=
      fun conflict => structuralConflict_eq_some (sameScopes left leftOwned right rightOwned)
    refine ⟨?_, ?_⟩
    · rw [Option.isSome_iff_exists]
      simp only [related, exists_and_left, exists_eq, and_true]
    · intro conflict conflicting
      obtain ⟨opposes, rfl⟩ := (related conflict).mp conflicting
      exact complete.recorded left leftOwned right rightOwned opposes
  · intro conflict recorded
    obtain ⟨left, leftOwned, right, rightOwned, opposes, rfl⟩ := complete.genuine conflict recorded
    refine ⟨left, leftOwned, right, rightOwned, rfl, ?_⟩
    exact (structuralConflict_eq_some opposes.2.2.2.2.1).mpr ⟨opposes, rfl⟩
  · -- conflicts are identified by their claims, and their identities are unique
    have ids : (state.conflicts.map Conflict.id).Nodup :=
      reached.replayable.aggregateValid.identities_unique _ (by simp [identifiedCollections])
    refine (List.Nodup.of_map _ ids).map_on ?_
    intro first firstRecorded second secondRecorded same
    obtain ⟨_, _, _, _, -, rfl⟩ := complete.genuine first firstRecorded
    obtain ⟨_, _, _, _, -, rfl⟩ := complete.genuine second secondRecorded
    refine List.inj_on_of_nodup_map ids firstRecorded secondRecorded ?_
    simp only [Claim.conflictWith] at same ⊢
    rw [same]

end

namespace Worked

/-- Assert or deny a proposition. -/
def assertion (id proposition : String) (polarity : Polarity) : CommandBody :=
  .claim (.admitClaim { claim id proposition with polarity := polarity })

/-- Two claims deny what a third asserts, which is admitted between them. -/
def contested : InquiryState :=
  reached [start, assertion "claim-n" "a" .negative, assertion "claim-p" "a" .positive, assertion "claim-q" "a" .negative]

theorem contested_noCollisions : NoCollisions contested where
  conflicts := by decide +kernel
  obligations := by decide +kernel

theorem contested_conflicts_complete :
    (contested.conflicts.map Conflict.claimIds).Perm [("claim-n", "claim-p"), ("claim-p", "claim-q")] ∧
      (∀ conflict ∈ contested.conflicts, ∃ obligation ∈ contested.obligations,
        obligation.kind = .localizeConflict ∧ obligation.fingerprint = (conflictObligation conflict).fingerprint) := by
  have complete := conflicts_complete (reachable_reached _) contested_noCollisions
  exact ⟨by decide +kernel, complete.2.2.2.1⟩

end Worked

end RatchetingInquiry
