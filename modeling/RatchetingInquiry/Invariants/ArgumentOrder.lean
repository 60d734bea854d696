import RatchetingInquiry.Invariants.Conflicts
import RatchetingInquiry.Library.Sorting

/-! The order of named arguments. The fingerprint of an obligation forgets it; the structural key of a claim
keeps it, so a denial that lists the arguments of an assertion in another order is not a conflict. -/

namespace RatchetingInquiry

/-- The claim with its named arguments in another order. -/
def Claim.reordered (claim : Claim) (args : List BoundArgument) (reordering : args.Perm claim.boundArgs) : Claim :=
  { claim with
    boundArgs := args
    names_unique := (reordering.map BoundArgument.name).nodup_iff.mpr claim.names_unique }

@[simp] theorem Claim.reordered_self (claim : Claim) (reordering : claim.boundArgs.Perm claim.boundArgs) :
    claim.reordered claim.boundArgs reordering = claim := rfl

@[simp] theorem Claim.reordered_boundArgs (claim : Claim) (args : List BoundArgument)
    (reordering : args.Perm claim.boundArgs) : (claim.reordered args reordering).boundArgs = args := rfl

/-- A list of at least two different items has another order. -/
theorem exists_other_order {α : Type} {items : List α} (distinct : items.Nodup) (several : 2 ≤ items.length) :
    ∃ others, others.Perm items ∧ others ≠ items := by
  match items, distinct, several with
  | first :: second :: rest, distinct, _ =>
    refine ⟨second :: first :: rest, List.Perm.swap first second rest, ?_⟩
    intro same
    have equal : second = first := (List.cons.inj same).1
    subst equal
    simp at distinct

/-- A list of at most one item has no other order. -/
theorem eq_of_perm_of_length_le_one {α : Type} {items others : List α} (short : items.length ≤ 1)
    (reordering : others.Perm items) : others = items := by
  match items, short with
  | [], _ => exact List.perm_nil.mp reordering
  | [item], _ => exact List.perm_singleton.mp reordering

theorem Claim.boundArgs_nodup (claim : Claim) : claim.boundArgs.Nodup := List.Nodup.of_map _ claim.names_unique

section
variable [Fingerprints]

/-- One claim asserts what the other denies of the same named arguments, in whatever order they list them. -/
def Claim.OpposesInSomeOrder (left right : Claim) : Prop :=
  left.Contradicts right ∧ left.boundArgs.Perm right.boundArgs

theorem Claim.contradicts_reordered {left right : Claim} {leftArgs rightArgs : List BoundArgument}
    {leftOrder : leftArgs.Perm left.boundArgs} {rightOrder : rightArgs.Perm right.boundArgs} :
    (left.reordered leftArgs leftOrder).Contradicts (right.reordered rightArgs rightOrder) ↔ left.Contradicts right :=
  Iff.rfl

/-- The conflict of reordered claims is that of the claims, when there is one. -/
theorem structuralConflict_reordered {left right : Claim} {leftArgs rightArgs : List BoundArgument}
    {leftOrder : leftArgs.Perm left.boundArgs} {rightOrder : rightArgs.Perm right.boundArgs} {conflict : Conflict} :
    structuralConflict (left.reordered leftArgs leftOrder) (right.reordered rightArgs rightOrder) = some conflict ↔
      left.Contradicts right ∧ leftArgs = rightArgs ∧ conflict = left.conflictWith right := by
  have present := @structuralConflict_isSome_iff _ (left.reordered leftArgs leftOrder)
    (right.reordered rightArgs rightOrder)
  rw [Claim.contradicts_reordered, Claim.reordered_boundArgs, Claim.reordered_boundArgs] at present
  constructor
  · intro related
    have decided := present.mp (by simp [related])
    have named := structuralConflict_conflictWith related
    exact ⟨decided.1, decided.2, named⟩
  · intro ⟨contradicts, same, named⟩
    obtain ⟨found, related⟩ := Option.isSome_iff_exists.mp (present.mpr ⟨contradicts, same⟩)
    rw [related, structuralConflict_conflictWith related, named]
    rfl

/-- Reordering the arguments of two claims can change whether they are in conflict exactly when one opposes the
other in some order and they have several arguments. -/
theorem structuralConflict_stable_iff {left right : Claim} :
    (∀ leftArgs (leftOrder : leftArgs.Perm left.boundArgs) rightArgs (rightOrder : rightArgs.Perm right.boundArgs),
        structuralConflict (left.reordered leftArgs leftOrder) (right.reordered rightArgs rightOrder) =
          structuralConflict left right) ↔
      (left.OpposesInSomeOrder right → left.boundArgs.length ≤ 1) := by
  constructor
  · intro stable opposes
    obtain ⟨contradicts, sameArgs⟩ := opposes
    by_contra several
    obtain ⟨others, otherOrder, different⟩ := exists_other_order left.boundArgs_nodup (by omega)
    have aligned := stable left.boundArgs (List.Perm.refl _) left.boundArgs sameArgs
    have crossed := stable others otherOrder left.boundArgs sameArgs
    have related := (@structuralConflict_reordered _ left right left.boundArgs left.boundArgs (List.Perm.refl _)
      sameArgs _).mpr ⟨contradicts, rfl, rfl⟩
    rw [aligned, ← crossed] at related
    exact different (structuralConflict_reordered.mp related).2.1
  · intro short leftArgs leftOrder rightArgs rightOrder
    have unordered : left.Contradicts right → (leftArgs = rightArgs ↔ left.boundArgs = right.boundArgs) := by
      intro contradicts
      by_cases sameArgs : left.boundArgs.Perm right.boundArgs
      · have leftShort := short ⟨contradicts, sameArgs⟩
        have rightShort : right.boundArgs.length ≤ 1 := sameArgs.length_eq ▸ leftShort
        rw [eq_of_perm_of_length_le_one leftShort leftOrder, eq_of_perm_of_length_le_one rightShort rightOrder]
      · constructor
        · intro same
          subst same
          exact absurd (leftOrder.symm.trans rightOrder) sameArgs
        · intro same
          exact absurd (same ▸ List.Perm.refl _) sameArgs
    apply Option.ext
    intro conflict
    have original := @structuralConflict_reordered _ left right left.boundArgs right.boundArgs (List.Perm.refl _)
      (List.Perm.refl _) conflict
    rw [Claim.reordered_self, Claim.reordered_self] at original
    rw [structuralConflict_reordered, original]
    constructor
    · intro ⟨contradicts, same, named⟩
      exact ⟨contradicts, (unordered contradicts).mp same, named⟩
    · intro ⟨contradicts, same, named⟩
      exact ⟨contradicts, (unordered contradicts).mpr same, named⟩

/-- The state can admit the claim as a new one. -/
def InquiryState.Admits (state : InquiryState) (inquiryId : String) (claim : Claim) : Prop :=
  state.isActive inquiryId ∧ claim.id ∉ state.claims.map Claim.id ∧ claim.status = .provisional ∧
    scopeMatchesContext state.context claim.scope = true

instance {state : InquiryState} {inquiryId : String} {claim : Claim} : Decidable (state.Admits inquiryId claim) := by
  unfold InquiryState.Admits InquiryState.isActive
  infer_instance

/-- Admitting the claim derives a conflict with the earlier one. -/
def ConflictsOnAdmission (state : InquiryState) (head : EventMetadata) (claim existing : Claim) : Prop :=
  ∃ conflicts obligations, decide state ⟨head, .claim (.admitClaim claim)⟩ =
      .ok [⟨head, .claim (.claimAdmitted claim conflicts obligations)⟩] ∧
    existing.pair claim ∈ conflicts.map Conflict.claimIds

theorem conflictsOnAdmission_iff {state : InquiryState} {head : EventMetadata} {claim existing : Claim} :
    ConflictsOnAdmission state head claim existing ↔ state.Admits head.inquiryId claim ∧
      existing.pair claim ∈ (derivedConflicts state.toClaimRecords claim).map Conflict.claimIds := by
  have decided_iff : ∀ conflicts obligations, decide state ⟨head, .claim (.admitClaim claim)⟩ =
        .ok [⟨head, .claim (.claimAdmitted claim conflicts obligations)⟩] ↔ state.Admits head.inquiryId claim ∧
      conflicts = derivedConflicts state.toClaimRecords claim ∧ obligations = derivedObligations state claim := by
    intro conflicts obligations
    have lawful_iff : ∀ event, decideClaim state (.admitClaim claim) = .ok (some event) ↔
        claim.id ∉ state.claims.map Claim.id ∧ claim.status = .provisional ∧
          scopeMatchesContext state.context claim.scope = true ∧ .claimAdmitted claim
            (derivedConflicts state.toClaimRecords claim) (derivedObligations state claim) = event := by
      intro event
      simp only [decideClaim, recordOnce_eq_some, ClaimRecords.claimById, find_eq_none_iff, freshClaim,
        require_bind_eq_ok, pure, Except.pure, Except.ok.injEq]
    rw [decide_singleton]
    simp only [true_and, decideBody]
    rw [activeDecision_eq_some]
    simp only [EventBody.claim.injEq, exists_eq_right', lawful_iff, ClaimEvent.claimAdmitted.injEq, true_and,
      InquiryState.Admits]
    rw [eq_comm (a := conflicts), eq_comm (a := obligations)]
    tauto
  unfold ConflictsOnAdmission
  simp only [decided_iff]
  constructor
  · intro conflicts
    obtain ⟨conflicts, obligations, ⟨admits, derived, _⟩, conflicting⟩ := conflicts
    exact ⟨admits, derived ▸ conflicting⟩
  · intro paired
    obtain ⟨admits, conflicting⟩ := paired
    exact ⟨_, _, ⟨admits, rfl, rfl⟩, conflicting⟩

variable {state : InquiryState} {head : EventMetadata} {left right claim : Claim} {args : List BoundArgument}
  {order : args.Perm claim.boundArgs}

theorem derivedConflicts_reordered {conflict : Conflict}
    (derived : conflict ∈ derivedConflicts state.toClaimRecords (claim.reordered args order)) :
    conflict.id ∉ state.conflicts.map Conflict.id ∧ ∃ existing ∈ state.claims, existing.Contradicts claim ∧
      existing.boundArgs = args ∧ conflict = existing.conflictWith claim := by
  simp only [derivedConflicts, List.mem_insertionSort] at derived
  obtain ⟨existing, recorded, related⟩ := List.mem_filterMap.mp (freshBy_subset derived)
  have opposed := (@structuralConflict_reordered _ existing claim existing.boundArgs args (List.Perm.refl _) order _).mp
    related
  exact ⟨freshBy_nodup.2 conflict derived, existing, recorded, opposed⟩

theorem derivedConflicts_reordered_cover {existing : Claim} (recorded : existing ∈ state.claims)
    (contradicts : existing.Contradicts claim) (sameArgs : existing.boundArgs = args)
    (unknown : (existing.conflictWith claim).id ∉ state.conflicts.map Conflict.id) :
    ∃ conflict, conflict ∈ derivedConflicts state.toClaimRecords (claim.reordered args order) := by
  have related := (@structuralConflict_reordered _ existing claim existing.boundArgs args (List.Perm.refl _) order _).mpr
    ⟨contradicts, sameArgs, rfl⟩
  have listed : existing.conflictWith claim ∈
      state.claims.filterMap (fun item => structuralConflict item (claim.reordered args order)) :=
    List.mem_filterMap.mpr ⟨existing, recorded, related⟩
  rcases (freshBy_covers listed : (existing.conflictWith claim).id ∈ state.conflicts.map Conflict.id ∨ _) with known | kept
  · exact absurd known unknown
  · obtain ⟨conflict, derived, -⟩ := kept
    exact ⟨conflict, by simpa only [derivedConflicts, List.mem_insertionSort] using derived⟩

/-- When the conflicts with all claims that are opposed in some order are known, no order derives one. -/
theorem derivedConflicts_reordered_eq_nil (known : ∀ existing ∈ state.claims, existing.OpposesInSomeOrder claim →
    (existing.conflictWith claim).id ∈ state.conflicts.map Conflict.id) :
    derivedConflicts state.toClaimRecords (claim.reordered args order) = [] := by
  apply List.eq_nil_iff_forall_not_mem.mpr
  intro conflict derived
  obtain ⟨unknown, existing, recorded, contradicts, sameArgs, rfl⟩ := derivedConflicts_reordered derived
  exact unknown (known existing recorded ⟨contradicts, sameArgs ▸ order⟩)

/-- Reordering the arguments of a claim can change with which earlier claims its admission derives conflicts
exactly when it has several arguments and opposes one of them in some order, without a recorded conflict. -/
theorem conflictsOnAdmission_stable_iff (valid : AggregateValid state) :
    (∀ args (order : args.Perm claim.boundArgs), ∀ existing ∈ state.claims,
        (ConflictsOnAdmission state head (claim.reordered args order) existing ↔
          ConflictsOnAdmission state head claim existing)) ↔
      (state.Admits head.inquiryId claim → 2 ≤ claim.boundArgs.length → ∀ existing ∈ state.claims,
        existing.OpposesInSomeOrder claim → (existing.conflictWith claim).id ∈ state.conflicts.map Conflict.id) := by
  constructor
  · intro stable admits several existing recorded opposes
    by_contra unknown
    obtain ⟨contradicts, sameArgs⟩ := opposes
    obtain ⟨conflict, derived⟩ := @derivedConflicts_reordered_cover _ state claim _ sameArgs existing
      recorded contradicts rfl unknown
    obtain ⟨-, other, otherRecorded, -, otherArgs, rfl⟩ := derivedConflicts_reordered derived
    -- the conflict with this claim is derived for every order, so also for one that differs from its own
    obtain ⟨others, otherOrder, different⟩ := exists_other_order existing.boundArgs_nodup
      (sameArgs.length_eq.symm ▸ several)
    have aligned : ConflictsOnAdmission state head (claim.reordered existing.boundArgs sameArgs) other :=
      conflictsOnAdmission_iff.mpr ⟨admits, List.mem_map.mpr ⟨_, derived, rfl⟩⟩
    have crossed := (stable others (otherOrder.trans sameArgs) other otherRecorded).mpr
      ((stable existing.boundArgs sameArgs other otherRecorded).mp aligned)
    obtain ⟨again, againDerived, samePair⟩ := List.mem_map.mp (conflictsOnAdmission_iff.mp crossed).2
    obtain ⟨-, another, anotherRecorded, -, anotherArgs, rfl⟩ := derivedConflicts_reordered againDerived
    have unique : (state.claims.map Claim.id).Nodup := valid.identities_unique _ (by simp [identifiedCollections])
    have sameId : another.id = other.id := by
      rcases Claim.pair_eq samePair with ⟨same, -⟩ | ⟨same, -⟩
      · exact same
      · exact absurd (List.mem_map_of_mem anotherRecorded) (same ▸ admits.2.1)
    obtain rfl := List.inj_on_of_nodup_map unique anotherRecorded otherRecorded sameId
    exact different (anotherArgs.symm.trans otherArgs)
  · intro known args order existing recorded
    rw [conflictsOnAdmission_iff, conflictsOnAdmission_iff]
    have sameAdmission : state.Admits head.inquiryId (claim.reordered args order) ↔ state.Admits head.inquiryId claim :=
      Iff.rfl
    rw [sameAdmission]
    apply and_congr_right
    intro admits
    by_cases several : 2 ≤ claim.boundArgs.length
    · have derived := @derivedConflicts_reordered_eq_nil _ state claim args order (known admits several)
      have underived := @derivedConflicts_reordered_eq_nil _ state claim claim.boundArgs (List.Perm.refl _)
        (known admits several)
      rw [Claim.reordered_self] at underived
      rw [derived, underived]
      exact Iff.rfl
    · obtain rfl := eq_of_perm_of_length_le_one (by omega) order
      exact Iff.rfl

/-- Conflict detection ignores the order of arguments exactly where a claim has at most one argument, or opposes no
other claim over the same named arguments, or the conflict is recorded already. -/
theorem conflict_detection_ignores_order_iff (valid : AggregateValid state) :
    ((∀ leftArgs (leftOrder : leftArgs.Perm left.boundArgs) rightArgs (rightOrder : rightArgs.Perm right.boundArgs),
          structuralConflict (left.reordered leftArgs leftOrder) (right.reordered rightArgs rightOrder) =
            structuralConflict left right) ↔
        (left.OpposesInSomeOrder right → left.boundArgs.length ≤ 1)) ∧
      ((∀ args (order : args.Perm claim.boundArgs), ∀ existing ∈ state.claims,
          (ConflictsOnAdmission state head (claim.reordered args order) existing ↔
            ConflictsOnAdmission state head claim existing)) ↔
        (state.Admits head.inquiryId claim → 2 ≤ claim.boundArgs.length → ∀ existing ∈ state.claims,
          existing.OpposesInSomeOrder claim → (existing.conflictWith claim).id ∈ state.conflicts.map Conflict.id)) :=
  ⟨structuralConflict_stable_iff, conflictsOnAdmission_stable_iff valid⟩

/-- The fingerprint of an obligation does not depend on the order of its arguments. -/
theorem Obligation.fingerprint_reordered (obligation : Obligation) {args : List BoundArgument}
    (order : args.Perm obligation.args) :
    ({ obligation with
        args := args
        names_unique := (order.map BoundArgument.name).nodup_iff.mpr obligation.names_unique } : Obligation).fingerprint =
      obligation.fingerprint := by
  have sorted : args.insertionSort (fun left right => left.name ≤ right.name) =
      obligation.args.insertionSort (fun left right => left.name ≤ right.name) := by
    have total : Std.Total (fun left right : BoundArgument => left.name ≤ right.name) :=
      ⟨fun left right => le_total left.name right.name⟩
    have transitive : IsTrans BoundArgument (fun left right => left.name ≤ right.name) :=
      ⟨fun _ _ _ first second => le_trans first second⟩
    refine insertionSort_eq_of_perm _ order ?_
    intro left leftListed right rightListed ascending descending
    exact List.inj_on_of_nodup_map obligation.names_unique leftListed rightListed (le_antisymm ascending descending)
  unfold Obligation.fingerprint
  rw [sorted]

end

namespace Worked

/-- Assert or deny a proposition of two named arguments. -/
def relation (id : String) (polarity : Polarity) (args : List BoundArgument)
    (names : (args.map BoundArgument.name).Nodup := by decide) : Claim :=
  { claim id "a" with polarity := polarity, boundArgs := args, names_unique := names }

def lampThenRoom : List BoundArgument := [⟨"lamp", .text "L1"⟩, ⟨"room", .text "R1"⟩]

def roomThenLamp : List BoundArgument := [⟨"room", .text "R1"⟩, ⟨"lamp", .text "L1"⟩]

/-- The lamp of the room is lit; it is not. -/
def lit : Claim := relation "claim-p" .positive lampThenRoom

def unlit : Claim := relation "claim-n" .negative lampThenRoom

/-- The assertion is admitted. -/
def asserted : InquiryState := reached [start, .claim (.admitClaim lit)]

/-- The denial is a conflict in the order of the assertion, and none in the other one. -/
theorem asserted_order_matters :
    structuralConflict lit unlit = some (lit.conflictWith unlit) ∧
      structuralConflict lit (unlit.reordered roomThenLamp (List.Perm.swap _ _ _)) = none ∧
      lit ∈ asserted.claims ∧ ConflictsOnAdmission asserted ⟨"event", "inquiry", 0⟩ unlit lit ∧
      ¬ ConflictsOnAdmission asserted ⟨"event", "inquiry", 0⟩
        (unlit.reordered roomThenLamp (List.Perm.swap _ _ _)) lit := by
  rw [conflictsOnAdmission_iff, conflictsOnAdmission_iff]
  decide +kernel

/-- The lamp of another room is not lit, which opposes nothing. -/
def unlitElsewhere : Claim :=
  relation "claim-r" .negative [⟨"lamp", .text "L1"⟩, ⟨"room", .text "R2"⟩]

theorem asserted_order_ignored : AggregateValid asserted ∧
    ∀ args (order : args.Perm unlitElsewhere.boundArgs), ∀ existing ∈ asserted.claims,
      (ConflictsOnAdmission asserted ⟨"event", "inquiry", 0⟩ (unlitElsewhere.reordered args order) existing ↔
        ConflictsOnAdmission asserted ⟨"event", "inquiry", 0⟩ unlitElsewhere existing) := by
  have valid : AggregateValid asserted := (reachable_reached _).replayable.aggregateValid
  refine ⟨valid, (@conflict_detection_ignores_order_iff _ asserted _ lit unlit unlitElsewhere valid).2.mpr ?_⟩
  have owned : asserted.claims = [lit] := by decide +kernel
  intro _ _ existing member opposes
  rw [owned, List.mem_singleton] at member
  rw [member] at opposes
  have rooms : (⟨"room", .text "R1"⟩ : BoundArgument) ∈ unlitElsewhere.boundArgs := opposes.2.subset (by decide)
  exact absurd rooms (by decide)

end Worked

end RatchetingInquiry
