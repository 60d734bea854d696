import RatchetingInquiry.Core.Rebuild
import RatchetingInquiry.Invariants.Warrants

/-! Promotions and the current theory. A promotion grounds its dependencies over the minimal routes of the
recorded lemmas, without their standing histories and without nogoods, while the current theory takes both
into account. The two agree as long as no dependency rests on a withdrawn or a defeated route. -/

namespace RatchetingInquiry

/-- The lemma identities that routes need, directly or through the minimal routes of other lemmas. -/
inductive DependsOn (lemmas : List WarrantedLemma) (routes : List SupportRoute) : String → Prop
  | direct (route : SupportRoute) (member : route ∈ routes) (dependency : String)
      (required : dependency ∈ route.requiredDependencyIds) : DependsOn lemmas routes dependency
  | through (warranted : WarrantedLemma) (owned : warranted ∈ lemmas)
      (needed : DependsOn lemmas routes warranted.id) (route : SupportRoute)
      (member : route ∈ warranted.support.supportRoutes) (dependency : String)
      (required : dependency ∈ route.requiredDependencyIds) : DependsOn lemmas routes dependency

section
variable [Fingerprints]

/-- Every minimal route by which the lemma may stand in the context is neither withdrawn nor defeated by a
nogood that stands. -/
def WarrantedLemma.isIntact (warranted : WarrantedLemma) (state : InquiryState) (context : InquiryContext) : Bool :=
  warranted.support.supportRoutes.all (fun route =>
    !routeApplicable warranted route context.assumptionIds (sortedIds state.standingContextIds) []
        (state.checkRecords context) ||
      (routeStands state.supportRouteStandingChanges route.id &&
        state.nogoods.all (fun nogood => !nogoodStands state.nogoodStandingChanges nogood.id ||
          !nogood.defeats route.environment (state.checkRecords context) warranted.support.policyVersion)))

/-- The lemmas that a promotion depends on, directly or through others, are intact. -/
def Promotion.dependenciesIntact (promotion : Promotion) (state : InquiryState) (context : InquiryContext) : Prop :=
  ∀ warranted ∈ sameSupportClass (promotion.request context) state.warrantedLemmas,
    DependsOn (sameSupportClass (promotion.request context) state.warrantedLemmas) promotion.supportRoutes warranted.id →
      warranted.isIntact state context = true

variable {state : InquiryState} {context : InquiryContext} {promotion : Promotion}

/-- A promotion and the current theory select the same support class. -/
theorem request_class_eq (pinned : state.context = some context)
    (matching : scopeMatchesContext state.context promotion.scope = true) {warranted : WarrantedLemma}
    (member : warranted ∈ sameSupportClass (promotion.request context) state.warrantedLemmas) :
    warranted ∈ state.warrantedLemmas ∧
      warranted.supportClass = (theorySelector context state.toClaimRecords).supportClass := by
  simp only [sameSupportClass, List.mem_filter, decide_eq_true_eq] at member
  obtain ⟨owned, sameClass⟩ := member
  simp only [scopeMatchesContext, pinned, Option.any_some, Bool.and_eq_true, decide_eq_true_eq] at matching
  obtain ⟨⟨⟨⟨⟨⟨-, fingerprint⟩, binding⟩, -⟩, -⟩, sameUniverse⟩, -⟩ := matching
  refine ⟨owned, sameClass.trans ?_⟩
  simp only [Promotion.request, TheorySelector.supportClass, theorySelector, fingerprint, binding, sameUniverse]

/-- A route stays applicable when its assumptions, its guard and its checks are kept and no nogood that is
left defeats it. -/
theorem routeApplicable_kept {warranted current : WarrantedLemma} {route : SupportRoute}
    {assumptions currentAssumptions contexts currentContexts : List String} {nogoods currentNogoods : List Nogood}
    {records currentRecords : CheckRecords} (sameVersion : current.version = warranted.version)
    (samePolicy : current.support.policyVersion = warranted.support.policyVersion)
    (applicable : routeApplicable warranted route assumptions contexts nogoods records = true)
    (assumed : assumptions ⊆ currentAssumptions) (guarded : contexts ⊆ currentContexts)
    (resolves : ∀ reference propositionId propositionKind scopeFingerprint,
      (records.resolve reference propositionId propositionKind scopeFingerprint).1 = true →
        (currentRecords.resolve reference propositionId propositionKind scopeFingerprint).1 = true)
    (undefeated : ∀ nogood ∈ currentNogoods,
      nogood.defeats route.environment currentRecords warranted.support.policyVersion = false) :
    routeApplicable current route currentAssumptions currentContexts currentNogoods currentRecords = true := by
  simp only [routeApplicable, supportEnvironmentStands, Applicability.stands, Bool.and_eq_true, Bool.or_eq_true,
    decide_eq_true_eq, Bool.not_eq_true', List.any_eq_false, sameVersion, samePolicy] at applicable ⊢
  obtain ⟨⟨⟨⟨⟨scope, binding⟩, sameUniverse⟩, certificate⟩, guard, preconditions⟩, ⟨realizable, within⟩, -⟩ := applicable
  refine ⟨⟨⟨⟨⟨scope, binding⟩, sameUniverse⟩, resolves _ _ _ _ certificate⟩, ?_, List.Subset.trans preconditions guarded⟩,
    ⟨resolves _ _ _ _ realizable, List.Subset.trans within assumed⟩, ?_⟩
  · exact guard.imp_right (fun active => guarded active)
  · intro nogood member defeated
    exact Bool.false_ne_true ((undefeated nogood member).symm.trans defeated)

/-- A dependency that a promotion grounds is grounded in the current theory, if the dependencies are intact. -/
theorem dependency_grounded (pinned : state.context = some context)
    (matching : scopeMatchesContext state.context promotion.scope = true)
    (intact : promotion.dependenciesIntact state context) :
    ∀ lemmaId ∈ groundedLemmaIds (sameSupportClass (promotion.request context) state.warrantedLemmas)
      context.assumptionIds (sortedIds state.standingContextIds) [] (state.checkRecords context),
      DependsOn (sameSupportClass (promotion.request context) state.warrantedLemmas) promotion.supportRoutes lemmaId →
        lemmaId ∈ theoryGrounded state.warrantedLemmas (theorySelector context state.toClaimRecords) state.nogoods
          state.supportRouteStandingChanges state.nogoodStandingChanges (state.checkRecords context) := by
  refine grounded_within ?_
  intro warranted member needed hard route routeOwned applicable
  obtain ⟨owned, sameClass⟩ := request_class_eq pinned matching member
  have kept := intact warranted member needed
  simp only [WarrantedLemma.isIntact, List.all_eq_true] at kept
  have routeKept := kept route routeOwned
  simp only [applicable, Bool.not_true, Bool.false_or, Bool.and_eq_true, List.all_eq_true] at routeKept
  obtain ⟨stands, undefeated⟩ := routeKept
  have routeSelected : route ∈ (warranted.restricted state.supportRouteStandingChanges).support.supportRoutes := by
    simp only [WarrantedLemma.restricted, LemmaSupport.allSupportRoutes, List.mem_filter, List.mem_append]
    exact ⟨.inl routeOwned, stands⟩
  have selected : warranted.restricted state.supportRouteStandingChanges ∈ selectedLemmas state.warrantedLemmas
      (theorySelector context state.toClaimRecords) state.supportRouteStandingChanges :=
    mem_selectedLemmas.mpr ⟨warranted, owned, sameClass, List.ne_nil_of_mem routeSelected, rfl⟩
  have sameAssumptions : context.assumptionIds ⊆ sortedIds context.assumptionIds :=
    fun assumption assumed => (List.perm_insertionSort _ _).mem_iff.mpr assumed
  have standingUndefeated : ∀ nogood ∈ selectedNogoods state.nogoods (theorySelector context state.toClaimRecords)
      state.nogoodStandingChanges, nogood.defeats route.environment (state.checkRecords context)
        warranted.support.policyVersion = false := by
    intro nogood listed
    simp only [selectedNogoods, List.mem_filter, Bool.and_eq_true] at listed
    have spared := undefeated nogood listed.1
    simpa [listed.2.2] using spared
  refine ⟨fun dependency required => .through warranted member needed route routeOwned dependency required, _,
    selected, rfl, hard, routeSelected, ?_⟩
  exact routeApplicable_kept rfl rfl applicable sameAssumptions (List.Subset.refl _) (fun _ _ _ _ resolved => resolved)
    standingUndefeated

theorem activeLemmaIds_of_grounded {lemmaId : String} (pinned : state.context = some context)
    (grounded : lemmaId ∈ theoryGrounded state.warrantedLemmas (theorySelector context state.toClaimRecords)
      state.nogoods state.supportRouteStandingChanges state.nogoodStandingChanges (state.checkRecords context)) :
    lemmaId ∈ state.activeLemmaIds := by
  obtain ⟨view, active, rfl⟩ := grounded_active grounded
  refine List.mem_map.mpr ⟨view, ?_, rfl⟩
  unfold InquiryState.activeTheory
  rw [pinned]
  exact active

/-- Nothing that a lemma of the current theory stands on is taken away between the two states. -/
structure SupportKept (before after : InquiryState) : Prop where
  context : after.context = before.context
  grown : before.toWarrantRecords.Extends after.toWarrantRecords
  routes : ∀ routeId, routeStands before.supportRouteStandingChanges routeId = true →
    routeStands after.supportRouteStandingChanges routeId = true
  nogoods : ∀ nogood ∈ after.nogoods, nogoodStands after.nogoodStandingChanges nogood.id = true →
    nogood ∈ before.nogoods ∧ nogoodStands before.nogoodStandingChanges nogood.id = true
  contexts : before.standingContextIds ⊆ after.standingContextIds

section
variable {before after : InquiryState}

/-- A check that resolved still resolves when evidence and verdicts were only added. -/
theorem resolve_extended (grown : before.toWarrantRecords.Extends after.toWarrantRecords)
    (valid : AggregateValid after) {reference : CheckReference} {propositionId : String}
    {propositionKind : PropositionKind} {scopeFingerprint : String}
    (resolves : ((before.checkRecords context).resolve reference propositionId propositionKind scopeFingerprint).1 = true) :
    ((after.checkRecords context).resolve reference propositionId propositionKind scopeFingerprint).1 = true := by
  have evidenceIds : (after.evidenceRecords.map Evidence.id).Nodup :=
    valid.identities_unique _ (by simp [identifiedCollections])
  have verdictIds : (after.checkerVerdicts.map CheckerVerdictRecord.id).Nodup :=
    valid.identities_unique _ (by simp [identifiedCollections])
  obtain ⟨evidence, verdict, evidenceOwned, verdictOwned, checked⟩ := CheckRecords.resolve_true_iff.mp resolves
  exact CheckRecords.resolve_true_iff.mpr ⟨evidence, verdict, indexBy_grown grown.evidence evidenceIds evidenceOwned,
    indexBy_grown grown.verdicts verdictIds verdictOwned, checked⟩

/-- A recorded nogood defeats later only what it defeated before: its check was owned from the start. -/
theorem defeats_before (grown : before.toWarrantRecords.Extends after.toWarrantRecords)
    (valid : AggregateValid before) (validAfter : AggregateValid after) {nogood : Nogood}
    (member : nogood ∈ before.nogoods) {environment : SupportEnvironment} {policyVersion : String}
    (defeated : nogood.defeats environment (after.checkRecords context) policyVersion = true) :
    nogood.defeats environment (before.checkRecords context) policyVersion = true := by
  have evidenceIds : (after.evidenceRecords.map Evidence.id).Nodup :=
    validAfter.identities_unique _ (by simp [identifiedCollections])
  have verdictIds : (after.checkerVerdicts.map CheckerVerdictRecord.id).Nodup :=
    validAfter.identities_unique _ (by simp [identifiedCollections])
  have checked := valid.warrants_valid.nogoods nogood member
  simp only [validateNogood, found_bind_eq_ok, Option.filter_eq_some_iff] at checked
  obtain ⟨evidence, evidenceOwned, verdict, ⟨verdictOwned, -⟩, -⟩ := checked
  simp only [Nogood.defeats, Bool.and_eq_true] at defeated ⊢
  obtain ⟨⟨pins, resolves⟩, incompatible⟩ := defeated
  refine ⟨⟨pins, ?_⟩, incompatible⟩
  obtain ⟨laterEvidence, laterVerdict, laterEvidenceOwned, laterVerdictOwned, pair⟩ :=
    CheckRecords.resolve_true_iff.mp resolves
  have sameEvidence := (indexBy_grown grown.evidence evidenceIds evidenceOwned).symm.trans laterEvidenceOwned
  have sameVerdict := (indexBy_grown grown.verdicts verdictIds verdictOwned).symm.trans laterVerdictOwned
  obtain rfl := Option.some.inj sameEvidence
  obtain rfl := Option.some.inj sameVerdict
  exact CheckRecords.resolve_true_iff.mpr ⟨evidence, verdict, evidenceOwned, verdictOwned, pair⟩

omit [Fingerprints] in
theorem warrantedLemmas_extended {earlier later : WarrantRecords} (grown : earlier.Extends later)
    (supportIds : (later.lemmaSupports.map LemmaSupport.lemmaVersionId).Nodup) :
    earlier.warrantedLemmas ⊆ later.warrantedLemmas := by
  intro warranted member
  simp only [WarrantRecords.warrantedLemmas, List.mem_filterMap, Option.map_eq_some_iff] at member ⊢
  obtain ⟨version, owned, support, hit, same⟩ := member
  exact ⟨version, grown.versions.subset owned, support, indexBy_grown grown.supports supportIds hit, same⟩

/-- Lemmas stay active as long as nothing that they stand on is taken away. -/
theorem activeLemmaIds_kept (valid : AggregateValid before) (validAfter : AggregateValid after)
    (kept : SupportKept before after) : before.activeLemmaIds ⊆ after.activeLemmaIds := by
  intro lemmaId active
  obtain ⟨view, seen, rfl⟩ := List.mem_map.mp active
  obtain ⟨context, pinned, warranted, -, shown⟩ := activeTheory_shows seen
  refine activeLemmaIds_of_grounded (kept.context.trans pinned) ?_
  rw [shown.named]
  refine grounded_within (P := fun _ => True) ?_ _ shown.is_grounded trivial
  intro selected member _ hard route routeOwned applicable
  refine ⟨fun _ _ => trivial, ?_⟩
  obtain ⟨origin, owned, sameClass, -, rfl⟩ := mem_selectedLemmas.mp member
  simp only [WarrantedLemma.restricted, List.mem_filter] at routeOwned
  have routeSelected : route ∈ (origin.restricted after.supportRouteStandingChanges).support.supportRoutes := by
    simp only [WarrantedLemma.restricted, List.mem_filter]
    exact ⟨routeOwned.1, kept.routes route.id routeOwned.2⟩
  have originOwned := warrantedLemmas_extended kept.grown validAfter.warrants_valid.supports_unique owned
  have selected : origin.restricted after.supportRouteStandingChanges ∈ selectedLemmas after.warrantedLemmas
      (theorySelector context after.toClaimRecords) after.supportRouteStandingChanges :=
    mem_selectedLemmas.mpr ⟨origin, originOwned, sameClass, List.ne_nil_of_mem routeSelected, rfl⟩
  refine ⟨_, selected, rfl, hard, routeSelected, ?_⟩
  have sorted : sortedIds before.standingContextIds ⊆ sortedIds after.standingContextIds := by
    intro conditionId standing
    have earlier := (List.perm_insertionSort _ _).mem_iff.mp standing
    exact (List.perm_insertionSort _ _).mem_iff.mpr (kept.contexts earlier)
  refine routeApplicable_kept rfl rfl applicable (List.Subset.refl _) sorted
    (fun _ _ _ _ => resolve_extended kept.grown validAfter) ?_
  intro nogood listed
  simp only [selectedNogoods, List.mem_filter, Bool.and_eq_true] at listed
  obtain ⟨earlier, stood⟩ := kept.nogoods nogood listed.1 listed.2.2
  have selectedBefore : nogood ∈ selectedNogoods before.nogoods (theorySelector context before.toClaimRecords)
      before.nogoodStandingChanges := by
    simp only [selectedNogoods, List.mem_filter, Bool.and_eq_true]
    exact ⟨earlier, listed.2.1, stood⟩
  by_contra defeats
  have defeated := defeats_before kept.grown valid validAfter earlier (Bool.not_eq_false _ ▸ defeats)
  simp only [routeApplicable, supportEnvironmentStands, Bool.and_eq_true, Bool.not_eq_true', List.any_eq_false]
    at applicable
  exact applicable.2.2 nogood selectedBefore defeated

end

/-- The new lemma has a route whose dependencies are all active in the state that promotes it. -/
def StandsOnTheory (state : InquiryState) (support : LemmaSupport) : Prop :=
  ∃ route ∈ support.allSupportRoutes, route.requiredDependencyIds ⊆ state.activeLemmaIds

/-- A promotion whose dependencies are intact stands on the current theory. -/
theorem promotion_stands_on_theory {head : EventMetadata} {version : LemmaVersion} {support : LemmaSupport}
    {link : PromotionLink} (pinned : state.context = some context) (intact : promotion.dependenciesIntact state context)
    (accepted : decide state ⟨head, .warrant (.promoteClaim promotion)⟩ =
      .ok [⟨head, .warrant (.lemmaPromoted version support link)⟩]) : StandsOnTheory state support := by
  obtain ⟨-, decided⟩ := decide_singleton.mp accepted
  obtain ⟨proposal, pins, decision, evidence, verdict, same, passed, -⟩ := (decideBody_proposed decided).promotion
  simp only [CommandBody.warrant.injEq, WarrantCommand.promoteClaim.injEq] at same
  subst same
  obtain rfl : pins = context := Option.some.inj (passed.context_pinned.symm.trans pinned)
  obtain ⟨route, minimal, closed⟩ := passed.accepted.closed
  have member : route ∈ support.allSupportRoutes := List.mem_append_left _ minimal
  refine ⟨route, member, ?_⟩
  simp only [routeClosed, Bool.and_eq_true, decide_eq_true_eq] at closed
  obtain ⟨⟨⟨⟨⟨⟨-, grounded⟩, -⟩, -⟩, -⟩, -⟩, -⟩ := closed
  intro dependency required
  have needed : DependsOn (sameSupportClass (promotion.request pins) state.warrantedLemmas) promotion.supportRoutes
      dependency := .direct route (passed.routes_perm.mem_iff.mp member) dependency required
  exact activeLemmaIds_of_grounded pinned
    (dependency_grounded pinned passed.scope_matches intact dependency (grounded required) needed)

end

namespace Worked

/-- A second lemma whose only route needs the first. -/
def dependent : Promotion where
  promotionId := "promotion-b"
  lemmaId := "lemma-b"
  relationId := "b"
  propositionKind := .existential
  scope := scope
  applicability := ⟨"always", []⟩
  supportRoutes := [route "route-b" "lemma-b" "decision-b" ⟨"evidence-b", "verdict-b"⟩ (some "lemma-a")]
  warrantDecisionId := "decision-b"
  provenanceRefs := ["provenance"]
  sourceClaimIds := ["claim-b"]

/-- The support that the promotion of the second lemma records. -/
def dependentSupport (state : InquiryState) : LemmaSupport :=
  (dependent.request context).support (verdict "verdict-b" (evidence "evidence-b" "b")) state.checkerVerdicts

/-- The event that the promotion of the second lemma proposes. -/
def dependentPromoted (state : InquiryState) : DomainEvent where
  head := (command (.warrant (.promoteClaim dependent))).head
  body := .warrant (.lemmaPromoted (dependent.request context).version (dependentSupport state)
    (dependent.link "lemma-b" "decision-b"))

def beforeDependent : InquiryState := reached (promoted ++ warranted "b" "b")

/-- The only route of the first lemma is withdrawn before the second is promoted. -/
def afterWithdrawal : InquiryState :=
  reached (promoted ++ warranted "b" "b" ++
    [.warrant (.changeSupportRouteStanding ⟨"change", "route-a", .withdrawn, "reason", none⟩)])

theorem dependent_stands_on_theory :
    (dependentSupport beforeDependent).allSupportRoutes.map SupportRoute.requiredDependencyIds = [["lemma-a"]] ∧
      StandsOnTheory beforeDependent (dependentSupport beforeDependent) := by
  refine ⟨by decide +kernel, ?_⟩
  have pinned : beforeDependent.context = some context := by decide +kernel
  have accepted : decide beforeDependent (command (.warrant (.promoteClaim dependent))) =
      .ok [dependentPromoted beforeDependent] := by decide +kernel
  have intact : ∀ warranted ∈ sameSupportClass (dependent.request context) beforeDependent.warrantedLemmas,
      warranted.isIntact beforeDependent context = true := by decide +kernel
  exact promotion_stands_on_theory pinned (fun warranted member _ => intact warranted member) accepted

theorem withdrawn_dependency_promoted : ¬ ∀ state, Reachable state → ∀ head promotion version support link,
    decide state ⟨head, .warrant (.promoteClaim promotion)⟩ =
      .ok [⟨head, .warrant (.lemmaPromoted version support link)⟩] → StandsOnTheory state support := by
  intro claimed
  have accepted : decide afterWithdrawal (command (.warrant (.promoteClaim dependent))) =
      .ok [dependentPromoted afterWithdrawal] := by decide +kernel
  obtain ⟨route, member, active⟩ := claimed afterWithdrawal (reachable_reached _) _ _ _ _ _ accepted
  have inactive : ∀ route ∈ (dependentSupport afterWithdrawal).allSupportRoutes,
      ¬ route.requiredDependencyIds ⊆ afterWithdrawal.activeLemmaIds := by decide +kernel
  exact inactive route member active

end Worked

end RatchetingInquiry
