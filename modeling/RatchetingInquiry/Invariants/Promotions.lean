import Mathlib.Data.List.Dedup
import RatchetingInquiry.Invariants.Warrants
import RatchetingInquiry.Warrant.Antichain

/-! What the order and the number of the offered routes mean for a promotion. An accepted lemma has all
of them, split canonically: it is the same lemma for every order of the routes, also for the order in which
the lemma itself lists them. A further route can displace the closed routes of an accepted promotion. -/

namespace RatchetingInquiry

/-- The same proposal over other routes. -/
def PromotionRequest.over (request : PromotionRequest) (routes : List SupportRoute) : PromotionRequest :=
  { request with supportRoutes := routes }

/-- The certificates of routes do not depend on the order of the routes. -/
theorem certificateRefs_eq_of_perm {routes others : List SupportRoute} (same : others.Perm routes)
    (verdict : CheckerVerdictRecord) (checkerVerdictById : String → Option CheckerVerdictRecord) :
    certificateRefs others verdict checkerVerdictById = certificateRefs routes verdict checkerVerdictById := by
  unfold certificateRefs
  apply sortedIds_eq_of_perm
  apply List.Perm.filterMap
  apply List.Perm.dedup
  exact (same.flatMap_right _).cons _

section
variable [Fingerprints]
variable {request : PromotionRequest} {evidence : Evidence} {verdict : CheckerVerdictRecord} {records : CheckRecords}
  {existing : List WarrantedLemma} {currentAssumptionIds currentContextIds : List String} {reason : String}
  {warranted : WarrantedLemma}

omit [Fingerprints] in
theorem PromotionRequest.support_eq_of_perm {others : List SupportRoute} (same : others.Perm request.supportRoutes)
    (distinct : (request.supportRoutes.map SupportRoute.id).Nodup) (checkerVerdicts : List CheckerVerdictRecord) :
    (request.over others).support verdict checkerVerdicts = request.support verdict checkerVerdicts := by
  unfold PromotionRequest.support PromotionRequest.over
  simp only
  rw [sortedRoutes_eq_of_perm same distinct, certificateRefs_eq_of_perm same]

/-- The routes of a valid proposal have distinct identities. -/
theorem PromotionAccepted.routes_distinct
    (passed : PromotionAccepted request evidence verdict records existing currentAssumptionIds currentContextIds
      warranted) : (request.supportRoutes.map SupportRoute.id).Nodup := by
  obtain ⟨-, valid, -, -⟩ := promotionCandidate_eq_ok.mp passed.built
  have routes : (request.support verdict records.checkerVerdicts).allSupportRoutes.Perm request.supportRoutes :=
    (splitMinimal_perm _).trans (sortedRoutes_perm _)
  exact (routes.map SupportRoute.id).nodup_iff.mp valid.routes_unique

theorem PromotionAccepted.support_eq
    (passed : PromotionAccepted request evidence verdict records existing currentAssumptionIds currentContextIds
      warranted) : warranted.support = request.support verdict records.checkerVerdicts := by
  obtain ⟨-, -, -, same⟩ := promotionCandidate_eq_ok.mp passed.built
  rw [same]

/-- An accepted promotion is accepted with the same lemma for every order of its routes. -/
theorem PromotionAccepted.reordered
    (passed : PromotionAccepted request evidence verdict records existing currentAssumptionIds currentContextIds
      warranted) {others : List SupportRoute} (same : others.Perm request.supportRoutes) :
    PromotionAccepted (request.over others) evidence verdict records existing currentAssumptionIds
      currentContextIds warranted where
  policy_named := passed.policy_named
  evidence_owned := passed.evidence_owned
  verdict_owned := passed.verdict_owned
  hard := passed.hard
  routes_given := by
    intro empty
    have none_given : others = [] := empty
    rw [none_given] at same
    exact passed.routes_given same.nil_eq.symm
  conclusions := by
    intro route given
    exact passed.conclusions route (same.mem_iff.mp given)
  built := by
    rw [← passed.built]
    unfold promotionCandidate
    rw [PromotionRequest.support_eq_of_perm same passed.routes_distinct]
    rfl
  support_acyclic := passed.support_acyclic
  ancestry_acyclic := passed.ancestry_acyclic
  applicable := passed.applicable
  closed := passed.closed

/-- The partition of the offered routes is canonical. -/
theorem promotion_canonical
    (accepted : decidePromotion request evidence verdict records existing currentAssumptionIds currentContextIds =
      .ok (.accepted reason warranted)) :
    (warranted.support.supportRoutes ++ warranted.support.historicalSupportRoutes).Perm request.supportRoutes ∧
    ((warranted.support.supportRoutes ++ warranted.support.historicalSupportRoutes).map SupportRoute.id).Nodup ∧
    warranted.support.supportRoutes.Pairwise (fun left right =>
      ¬ left.environment.assumptionIds ⊆ right.environment.assumptionIds ∧
        ¬ right.environment.assumptionIds ⊆ left.environment.assumptionIds) ∧
    (∀ historical ∈ warranted.support.historicalSupportRoutes, ∃ current ∈ warranted.support.supportRoutes,
      current.environment.assumptionIds ⊆ historical.environment.assumptionIds) ∧
    (∀ others : List SupportRoute, others.Perm request.supportRoutes →
      decidePromotion (request.over others) evidence verdict records existing currentAssumptionIds currentContextIds =
        .ok (.accepted reason warranted)) ∧
    decidePromotion
        (request.over (warranted.support.supportRoutes ++ warranted.support.historicalSupportRoutes)) evidence verdict
        records existing currentAssumptionIds currentContextIds =
      .ok (.accepted reason warranted) := by
  obtain ⟨passed, reasoned⟩ := decidePromotion_accepted_iff.mp accepted
  have routes : (warranted.support.supportRoutes ++ warranted.support.historicalSupportRoutes).Perm
      request.supportRoutes := by
    rw [passed.support_eq]
    exact (splitMinimal_perm _).trans (sortedRoutes_perm _)
  have reordered : ∀ others : List SupportRoute, others.Perm request.supportRoutes →
      decidePromotion (request.over others) evidence verdict records existing currentAssumptionIds currentContextIds =
        .ok (.accepted reason warranted) := by
    intro others same
    exact decidePromotion_accepted_iff.mpr ⟨passed.reordered same, reasoned⟩
  have incomparable := minimalRoutes_incomparable request.supportRoutes
  refine ⟨routes, (routes.map SupportRoute.id).nodup_iff.mpr passed.routes_distinct, ?_, ?_, reordered,
    reordered _ routes⟩
  · rw [passed.support_eq]
    exact incomparable.imp (fun apart => by simpa [SupportRoute.within] using apart)
  · intro historical aside
    rw [passed.support_eq] at aside ⊢
    obtain ⟨current, kept, inside⟩ := minimalSplit_aside SupportRoute.within aside
    exact ⟨current, kept, by simpa [SupportRoute.within] using inside⟩

/-- The lemmas that the dependencies of a proposed route may name. -/
def groundedFor (request : PromotionRequest) (records : CheckRecords) (existing : List WarrantedLemma)
    (currentAssumptionIds currentContextIds : List String) : List String :=
  groundedLemmaIds (sameSupportClass request existing) currentAssumptionIds currentContextIds [] records

/-- A further route that a promotion may be offered: it has an identity of its own, it concludes the lemma
inside the lemma's scope, and with it the support graph stays acyclic and the certificates distinct. -/
structure RouteOffered (request : PromotionRequest) (verdict : CheckerVerdictRecord) (records : CheckRecords)
    (existing : List WarrantedLemma) (route : SupportRoute) (routes : List SupportRoute) : Prop where
  added : routes.Perm (route :: request.supportRoutes)
  fresh : route.id ∉ request.supportRoutes.map SupportRoute.id
  concludes : route.conclusionId = request.lemmaId
  in_scope : route.environment.scopeFingerprint = request.scope.fingerprint
  in_binding : route.environment.bindingRevision = request.scope.bindingRevision
  in_universe : route.environment.finiteUniverseHash = request.scope.finiteUniverseHash
  acyclic : supportGraphIsAcyclic (existing ++
    [⟨request.version, (request.over routes).support verdict records.checkerVerdicts⟩]) = true
  certificates : (certificateRefs routes verdict (checkerVerdictIndex records.checkerVerdicts)).Nodup

section
variable {route : SupportRoute} {routes : List SupportRoute}

omit [Fingerprints] in
theorem RouteOffered.distinct [Fingerprints] (offered : RouteOffered request verdict records existing route routes)
    (unique : (request.supportRoutes.map SupportRoute.id).Nodup) : (routes.map SupportRoute.id).Nodup := by
  rw [(offered.added.map SupportRoute.id).nodup_iff]
  exact List.nodup_cons.mpr ⟨offered.fresh, unique⟩

/-- The proposal with the further route is a valid lemma. -/
theorem RouteOffered.built (offered : RouteOffered request verdict records existing route routes)
    (passed : PromotionAccepted request evidence verdict records existing currentAssumptionIds currentContextIds
      warranted) :
    promotionCandidate (request.over routes) verdict records =
      .ok ⟨request.version, (request.over routes).support verdict records.checkerVerdicts⟩ := by
  obtain ⟨version, valid, joined, same⟩ := promotionCandidate_eq_ok.mp passed.built
  have all : ((request.over routes).support verdict records.checkerVerdicts).allSupportRoutes.Perm routes :=
    (splitMinimal_perm _).trans (sortedRoutes_perm _)
  have given : ∀ other ∈ ((request.over routes).support verdict records.checkerVerdicts).allSupportRoutes,
      other = route ∨ other ∈ request.supportRoutes := by
    intro other member
    exact List.mem_cons.mp (offered.added.mem_iff.mp (all.mem_iff.mp member))
  refine promotionCandidate_eq_ok.mpr ⟨version, ?_, ?_, rfl⟩
  · refine ⟨valid.policy_named, ?_, ?_, ?_, ?_, ?_, offered.certificates, valid.references_unique.2⟩
    · apply splitMinimal_ne_nil
      intro empty
      have none_sorted := sortedRoutes_perm routes
      rw [show sortedRoutes routes = [] from empty] at none_sorted
      have none_given := none_sorted.nil_eq
      rw [← none_given] at offered
      exact List.cons_ne_nil _ _ offered.added.nil_eq.symm
    · exact (all.map SupportRoute.id).nodup_iff.mpr (offered.distinct passed.routes_distinct)
    · intro other member
      rcases given other member with rfl | old
      · exact offered.concludes
      · exact passed.conclusions other old
    · refine (minimalRoutes_incomparable routes).imp ?_
      intro left right apart
      simp only [SupportRoute.within, decide_eq_false_iff_not] at apart
      exact iff_of_false apart.1 apart.2
    · intro historical aside
      obtain ⟨current, kept, inside⟩ := minimalSplit_aside SupportRoute.within aside
      exact ⟨current, kept, by simpa [SupportRoute.within] using inside⟩
  · refine ⟨rfl, ?_⟩
    intro other member
    rcases given other member with rfl | old
    · exact ⟨offered.in_scope, offered.in_binding, offered.in_universe⟩
    · have kept : other ∈ warranted.support.allSupportRoutes := by
        rw [passed.support_eq]
        exact ((splitMinimal_perm _).trans (sortedRoutes_perm _)).mem_iff.mpr old
      rw [same] at joined kept
      exact joined.routes_inside other kept

/-- A further route displaces the minimal routes that sort after it and contain its environment. -/
theorem RouteOffered.mem_minimal (offered : RouteOffered request verdict records existing route routes)
    (unique : (request.supportRoutes.map SupportRoute.id).Nodup) {kept : SupportRoute} :
    kept ∈ minimalRoutes routes ↔
      (kept = route ∧ ∀ other ∈ request.supportRoutes, other.before route → other.within route = false) ∨
      (kept ∈ minimalRoutes request.supportRoutes ∧ ¬ (route.before kept ∧ route.within kept = true)) := by
  have members : ∀ other, other ∈ routes ↔ other = route ∨ other ∈ request.supportRoutes := by
    intro other
    rw [offered.added.mem_iff, List.mem_cons]
  have unordered : ¬ route.before route := fun precedes => lt_irrefl _ (SupportRoute.before_iff.mp precedes)
  rw [mem_minimalRoutes (offered.distinct unique), mem_minimalRoutes unique]
  simp only [members, forall_eq_or_imp]
  constructor
  · intro ⟨given, routeClear, othersClear⟩
    rcases given with rfl | old
    · exact .inl ⟨rfl, othersClear⟩
    · refine .inr ⟨⟨old, othersClear⟩, ?_⟩
      intro ⟨precedes, inside⟩
      rw [routeClear precedes] at inside
      simp at inside
  · intro minimal
    rcases minimal with ⟨rfl, othersClear⟩ | ⟨⟨old, othersClear⟩, clear⟩
    · exact ⟨.inl rfl, fun precedes => absurd precedes unordered, othersClear⟩
    · refine ⟨.inr old, ?_, othersClear⟩
      intro precedes
      by_contra inside
      exact clear ⟨precedes, by simpa using inside⟩

end

/-- A promotion that is accepted stays accepted with a further route exactly when that route is closed
itself or leaves a closed route minimal. -/
theorem promotion_with_route {route : SupportRoute} {routes : List SupportRoute}
    (accepted : decidePromotion request evidence verdict records existing currentAssumptionIds currentContextIds =
      .ok (.accepted reason warranted))
    (offered : RouteOffered request verdict records existing route routes) :
    (∃ later, decidePromotion (request.over routes) evidence verdict records existing currentAssumptionIds
        currentContextIds = .ok (.accepted reason later)) ↔
      routeClosed request records (groundedFor request records existing currentAssumptionIds currentContextIds)
          route = true ∨
        ∃ kept ∈ warranted.support.supportRoutes,
          routeClosed request records (groundedFor request records existing currentAssumptionIds currentContextIds)
            kept = true ∧
          ¬ (route.before kept ∧ route.environment.assumptionIds ⊆ kept.environment.assumptionIds) := by
  obtain ⟨passed, reasoned⟩ := decidePromotion_accepted_iff.mp accepted
  have unique := passed.routes_distinct
  have closedOld := passed.closed
  have kept_iff : ∀ kept : SupportRoute, kept ∈ warranted.support.supportRoutes ↔
      kept ∈ minimalRoutes request.supportRoutes := by
    intro kept
    rw [passed.support_eq]
    rfl
  have within_iff : ∀ kept : SupportRoute, route.within kept = true ↔
      route.environment.assumptionIds ⊆ kept.environment.assumptionIds := by
    intro kept
    simp [SupportRoute.within]
  constructor
  · intro acceptable
    obtain ⟨later, acceptedLater⟩ := acceptable
    obtain ⟨passedLater, -⟩ := decidePromotion_accepted_iff.mp acceptedLater
    obtain ⟨kept, member, closed⟩ := passedLater.closed
    rw [passedLater.support_eq] at member
    rcases (offered.mem_minimal unique).mp member with ⟨rfl, -⟩ | ⟨old, clear⟩
    · exact .inl closed
    · refine .inr ⟨kept, (kept_iff kept).mpr old, closed, ?_⟩
      rw [← within_iff]
      exact clear
  · intro condition
    have closed : ∃ kept ∈ minimalRoutes routes, routeClosed request records
        (groundedFor request records existing currentAssumptionIds currentContextIds) kept = true := by
      by_cases displaced : ∀ other ∈ request.supportRoutes, other.before route → other.within route = false
      · rcases condition with routeIsClosed | ⟨kept, member, isClosed, clear⟩
        · exact ⟨route, (offered.mem_minimal unique).mpr (.inl ⟨rfl, displaced⟩), routeIsClosed⟩
        · rw [← within_iff] at clear
          exact ⟨kept, (offered.mem_minimal unique).mpr (.inr ⟨(kept_iff kept).mp member, clear⟩), isClosed⟩
      · -- the route is dominated itself, so it displaces nothing that is minimal
        simp only [not_forall] at displaced
        obtain ⟨other, given, precedes, inside⟩ := displaced
        obtain ⟨kept, member, isClosed⟩ := closedOld
        have minimal := (kept_iff kept).mp member
        refine ⟨kept, (offered.mem_minimal unique).mpr (.inr ⟨minimal, ?_⟩), isClosed⟩
        intro displaces
        obtain ⟨routeBefore, routeWithin⟩ := displaces
        have otherBefore : other.before kept := by
          rw [SupportRoute.before_iff] at precedes routeBefore ⊢
          exact precedes.trans routeBefore
        have clear := ((mem_minimalRoutes unique).mp minimal).2 other given otherBefore
        rw [SupportRoute.within_trans (by simpa using inside) routeWithin] at clear
        simp at clear
    refine ⟨⟨request.version, (request.over routes).support verdict records.checkerVerdicts⟩,
      decidePromotion_accepted_iff.mpr ⟨?_, reasoned⟩⟩
    exact {
      policy_named := passed.policy_named
      evidence_owned := passed.evidence_owned
      verdict_owned := passed.verdict_owned
      hard := passed.hard
      routes_given := by
        intro empty
        have none_given : routes = [] := empty
        have added := offered.added
        rw [none_given] at added
        exact List.cons_ne_nil _ _ added.nil_eq.symm
      conclusions := by
        intro other given
        rcases List.mem_cons.mp (offered.added.mem_iff.mp given) with rfl | old
        · exact offered.concludes
        · exact passed.conclusions other old
      built := offered.built passed
      support_acyclic := offered.acyclic
      ancestry_acyclic := by
        have ancestry := passed.ancestry_acyclic
        obtain ⟨-, -, -, same⟩ := promotionCandidate_eq_ok.mp passed.built
        rw [same] at ancestry
        rw [List.map_append] at ancestry ⊢
        exact ancestry
      applicable := passed.applicable
      closed := closed }

end

namespace Worked

/-- A request to promote the proposition `a` over the given routes. -/
def requested (routes : List SupportRoute) : PromotionRequest where
  lemmaId := "lemma-a"
  relationId := "a"
  propositionKind := .existential
  scope := scope
  applicability := ⟨"always", []⟩
  supportRoutes := routes
  policyVersion := "policy"
  provenanceRefs := ["provenance"]
  sourceClaimIds := ["claim-a"]
  predecessorRefs := []

def witnessA : Evidence := evidence "evidence-a" "a"

def verdictA : CheckerVerdictRecord := verdict "verdict-a" witnessA

def ownedChecks : CheckRecords where
  evidenceRecords := [evidence "evidence-environment" "environment", witnessA]
  checkerVerdicts := [verdict "verdict-environment" (evidence "evidence-environment" "environment"), verdictA]
  authorizedCheckerIds := ["checker"]

/-- A closed route over two assumptions. -/
def wideRoute : SupportRoute :=
  { route "route-wide" "lemma-a" "decision-a" ⟨"evidence-a", "verdict-a"⟩ with
    environment := { environment ⟨"evidence-environment", "verdict-environment"⟩ with
      assumptionIds := ["assumption", "further"]
      assumptions_canonical := by decide } }

/-- A route with an open dependency, over one of the two assumptions. -/
def openRoute : SupportRoute :=
  { route "route-open" "lemma-a" "decision-a" ⟨"evidence-a", "verdict-a"⟩ (some "lemma-b") with
    openDependencyIds := ["lemma-b"]
    open_canonical := by decide
    open_required := by decide }

/-- An open route over an assumption of its own. -/
def asideRoute : SupportRoute :=
  { openRoute with
    id := "route-aside"
    environment := { openRoute.environment with
      assumptionIds := ["other"]
      assumptions_canonical := by decide } }

def outcome (routes : List SupportRoute) : Except Failure PromotionVerdict :=
  decidePromotion (requested routes) witnessA verdictA ownedChecks [] ["assumption"] []

def promotedOver (routes : List SupportRoute) : WarrantedLemma :=
  ⟨(requested routes).version, (requested routes).support verdictA ownedChecks.checkerVerdicts⟩

/-- What promotions over the wide route and another come to, evaluated at once. -/
theorem promotions_evaluated :
    outcome [wideRoute] = .ok (.accepted "exact scoped existential witness" (promotedOver [wideRoute])) ∧
    outcome [wideRoute, route "route-a" "lemma-a" "decision-a" ⟨"evidence-a", "verdict-a"⟩] =
      .ok (.accepted "exact scoped existential witness"
        (promotedOver [wideRoute, route "route-a" "lemma-a" "decision-a" ⟨"evidence-a", "verdict-a"⟩])) ∧
    (promotedOver [wideRoute, route "route-a" "lemma-a" "decision-a"
      ⟨"evidence-a", "verdict-a"⟩]).support.historicalSupportRoutes.map SupportRoute.id = ["route-wide"] ∧
    outcome [wideRoute, openRoute] =
      .ok (.rejected .none "no support route is dependency-closed and independently realizable") := by
  decide +kernel

/-- An open route leaves the support graph acyclic and the certificates distinct. -/
theorem open_routes_evaluated : ∀ further ∈ [asideRoute, openRoute],
    supportGraphIsAcyclic ([] ++ [⟨(requested [wideRoute]).version,
      ((requested [wideRoute]).over [wideRoute, further]).support verdictA ownedChecks.checkerVerdicts⟩]) = true ∧
    (certificateRefs [wideRoute, further] verdictA (checkerVerdictIndex ownedChecks.checkerVerdicts)).Nodup := by
  decide +kernel

theorem wide_accepted : outcome [wideRoute] =
    .ok (.accepted "exact scoped existential witness" (promotedOver [wideRoute])) := promotions_evaluated.1

theorem both_accepted : outcome [wideRoute, route "route-a" "lemma-a" "decision-a" ⟨"evidence-a", "verdict-a"⟩] =
    .ok (.accepted "exact scoped existential witness"
      (promotedOver [wideRoute, route "route-a" "lemma-a" "decision-a" ⟨"evidence-a", "verdict-a"⟩])) :=
  promotions_evaluated.2.1

/-- Of two closed routes the wider one becomes history, in either order of the two. -/
theorem both_canonical :
    (promotedOver [wideRoute, route "route-a" "lemma-a" "decision-a"
        ⟨"evidence-a", "verdict-a"⟩]).support.historicalSupportRoutes.map SupportRoute.id = ["route-wide"] ∧
      outcome [route "route-a" "lemma-a" "decision-a" ⟨"evidence-a", "verdict-a"⟩, wideRoute] =
        .ok (.accepted "exact scoped existential witness"
          (promotedOver [wideRoute, route "route-a" "lemma-a" "decision-a" ⟨"evidence-a", "verdict-a"⟩])) := by
  refine ⟨promotions_evaluated.2.2.1, ?_⟩
  exact (promotion_canonical both_accepted).2.2.2.2.1 _ (List.Perm.swap _ _ _)

theorem aside_offered : RouteOffered (requested [wideRoute]) verdictA ownedChecks [] asideRoute
    [wideRoute, asideRoute] where
  added := List.Perm.swap _ _ _
  fresh := by decide
  concludes := by decide
  in_scope := by decide
  in_binding := by decide
  in_universe := by decide
  acyclic := (open_routes_evaluated asideRoute (by simp)).1
  certificates := (open_routes_evaluated asideRoute (by simp)).2

/-- An open route beside the closed one does no harm. -/
theorem aside_accepted : ∃ later, outcome [wideRoute, asideRoute] =
    .ok (.accepted "exact scoped existential witness" later) := by
  refine (promotion_with_route wide_accepted aside_offered).mpr (.inr ⟨wideRoute, ?_⟩)
  decide +kernel

/-- An open route inside the closed one turns the accepted promotion into a rejection. -/
theorem open_rejects : ¬ ∀ (request : PromotionRequest) (evidence : Evidence) (verdict : CheckerVerdictRecord)
    (records : CheckRecords) (existing : List WarrantedLemma) (currentAssumptionIds currentContextIds : List String)
    (reason : String) (warranted : WarrantedLemma) (route : SupportRoute) (routes : List SupportRoute),
    decidePromotion request evidence verdict records existing currentAssumptionIds currentContextIds =
      .ok (.accepted reason warranted) →
    RouteOffered request verdict records existing route routes →
    ∃ laterReason later, decidePromotion (request.over routes) evidence verdict records existing currentAssumptionIds
      currentContextIds = .ok (.accepted laterReason later) := by
  intro claimed
  have offered : RouteOffered (requested [wideRoute]) verdictA ownedChecks [] openRoute [wideRoute, openRoute] := {
    added := List.Perm.swap _ _ _
    fresh := by decide
    concludes := by decide
    in_scope := by decide
    in_binding := by decide
    in_universe := by decide
    acyclic := (open_routes_evaluated openRoute (by simp)).1
    certificates := (open_routes_evaluated openRoute (by simp)).2 }
  obtain ⟨laterReason, later, accepted⟩ := claimed _ _ _ _ _ _ _ _ _ _ _ wide_accepted offered
  obtain ⟨-, -, -, rejected⟩ := promotions_evaluated
  have same := rejected.symm.trans accepted
  simp at same

end Worked

end RatchetingInquiry
