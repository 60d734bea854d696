import RatchetingInquiry.Core.Rebuild
import RatchetingInquiry.Invariants.Warrants

/-! The routes by which active lemmas stand. A promotion judges one distinguished piece of evidence, while a
route stands by any independently checked certificate: the routes of an active lemma are hard exactly as
far as the certificates that promotions brought in are. -/

namespace RatchetingInquiry

section
variable [Fingerprints]

/-- The evidence and the verdict that a certificate check names receive a hard warrant by themselves. -/
def certificateHard (warrants : WarrantRecords) (context : InquiryContext) (relationId : String)
    (propositionKind : PropositionKind) (scope : Scope) (reference : CheckReference) : Bool :=
  match evidenceIndex warrants.evidenceRecords reference.evidenceId,
      checkerVerdictIndex warrants.checkerVerdicts reference.checkerVerdictId with
  | some evidence, some verdict =>
    (decideEvidenceWarrant evidence verdict relationId propositionKind scope context.dischargeMechanismIds).1 = .hard
  | _, _ => false

/-- A certificate that is independently checked at all is hard. -/
def certificateHardIfChecked (warrants : WarrantRecords) (context : InquiryContext) (relationId : String)
    (propositionKind : PropositionKind) (scope : Scope) (reference : CheckReference) : Bool :=
  !((warrants.checkRecords context).resolve reference relationId propositionKind scope.fingerprint).1 ||
    certificateHard warrants context relationId propositionKind scope reference

/-- Every standing route of every active lemma is certified by evidence that is hard for the lemma's exact
relation, kind and scope. -/
def StandsHard (state : InquiryState) : Prop :=
  ∀ view ∈ state.activeTheory, ∀ routeId ∈ view.standingSupportRouteIds, ∃ context, state.context = some context ∧
    ∃ version ∈ state.lemmaVersions, version.id = view.lemmaVersionId ∧ version.relationId = view.relationId ∧
    ∃ support ∈ state.lemmaSupports, support.lemmaVersionId = version.id ∧
    ∃ route ∈ support.allSupportRoutes, route.id = routeId ∧
      certificateHard state.toWarrantRecords context version.relationId version.propositionKind version.scope
        route.certificateCheck = true

/-- The command promotes nothing, or promotes over routes whose checked certificates are all hard. -/
def certifiesHard (state : InquiryState) (command : DomainCommand) : Bool :=
  match command.body with
  | .warrant (.promoteClaim promotion) =>
    state.context.all (fun context => promotion.supportRoutes.all (fun route =>
      certificateHardIfChecked state.toWarrantRecords context promotion.relationId promotion.propositionKind
        promotion.scope route.certificateCheck))
  | _ => true

/-- The records that a certificate names are owned, and they are hard if they are checked. -/
structure CertifiedHard (warrants : WarrantRecords) (context : InquiryContext) (version : LemmaVersion)
    (route : SupportRoute) (evidence : Evidence) (verdict : CheckerVerdictRecord) : Prop where
  evidence_owned : evidenceIndex warrants.evidenceRecords route.certificateCheck.evidenceId = some evidence
  verdict_owned :
    checkerVerdictIndex warrants.checkerVerdicts route.certificateCheck.checkerVerdictId = some verdict
  hard : CheckedPair evidence verdict version.relationId version.propositionKind version.scope.fingerprint
    context.dischargeMechanismIds → evidence.isConclusive version.propositionKind version.scope

/-- Every route of every lemma has a hard certificate, if a checked one. -/
def RoutesCertified (context : Option InquiryContext) (warrants : WarrantRecords) : Prop :=
  ∀ version ∈ warrants.lemmaVersions, ∀ support ∈ warrants.lemmaSupports, support.lemmaVersionId = version.id →
    ∀ route ∈ support.allSupportRoutes, ∃ pins evidence verdict, context = some pins ∧
      CertifiedHard warrants pins version route evidence verdict

variable {state before after : InquiryState} {warrants later : WarrantRecords} {context : InquiryContext}
  {version : LemmaVersion} {support : LemmaSupport} {link : PromotionLink} {route : SupportRoute}
  {evidence : Evidence} {verdict : CheckerVerdictRecord}

theorem CertifiedHard.extended (certified : CertifiedHard warrants context version route evidence verdict)
    (grown : warrants.Extends later) (evidenceIds : (later.evidenceRecords.map Evidence.id).Nodup)
    (verdictIds : (later.checkerVerdicts.map CheckerVerdictRecord.id).Nodup) :
    CertifiedHard later context version route evidence verdict where
  evidence_owned := indexBy_grown grown.evidence evidenceIds certified.evidence_owned
  verdict_owned := indexBy_grown grown.verdicts verdictIds certified.verdict_owned
  hard := certified.hard

theorem CertifiedHard.certificateHard (certified : CertifiedHard warrants context version route evidence verdict)
    (resolves : ((warrants.checkRecords context).resolve route.certificateCheck version.relationId
      version.propositionKind version.scope.fingerprint).1 = true) :
    certificateHard warrants context version.relationId version.propositionKind version.scope
      route.certificateCheck = true := by
  obtain ⟨_, _, evidenceHit, verdictHit, checked⟩ := CheckRecords.resolve_true_iff.mp resolves
  have evidenceOwned := certified.evidence_owned
  have verdictOwned := certified.verdict_owned
  simp only [WarrantRecords.checkRecords] at evidenceHit verdictHit checked
  rw [evidenceOwned] at evidenceHit
  rw [verdictOwned] at verdictHit
  obtain rfl := Option.some.inj evidenceHit
  obtain rfl := Option.some.inj verdictHit
  unfold RatchetingInquiry.certificateHard
  rw [evidenceOwned, verdictOwned]
  simp only [decide_eq_true_eq]
  exact decideEvidenceWarrant_hard_iff.mpr ⟨checked, certified.hard checked⟩

/-- The certificates of a promotion that meets the condition are hard, if checked. -/
theorem promoted_certified {promotion : Promotion} {decision : WarrantDecisionRecord} {head : EventMetadata}
    (meets : certifiesHard state ⟨head, .warrant (.promoteClaim promotion)⟩ = true)
    (passed : PromotionLawful state promotion context decision evidence verdict ⟨version, support⟩)
    (member : route ∈ support.allSupportRoutes) :
    certificateHardIfChecked state.toWarrantRecords context version.relationId version.propositionKind version.scope
      route.certificateCheck = true := by
  have proposed : route ∈ promotion.supportRoutes := passed.routes_perm.mem_iff.mp member
  have sameVersion : version = (promotion.request context).version := passed.version_eq
  simp only [certifiesHard, passed.context_pinned, Option.all_some, List.all_eq_true] at meets
  rw [sameVersion]
  exact meets route proposed

omit [Fingerprints] in
/-- The check that a route names is owned in every valid state. -/
theorem WarrantsValid.certificate_owned {pins : Option InquiryContext} {claims : ClaimRecords}
    (valid : WarrantsValid pins claims warrants) (supported : support ∈ warrants.lemmaSupports)
    (member : route ∈ support.allSupportRoutes) : ∃ evidence verdict,
      evidenceIndex warrants.evidenceRecords route.certificateCheck.evidenceId = some evidence ∧
        checkerVerdictIndex warrants.checkerVerdicts route.certificateCheck.checkerVerdictId = some verdict := by
  have owned := valid.checks_owned route (List.mem_flatMap.mpr ⟨support, supported, member⟩) route.certificateCheck
    (by simp [SupportRoute.checks])
  simp only [WarrantRecords.ownsCheck, Bool.and_eq_true, Option.isSome_iff_exists, Option.any_eq_true] at owned
  obtain ⟨⟨evidence, evidenceOwned⟩, verdict, verdictOwned, -⟩ := owned
  exact ⟨evidence, verdict, evidenceOwned, verdictOwned⟩

theorem certifiedHard_of_ifChecked
    (evidenceOwned : evidenceIndex warrants.evidenceRecords route.certificateCheck.evidenceId = some evidence)
    (verdictOwned : checkerVerdictIndex warrants.checkerVerdicts route.certificateCheck.checkerVerdictId = some verdict)
    (hard : certificateHardIfChecked warrants context version.relationId version.propositionKind version.scope
      route.certificateCheck = true) : CertifiedHard warrants context version route evidence verdict := by
  refine ⟨evidenceOwned, verdictOwned, ?_⟩
  intro checked
  have resolves : ((warrants.checkRecords context).resolve route.certificateCheck version.relationId
      version.propositionKind version.scope.fingerprint).1 = true :=
    CheckRecords.resolve_true_iff.mpr ⟨evidence, verdict, evidenceOwned, verdictOwned, checked⟩
  simp only [certificateHardIfChecked, resolves, Bool.not_true, Bool.false_or, certificateHard, evidenceOwned,
    verdictOwned, decide_eq_true_eq] at hard
  exact (decideEvidenceWarrant_hard_iff.mp hard).2

/-- Records around the lemmas grow, and the certificates of their routes stay what they were. -/
theorem RoutesCertified.extended {pins : Option InquiryContext} (certified : RoutesCertified pins warrants)
    (grown : warrants.Extends later) (evidenceIds : (later.evidenceRecords.map Evidence.id).Nodup)
    (verdictIds : (later.checkerVerdicts.map CheckerVerdictRecord.id).Nodup) :
    ∀ version ∈ warrants.lemmaVersions, ∀ support ∈ warrants.lemmaSupports, support.lemmaVersionId = version.id →
      ∀ route ∈ support.allSupportRoutes, ∃ context evidence verdict, pins = some context ∧
        CertifiedHard later context version route evidence verdict := by
  intro version versionOwned support supportOwned joined route member
  obtain ⟨context, evidence, verdict, pinned, hard⟩ :=
    certified version versionOwned support supportOwned joined route member
  exact ⟨context, evidence, verdict, pinned, hard.extended grown evidenceIds verdictIds⟩

theorem routesCertified_step {head : EventMetadata} {command : CommandBody} {body : EventBody}
    (meets : certifiesHard before ⟨head, command⟩ = true)
    (proposed : Proposed before head.inquiryId command body) (transition : Transition before head body after)
    (valid : AggregateValid after) (certified : RoutesCertified before.context before.toWarrantRecords) :
    RoutesCertified after.context after.toWarrantRecords := by
  have evidenceIds : (after.evidenceRecords.map Evidence.id).Nodup :=
    valid.identities_unique _ (by simp [identifiedCollections])
  have verdictIds : (after.checkerVerdicts.map CheckerVerdictRecord.id).Nodup :=
    valid.identities_unique _ (by simp [identifiedCollections])
  have supportIds := valid.warrants_valid.supports_unique
  rcases transition.warrantView with ⟨-, records⟩ | ⟨pins, records⟩ | ⟨event, rfl, lawful, pins, -, records⟩
  · rw [records]
    intro version member
    simp at member
  · rw [pins, records]
    exact certified
  · have grown := before.toWarrantRecords.extends_apply event
    rw [← records] at grown
    have earlier := certified.extended grown evidenceIds verdictIds
    cases event with
    | lemmaPromoted version support link =>
      obtain ⟨promotion, context, decision, evidence, verdict, rfl, passed, -⟩ := proposed.promotion
      have joined : version.id = support.lemmaVersionId := passed.joined.one_object
      have fresh : version.id ∉ before.lemmaVersions.map LemmaVersion.id := find_eq_none_iff.mp passed.version_fresh
      have versions : after.lemmaVersions = before.lemmaVersions ++ [version] :=
        congrArg WarrantRecords.lemmaVersions records
      have supports : after.lemmaSupports = before.lemmaSupports ++ [support] :=
        congrArg WarrantRecords.lemmaSupports records
      have unowned : support.lemmaVersionId ∉ before.lemmaSupports.map LemmaSupport.lemmaVersionId := by
        rw [supports, List.map_append, List.nodup_append] at supportIds
        intro repeated
        exact supportIds.2.2 _ repeated _ (by simp) rfl
      intro other otherOwned otherSupport supportOwned names route member
      rw [pins]
      rw [versions, List.mem_append, List.mem_singleton] at otherOwned
      have supportOwnedAfter := supportOwned
      rw [supports, List.mem_append, List.mem_singleton] at supportOwned
      rcases otherOwned with versionEarlier | rfl <;> rcases supportOwned with supportEarlier | rfl
      · exact earlier other versionEarlier otherSupport supportEarlier names route member
      · exact absurd (List.mem_map.mpr ⟨other, versionEarlier, by rw [← names, ← joined]⟩) fresh
      · exact absurd (List.mem_map.mpr ⟨otherSupport, supportEarlier, by rw [names, joined]⟩) unowned
      · -- the checks of the new routes were owned before: a promotion adds none
        obtain ⟨routeEvidence, routeVerdict, evidenceOwned, verdictOwned⟩ :=
          valid.warrants_valid.certificate_owned supportOwnedAfter member
        have sameEvidence : after.evidenceRecords = before.evidenceRecords := by
          simpa [WarrantRecords.apply] using congrArg WarrantRecords.evidenceRecords records
        have sameVerdicts : after.checkerVerdicts = before.checkerVerdicts := by
          simpa [WarrantRecords.apply] using congrArg WarrantRecords.checkerVerdicts records
        rw [sameEvidence] at evidenceOwned
        rw [sameVerdicts] at verdictOwned
        have hard := certifiedHard_of_ifChecked evidenceOwned verdictOwned (promoted_certified meets passed member)
        exact ⟨context, routeEvidence, routeVerdict, passed.context_pinned, hard.extended grown evidenceIds verdictIds⟩
    | _ =>
      rw [pins]
      intro version versionOwned support supportOwned
      rw [records] at versionOwned supportOwned
      exact earlier version versionOwned support supportOwned

theorem routesCertified_reached (reached : ReachableUnder (fun state command => certifiesHard state command) state) :
    RoutesCertified state.context state.toWarrantRecords := by
  induction reached with
  | refl =>
    intro version member
    simp [initialState] at member
  | tail _ step ih =>
    obtain ⟨command, meets, applied⟩ := step
    rcases applyCommand_cases applied with rfl | ⟨body, decided, transition, valid⟩
    · exact ih
    · exact routesCertified_step meets (decideBody_proposed decided) transition valid ih

theorem RoutesCertified.standsHard (certified : RoutesCertified state.context state.toWarrantRecords) :
    StandsHard state := by
  intro view active routeId listed
  obtain ⟨context, pinned, warranted, owned, shown⟩ := activeTheory_shows active
  obtain ⟨versionOwned, supportOwned, joined⟩ := WarrantRecords.mem_warrantedLemmas owned
  obtain ⟨route, member, named, -, applicable, -⟩ := shown.routes routeId listed
  obtain ⟨pins, evidence, verdict, samePins, hard⟩ :=
    certified warranted.version versionOwned warranted.support supportOwned joined route member
  obtain rfl : pins = context := Option.some.inj (samePins.symm.trans pinned)
  exact ⟨pins, pinned, warranted.version, versionOwned, shown.named.symm, shown.relation.symm, warranted.support,
    supportOwned, joined, route, member, named, hard.certificateHard (routeApplicable_resolves applicable)⟩

/-- In every run whose promotions bring in hard certificates only, active lemmas stand through hard routes. -/
theorem standing_routes_hard (reached : ReachableUnder (fun state command => certifiesHard state command) state) :
    StandsHard state :=
  (routesCertified_reached reached).standsHard

end

namespace Worked

theorem promoted_standsHard :
    (reachedUnder certifiesHard promoted).activeTheory.map ActiveLemmaView.standingSupportRouteIds = [["route-a"]] ∧
      StandsHard (reachedUnder certifiesHard promoted) :=
  ⟨by decide +kernel, standing_routes_hard (reachableUnder_reachedUnder certifiesHard promoted)⟩

/-- The lemma is promoted under its hard decision, over a route that a checked model output certifies. -/
def certifiedByModel : List CommandBody :=
  start :: check "environment" "environment" ++ warranted "a" "a" ++ check "model" "a" .modelOutput ++
    [promote "a" "a" [route "route-a" "lemma-a" "decision-a" ⟨"evidence-model", "verdict-model"⟩]]

theorem certifiedByModel_not_standsHard : ¬ ∀ state, Reachable state → StandsHard state := by
  intro claimed
  have stands := claimed _ (reachable_reached certifiedByModel)
  have active : (reached certifiedByModel).activeTheory.map ActiveLemmaView.standingSupportRouteIds = [["route-a"]] := by
    decide +kernel
  have soft : ∀ version ∈ (reached certifiedByModel).lemmaVersions, ∀ support ∈ (reached certifiedByModel).lemmaSupports,
      ∀ route ∈ support.allSupportRoutes, certificateHard (reached certifiedByModel).toWarrantRecords context
        version.relationId version.propositionKind version.scope route.certificateCheck = false := by decide +kernel
  have pinned : (reached certifiedByModel).context = some context := by decide +kernel
  obtain ⟨view, member, routes⟩ := List.mem_map.mp (active ▸ List.mem_singleton.mpr rfl)
  obtain ⟨pins, samePins, version, versionOwned, -, -, support, supportOwned, -, route, routeOwned, -, hard⟩ :=
    stands view member "route-a" (by rw [routes]; decide)
  obtain rfl : pins = context := Option.some.inj (samePins.symm.trans pinned)
  rw [soft version versionOwned support supportOwned route routeOwned] at hard
  simp at hard

end Worked

end RatchetingInquiry
