import RatchetingInquiry.Core.Decide.Claims
import RatchetingInquiry.Warrant.Policy

/-! Decisions over nogoods, standing histories, evidence, checks, warrants and promotions. -/

namespace RatchetingInquiry

/-- The nogood is stated in the support class that the inquiry context pins. -/
def Nogood.inSupportClass (nogood : Nogood) (context : InquiryContext) : Bool :=
  nogood.scopeFingerprint = context.scopeFingerprint && nogood.bindingRevision = context.bindingRevision &&
    nogood.finiteUniverseHash = context.finiteUniverseHash && nogood.policyVersion = context.warrantPolicyVersion

/-- The decision is hard and about exactly this nogood, its scope, its policy and its check. -/
def WarrantDecisionRecord.warrantsNogood (decision : WarrantDecisionRecord) (nogood : Nogood) : Bool :=
  decision.warrantClass = .hard && decision.propositionId = nogood.id &&
    decision.propositionKind = .existential && decision.scopeFingerprint = nogood.scopeFingerprint &&
    decision.policyVersion = nogood.policyVersion && decision.evidenceId = nogood.check.evidenceId &&
    decision.checkerVerdictId = nogood.check.checkerVerdictId

def freshNogood (context : Option InquiryContext) (warrants : WarrantRecords) (nogood : Nogood) :
    Except Failure WarrantEvent := do
  let context ← found (context.filter nogood.inSupportClass)
    (.invalidCommand "nogood does not match the current support class")
  require ((warrants.warrantDecisionById nogood.warrantDecisionId).any (·.warrantsNogood nogood))
    (.invalidCommand "nogood requires an exact recorded hard warrant decision")
  let (checked, reason) := (warrants.checkRecords context).resolve nogood.check nogood.id .existential
    nogood.scopeFingerprint
  require checked (.invalidCommand ("nogood check is not independently valid: " ++ reason))
  return .nogoodRecorded nogood

def freshRouteStandingChange (warrants : WarrantRecords) (change : SupportRouteStandingChange) :
    Except Failure WarrantEvent := do
  require (warrants.supportRouteById change.supportRouteId).isSome
    (.invalidCommand "support-route standing change references an unknown route")
  let latest := warrants.latestSupportRouteStandingChange change.supportRouteId
  require (change.predecessorId = latest.map (·.id))
    (.invalidCommand "support-route standing change must extend its exact tail")
  require (change.standing ≠ (latest.map (·.standing)).getD .standing)
    (.invalidCommand "support-route standing change must change standing")
  return .supportRouteStandingChanged change

def freshNogoodStandingChange (warrants : WarrantRecords) (change : NogoodStandingChange) :
    Except Failure WarrantEvent := do
  require (warrants.nogoodById change.nogoodId).isSome
    (.invalidCommand "nogood standing change references an unknown nogood")
  let latest := warrants.latestNogoodStandingChange change.nogoodId
  require (change.predecessorId = latest.map (·.id))
    (.invalidCommand "nogood standing change must extend its exact tail")
  require (change.standing ≠ (latest.map (·.standing)).getD .standing)
    (.invalidCommand "nogood standing change must change standing")
  return .nogoodStandingChanged change

/-- The scope of evidence is checked before its identity, also for a repetition. -/
def decideRecordEvidence (context : Option InquiryContext) (warrants : WarrantRecords) (evidence : Evidence) :
    Except Failure (Option WarrantEvent) := do
  require (context.any (fun context => evidence.scopeFingerprint = context.scopeFingerprint))
    (.invalidCommand "evidence scope does not match the inquiry context")
  recordOnce (warrants.evidenceById evidence.id) evidence "evidence id was reused"
    (.ok (.evidenceRecorded evidence))

/-- The verdict pins the artifact, the proposition, its kind and the scope of the evidence. -/
def CheckerVerdictRecord.pins (verdict : CheckerVerdictRecord) (evidence : Evidence) : Bool :=
  verdict.evidenceArtifact = evidence.artifact && verdict.propositionId = evidence.propositionId &&
    verdict.propositionKind = evidence.propositionKind && verdict.scopeFingerprint = evidence.scopeFingerprint

def decideRecordCheckerVerdict (warrants : WarrantRecords) (verdict : CheckerVerdictRecord) :
    Except Failure (Option WarrantEvent) := do
  let evidence ← found (warrants.evidenceById verdict.evidenceId)
    (.invalidCommand "checker verdict requires recorded evidence")
  require (verdict.pins evidence) (.invalidCommand "checker verdict does not match the exact evidence record")
  recordOnce (warrants.checkerVerdictById verdict.id) verdict "checker verdict id was reused"
    (.ok (.checkerVerdictRecorded verdict))

section
variable [Fingerprints]

/-- The record of a warrant evaluation over owned evidence and an owned verdict. -/
def evaluatedDecision (context : InquiryContext) (evidence : Evidence) (verdict : CheckerVerdictRecord)
    (evaluation : WarrantEvaluation) : WarrantDecisionRecord :=
  let (warrantClass, reason) := decideEvidenceWarrant evidence verdict evaluation.propositionId
    evaluation.propositionKind evaluation.scope context.dischargeMechanismIds
  { id := evaluation.decisionId
    evidenceId := evidence.id
    checkerVerdictId := verdict.id
    propositionId := evaluation.propositionId
    propositionKind := evaluation.propositionKind
    scopeFingerprint := evaluation.scope.fingerprint
    warrantClass := warrantClass
    reason := reason
    policyVersion := context.warrantPolicyVersion }

def decideEvaluateWarrant (context : Option InquiryContext) (warrants : WarrantRecords)
    (evaluation : WarrantEvaluation) : Except Failure (Option WarrantEvent) := do
  require (scopeMatchesContext context evaluation.scope)
    (.invalidCommand "warrant scope does not match the inquiry context")
  let evidence ← found (warrants.evidenceById evaluation.evidenceId)
    (.invalidCommand "warrant evaluation requires recorded evidence and check")
  let verdict ← found (warrants.checkerVerdictById evaluation.checkerVerdictId)
    (.invalidCommand "warrant evaluation requires recorded evidence and check")
  require (verdict.evidenceId = evidence.id)
    (.invalidCommand "warrant evidence and checker verdict do not align")
  let context ← found context (.invalidCommand "an active inquiry requires warrant policy context")
  let decision := evaluatedDecision context evidence verdict evaluation
  recordOnce (warrants.warrantDecisionById evaluation.decisionId) decision "warrant decision id was reused"
    (.ok (.warrantDecisionRecorded evaluation.scope decision))

/-- The source claims of a promotion are owned and within its proposition and scope. -/
def requireSourceClaims (claims : ClaimRecords) (promotion : Promotion) : Except Failure Unit := do
  let sources := promotion.sourceClaimIds.filterMap claims.claimById
  require (promotion.sourceClaimIds ≠ [] ∧ ∀ claimId ∈ promotion.sourceClaimIds, (claims.claimById claimId).isSome)
    (.invalidCommand "promotion must preserve recorded source claims")
  require (∀ claim ∈ sources, claim.scope.fingerprint = promotion.scope.fingerprint)
    (.invalidCommand "promotion scope differs from its source claim")
  require (∀ claim ∈ sources, claim.propositionId.all (fun propositionId => propositionId = promotion.relationId))
    (.invalidCommand "promotion proposition differs from its source claim")

/-- The decision is hard and about exactly the promoted proposition, kind and scope. -/
def WarrantDecisionRecord.warrantsPromotion (decision : WarrantDecisionRecord) (promotion : Promotion) : Bool :=
  decision.warrantClass = .hard && decision.propositionId = promotion.relationId &&
    decision.propositionKind = promotion.propositionKind &&
    decision.scopeFingerprint = promotion.scope.fingerprint

/-- The request that a promotion makes of the warrant policy in the current context. -/
def Promotion.request (promotion : Promotion) (context : InquiryContext) : PromotionRequest where
  lemmaId := promotion.lemmaId
  relationId := promotion.relationId
  propositionKind := promotion.propositionKind
  scope := promotion.scope
  applicability := promotion.applicability
  supportRoutes := promotion.supportRoutes
  policyVersion := context.warrantPolicyVersion
  provenanceRefs := promotion.provenanceRefs
  sourceClaimIds := promotion.sourceClaimIds
  predecessorRefs := promotion.predecessorRefs

/-- The recorded decision that a promotion rests on, with the evidence and the verdict it names. -/
def promotionWarrant (warrants : WarrantRecords) (promotion : Promotion) :
    Except Failure (WarrantDecisionRecord × Evidence × CheckerVerdictRecord) := do
  let decision ← found (warrants.warrantDecisionById promotion.warrantDecisionId)
    (.invalidCommand "promotion requires a recorded warrant decision")
  require (decision.warrantsPromotion promotion)
    (.invalidCommand "promotion requires an exact hard warrant decision")
  let evidence ← found (warrants.evidenceById decision.evidenceId)
    (.invalidCommand "promotion warrant evidence or check is unavailable")
  let verdict ← found (warrants.checkerVerdictById decision.checkerVerdictId)
    (.invalidCommand "promotion warrant evidence or check is unavailable")
  require (∀ route ∈ promotion.supportRoutes, decision.id ∈ route.warrantRefs)
    (.invalidCommand "every support route must bind the warrant decision")
  return (decision, evidence, verdict)

/-- The link from a promoted lemma to its warrant and its source claims. -/
def Promotion.link (promotion : Promotion) (lemmaVersionId decisionId : String) : PromotionLink where
  id := promotion.promotionId
  lemmaVersionId := lemmaVersionId
  sourceClaimIds := promotion.sourceClaimIds
  warrantDecisionId := decisionId

/-- An accepted promotion is recorded once: a repetition has to agree in version, support and link. -/
def recordPromotion (warrants : WarrantRecords) (warranted : WarrantedLemma) (link : PromotionLink) :
    Except Failure (Option WarrantEvent) :=
  let existingVersion := warrants.lemmaVersions.find? (fun item => item.id = warranted.id)
  let existingLink := warrants.promotionLinks.find? (fun item => item.id = link.id)
  if existingVersion.isSome ∨ existingLink.isSome then
    if existingVersion = some warranted.version ∧ existingLink = some link ∧
        warrants.lemmaSupports.find? (fun item => item.lemmaVersionId = warranted.id) = some warranted.support then
      .ok none
    else .error (.identityConflict "lemma or promotion identity was reused")
  else .ok (some (.lemmaPromoted warranted.version warranted.support link))

def decidePromoteClaim (state : InquiryState) (promotion : Promotion) : Except Failure (Option WarrantEvent) := do
  requireSourceClaims state.toClaimRecords promotion
  require (scopeMatchesContext state.context promotion.scope)
    (.invalidCommand "promotion scope does not match the inquiry context")
  let context ← found state.context (.runtime "promotion without an inquiry context")
  require (promotion.predecessorRefs ⊆ state.lemmaVersions.map LemmaVersion.id)
    (.invalidCommand "promotion ancestry references an unknown lemma version")
  let (decision, evidence, verdict) ← promotionWarrant state.toWarrantRecords promotion
  match ← decidePromotion (promotion.request context) evidence verdict (state.checkRecords context)
      state.warrantedLemmas context.assumptionIds (sortedIds state.standingContextIds) with
  | .rejected _ reason => throw (.invalidCommand reason)
  | .accepted _ warranted =>
    let link ← (promotion.link warranted.id decision.id).validateLink
    recordPromotion state.toWarrantRecords warranted link

def decideWarrant (state : InquiryState) : WarrantCommand → Except Failure (Option WarrantEvent)
  | .recordNogood nogood =>
    recordOnce (state.nogoodById nogood.id) nogood "nogood id was reused"
      (freshNogood state.context state.toWarrantRecords nogood)
  | .changeSupportRouteStanding change =>
    recordOnce (state.supportRouteStandingChanges.find? (fun item => item.id = change.id)) change
      "support-route standing-change id was reused" (freshRouteStandingChange state.toWarrantRecords change)
  | .changeNogoodStanding change =>
    recordOnce (state.nogoodStandingChanges.find? (fun item => item.id = change.id)) change
      "nogood standing-change id was reused" (freshNogoodStandingChange state.toWarrantRecords change)
  | .recordEvidence evidence => decideRecordEvidence state.context state.toWarrantRecords evidence
  | .recordCheckerVerdict verdict => decideRecordCheckerVerdict state.toWarrantRecords verdict
  | .evaluateWarrant evaluation => decideEvaluateWarrant state.context state.toWarrantRecords evaluation
  | .promoteClaim promotion => decidePromoteClaim state promotion

theorem promotionWarrant_eq_ok {warrants : WarrantRecords} {promotion : Promotion}
    {decision : WarrantDecisionRecord} {evidence : Evidence} {verdict : CheckerVerdictRecord} :
    promotionWarrant warrants promotion = .ok (decision, evidence, verdict) ↔
      warrants.warrantDecisionById promotion.warrantDecisionId = some decision ∧
        decision.warrantsPromotion promotion = true ∧
        warrants.evidenceById decision.evidenceId = some evidence ∧
        warrants.checkerVerdictById decision.checkerVerdictId = some verdict ∧
        ∀ route ∈ promotion.supportRoutes, decision.id ∈ route.warrantRefs := by
  simp only [promotionWarrant, found_bind_eq_ok, require_bind_eq_ok, pure, Except.pure, Except.ok.injEq,
    Prod.mk.injEq]
  constructor
  · rintro ⟨_, owned, exactly, _, evidenceOwned, _, verdictOwned, bound, rfl, rfl, rfl⟩
    exact ⟨owned, exactly, evidenceOwned, verdictOwned, bound⟩
  · rintro ⟨owned, exactly, evidenceOwned, verdictOwned, bound⟩
    exact ⟨decision, owned, exactly, evidence, evidenceOwned, verdict, verdictOwned, bound, rfl, rfl, rfl⟩

omit [Fingerprints] in
theorem recordPromotion_eq_some {warrants : WarrantRecords} {warranted : WarrantedLemma} {link : PromotionLink}
    {event : WarrantEvent} :
    recordPromotion warrants warranted link = .ok (some event) ↔
      warrants.lemmaVersions.find? (fun item => item.id = warranted.id) = none ∧
        warrants.promotionLinks.find? (fun item => item.id = link.id) = none ∧
        event = .lemmaPromoted warranted.version warranted.support link := by
  simp only [recordPromotion]
  split
  next reused =>
    have notNew : ¬ (warrants.lemmaVersions.find? (fun item => item.id = warranted.id) = none ∧
        warrants.promotionLinks.find? (fun item => item.id = link.id) = none) := by
      rintro ⟨version, linked⟩
      simp [version, linked] at reused
    split
    next => simp only [Except.ok.injEq, reduceCtorEq, false_iff]; tauto
    next => simp only [reduceCtorEq, false_iff]; tauto
  next fresh =>
    obtain ⟨version, linked⟩ := not_or.mp fresh
    simp only [Option.not_isSome_iff_eq_none] at version linked
    simp only [version, linked, true_and, Except.ok.injEq, Option.some.injEq]
    exact eq_comm

/-- What a promotion that is not a repetition passed. -/
structure PromotionLawful (state : InquiryState) (promotion : Promotion) (context : InquiryContext)
    (decision : WarrantDecisionRecord) (evidence : Evidence) (verdict : CheckerVerdictRecord)
    (warranted : WarrantedLemma) : Prop where
  sources : requireSourceClaims state.toClaimRecords promotion = .ok ()
  scope_matches : scopeMatchesContext state.context promotion.scope = true
  context_pinned : state.context = some context
  predecessors_owned : promotion.predecessorRefs ⊆ state.lemmaVersions.map LemmaVersion.id
  warrant : promotionWarrant state.toWarrantRecords promotion = .ok (decision, evidence, verdict)
  accepted : PromotionAccepted (promotion.request context) evidence verdict (state.checkRecords context)
    state.warrantedLemmas context.assumptionIds (sortedIds state.standingContextIds) warranted
  link_valid : (promotion.link warranted.id decision.id).validateLink = .ok (promotion.link warranted.id decision.id)
  version_fresh : state.lemmaVersions.find? (fun item => item.id = warranted.id) = none
  link_fresh : state.promotionLinks.find? (fun item => item.id = promotion.promotionId) = none

theorem decidePromoteClaim_eq_some {state : InquiryState} {promotion : Promotion} {event : WarrantEvent} :
    decidePromoteClaim state promotion = .ok (some event) ↔
      ∃ context decision evidence verdict warranted,
        PromotionLawful state promotion context decision evidence verdict warranted ∧
        event = .lemmaPromoted warranted.version warranted.support (promotion.link warranted.id decision.id) := by
  unfold decidePromoteClaim
  simp only [unit_bind_eq_ok, require_eq_ok, found_bind_eq_ok]
  constructor
  · rintro ⟨sources, scope, context, pinned, predecessors, promoted⟩
    rw [bind_eq_ok] at promoted
    obtain ⟨⟨decision, evidence, verdict⟩, warrant, promoted⟩ := promoted
    rw [bind_eq_ok] at promoted
    obtain ⟨outcome, decided, recorded⟩ := promoted
    cases outcome with
    | rejected warrantClass reason => simp [throw, throwThe, MonadExceptOf.throw] at recorded
    | accepted reason warranted =>
      simp only [bind_eq_ok] at recorded
      obtain ⟨link, linked, recorded⟩ := recorded
      obtain ⟨-, -, -, rfl⟩ := validateLink_eq_ok.mp linked
      obtain ⟨versionFresh, linkFresh, rfl⟩ := recordPromotion_eq_some.mp recorded
      exact ⟨context, decision, evidence, verdict, warranted,
        ⟨sources, scope, pinned, predecessors, warrant, (decidePromotion_accepted_iff.mp decided).1, linked,
          versionFresh, linkFresh⟩, rfl⟩
  · rintro ⟨context, decision, evidence, verdict, warranted, lawful, rfl⟩
    refine ⟨lawful.sources, lawful.scope_matches, context, lawful.context_pinned, lawful.predecessors_owned, ?_⟩
    rw [lawful.warrant]
    have decided := decidePromotion_accepted_iff.mpr ⟨lawful.accepted, rfl⟩
    simp only [bind, Except.bind, decided, lawful.link_valid]
    exact recordPromotion_eq_some.mpr ⟨lawful.version_fresh, lawful.link_fresh, rfl⟩

end

end RatchetingInquiry
