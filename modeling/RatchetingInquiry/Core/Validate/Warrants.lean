import RatchetingInquiry.Core.Validate.Inquiry

/-! The aggregate check of lemmas, their support, their warrants and the standing histories. -/

namespace RatchetingInquiry

/-- Same elements, in any order and number. -/
abbrev SameElements (left right : List String) : Prop := left ⊆ right ∧ right ⊆ left

def validateTopology (warrants : WarrantRecords) : Except Failure Unit := do
  let versionIds := warrants.lemmaVersions.map LemmaVersion.id
  let supportIds := warrants.lemmaSupports.map LemmaSupport.lemmaVersionId
  require supportIds.Nodup (.validation "a lemma version can have only one authoritative support owner")
  require (SameElements versionIds supportIds ∧
      SameElements versionIds (warrants.promotionLinks.map PromotionLink.lemmaVersionId))
    (.validation "semantic versions, warrant support, and promotion links must align")
  require (warrants.supportRoutes.map SupportRoute.id).Nodup
    (.validation "support-route identities must be unique within an inquiry")
  require (supportGraphIsAcyclic warrants.warrantedLemmas)
    (.validation "active positive support topology must remain acyclic")
  require (ancestryIsAcyclic (warrants.lemmaVersions.map (fun version => (version.id, version.predecessorRefs))))
    (.validation "semantic version ancestry must remain owned and acyclic")

def validateVerdictPins (warrants : WarrantRecords) (verdict : CheckerVerdictRecord) : Except Failure Unit := do
  let evidence ← found (evidenceIndex warrants.evidenceRecords verdict.evidenceId)
    (.validation "checker verdicts must reference owned evidence")
  require (verdict.pins evidence) (.validation "checker verdict pins must match their exact evidence record")

/-- The decision, its evidence and its verdict agree in proposition, kind and scope. -/
def WarrantDecisionRecord.pinned (decision : WarrantDecisionRecord) (evidence : Evidence)
    (verdict : CheckerVerdictRecord) : Bool :=
  verdict.evidenceId = evidence.id && decision.propositionId = evidence.propositionId &&
    decision.propositionKind = evidence.propositionKind &&
    decision.scopeFingerprint = evidence.scopeFingerprint &&
    verdict.propositionId = decision.propositionId && verdict.propositionKind = decision.propositionKind &&
    verdict.scopeFingerprint = decision.scopeFingerprint

def validateDecisionPins (warrants : WarrantRecords) (decision : WarrantDecisionRecord) : Except Failure Unit := do
  let evidence ← found (evidenceIndex warrants.evidenceRecords decision.evidenceId)
    (.validation "warrant decisions must reference owned evidence and checks")
  let verdict ← found (checkerVerdictIndex warrants.checkerVerdicts decision.checkerVerdictId)
    (.validation "warrant decisions must reference owned evidence and checks")
  require (decision.pinned evidence verdict)
    (.validation "warrant decision pins must match its evidence and checker record")

/-- The reference names owned evidence and an owned verdict about it. -/
def WarrantRecords.ownsCheck (warrants : WarrantRecords) (reference : CheckReference) : Bool :=
  (evidenceIndex warrants.evidenceRecords reference.evidenceId).isSome &&
    (checkerVerdictIndex warrants.checkerVerdicts reference.checkerVerdictId).any (fun verdict =>
      verdict.evidenceId = reference.evidenceId)

def SupportRoute.checks (route : SupportRoute) : List CheckReference :=
  [route.certificateCheck, route.environment.realizabilityCheck]

def validateSupportChecks (warrants : WarrantRecords) : Except Failure Unit :=
  require (∀ route ∈ warrants.supportRoutes, ∀ reference ∈ route.checks, warrants.ownsCheck reference)
    (.validation "support checks must reference owned evidence and verdicts")

/-- The support of a promoted lemma and its warrant decision follow one policy. -/
def validateLinkPolicy (warrants : WarrantRecords) (link : PromotionLink) : Except Failure Unit := do
  let support ← found (indexBy LemmaSupport.lemmaVersionId warrants.lemmaSupports link.lemmaVersionId)
    (.keyError link.lemmaVersionId)
  let decision ← found (indexBy WarrantDecisionRecord.id warrants.warrantDecisions link.warrantDecisionId)
    (.keyError link.warrantDecisionId)
  require (support.policyVersion = decision.policyVersion)
    (.validation "lemma support policy must match its exact warrant decision")

def validateWarrantPins (claims : ClaimRecords) (warrants : WarrantRecords) : Except Failure Unit := do
  warrants.checkerVerdicts.forM (validateVerdictPins warrants)
  warrants.warrantDecisions.forM (validateDecisionPins warrants)
  validateSupportChecks warrants
  require (∀ link ∈ warrants.promotionLinks,
      link.warrantDecisionId ∈ warrants.warrantDecisions.map WarrantDecisionRecord.id)
    (.validation "promotion links must reference owned warrant decisions")
  require (∀ link ∈ warrants.promotionLinks, link.sourceClaimIds ⊆ claims.claims.map Claim.id)
    (.validation "promotion links must preserve recorded source claims")
  warrants.promotionLinks.forM (validateLinkPolicy warrants)

/-- A route change extends the history of an owned route and changes its standing. -/
def validateRouteChange (warrants : WarrantRecords) (earlier : List SupportRouteStandingChange)
    (change : SupportRouteStandingChange) : Except Failure Unit := do
  require (change.supportRouteId ∈ warrants.supportRoutes.map SupportRoute.id)
    (.validation "support-route standing changes must reference an owned route")
  let tail := indexBy SupportRouteStandingChange.supportRouteId earlier change.supportRouteId
  require (change.predecessorId = tail.map (·.id))
    (.validation "support-route standing history must extend its exact tail")
  require (change.standing ≠ (tail.map (·.standing)).getD .standing)
    (.validation "support-route standing histories must change standing")

def validateNogoodChange (warrants : WarrantRecords) (earlier : List NogoodStandingChange)
    (change : NogoodStandingChange) : Except Failure Unit := do
  require (change.nogoodId ∈ warrants.nogoods.map Nogood.id)
    (.validation "nogood standing changes must reference an owned nogood")
  let tail := indexBy NogoodStandingChange.nogoodId earlier change.nogoodId
  require (change.predecessorId = tail.map (·.id))
    (.validation "nogood standing history must extend its exact tail")
  require (change.standing ≠ (tail.map (·.standing)).getD .standing)
    (.validation "nogood standing histories must change standing")

def validateNogood (context : Option InquiryContext) (warrants : WarrantRecords) (nogood : Nogood) :
    Except Failure Unit := do
  let evidence ← found (evidenceIndex warrants.evidenceRecords nogood.check.evidenceId)
    (.validation "nogoods must reference owned evidence and checker verdicts")
  let verdict ← found ((checkerVerdictIndex warrants.checkerVerdicts nogood.check.checkerVerdictId).filter
      (fun verdict => verdict.evidenceId = evidence.id))
    (.validation "nogoods must reference owned evidence and checker verdicts")
  require ((indexBy WarrantDecisionRecord.id warrants.warrantDecisions nogood.warrantDecisionId).any (fun decision =>
      decision.warrantClass = .hard && decision.id = nogood.warrantDecisionId && decision.evidenceId = evidence.id &&
        decision.checkerVerdictId = verdict.id && decision.propositionId = nogood.id &&
        decision.propositionKind = .existential && decision.scopeFingerprint = nogood.scopeFingerprint &&
        decision.policyVersion = nogood.policyVersion))
    (.validation "nogoods require an exact owned hard warrant decision")
  require (context.any nogood.inSupportClass)
    (.validation "nogoods must match the inquiry's exact support class")

def validateWarrants (context : Option InquiryContext) (claims : ClaimRecords) (warrants : WarrantRecords) :
    Except Failure Unit := do
  validateTopology warrants
  validateWarrantPins claims warrants
  eachAfter (validateRouteChange warrants) [] warrants.supportRouteStandingChanges
  eachAfter (validateNogoodChange warrants) [] warrants.nogoodStandingChanges
  warrants.nogoods.forM (validateNogood context warrants)

/-- What the check of the warrant records establishes. -/
structure WarrantsValid (context : Option InquiryContext) (claims : ClaimRecords) (warrants : WarrantRecords) :
    Prop where
  supports_unique : (warrants.lemmaSupports.map LemmaSupport.lemmaVersionId).Nodup
  supported : SameElements (warrants.lemmaVersions.map LemmaVersion.id)
    (warrants.lemmaSupports.map LemmaSupport.lemmaVersionId)
  linked : SameElements (warrants.lemmaVersions.map LemmaVersion.id)
    (warrants.promotionLinks.map PromotionLink.lemmaVersionId)
  routes_unique : (warrants.supportRoutes.map SupportRoute.id).Nodup
  support_acyclic : supportGraphIsAcyclic warrants.warrantedLemmas = true
  ancestry_acyclic :
    ancestryIsAcyclic (warrants.lemmaVersions.map (fun version => (version.id, version.predecessorRefs))) = true
  verdicts_pinned : ∀ verdict ∈ warrants.checkerVerdicts, validateVerdictPins warrants verdict = .ok ()
  decisions_pinned : ∀ decision ∈ warrants.warrantDecisions, validateDecisionPins warrants decision = .ok ()
  checks_owned : ∀ route ∈ warrants.supportRoutes, ∀ reference ∈ route.checks, warrants.ownsCheck reference = true
  links_decided : ∀ link ∈ warrants.promotionLinks,
    link.warrantDecisionId ∈ warrants.warrantDecisions.map WarrantDecisionRecord.id
  links_sourced : ∀ link ∈ warrants.promotionLinks, link.sourceClaimIds ⊆ claims.claims.map Claim.id
  link_policies : ∀ link ∈ warrants.promotionLinks, validateLinkPolicy warrants link = .ok ()
  route_changes : eachAfter (validateRouteChange warrants) [] warrants.supportRouteStandingChanges = .ok ()
  nogood_changes : eachAfter (validateNogoodChange warrants) [] warrants.nogoodStandingChanges = .ok ()
  nogoods : ∀ nogood ∈ warrants.nogoods, validateNogood context warrants nogood = .ok ()

theorem validateWarrants_eq_ok {context : Option InquiryContext} {claims : ClaimRecords} {warrants : WarrantRecords} :
    validateWarrants context claims warrants = .ok () ↔ WarrantsValid context claims warrants := by
  simp only [validateWarrants, validateTopology, validateWarrantPins, validateSupportChecks, unit_bind_eq_ok,
    require_eq_ok, forM_eq_ok]
  constructor
  · rintro ⟨⟨unique, ⟨supported, linked⟩, routes, support, ancestry⟩,
      ⟨verdicts, decisions, checks, decided, sourced, policies⟩, routeChanges, nogoodChanges, nogoods⟩
    exact ⟨unique, supported, linked, routes, support, ancestry, verdicts, decisions, checks, decided, sourced,
      policies, routeChanges, nogoodChanges, nogoods⟩
  · rintro ⟨unique, supported, linked, routes, support, ancestry, verdicts, decisions, checks, decided, sourced,
      policies, routeChanges, nogoodChanges, nogoods⟩
    exact ⟨⟨unique, ⟨supported, linked⟩, routes, support, ancestry⟩,
      ⟨verdicts, decisions, checks, decided, sourced, policies⟩, routeChanges, nogoodChanges, nogoods⟩

def validateSemanticDeltas (warrants : WarrantRecords) (probes : ProbeRecords) : Except Failure Unit :=
  probes.semanticDeltas.forM fun delta => do
    require (delta.reconstructionId ∈ probes.reconstructions.map Reconstruction.id)
      (.validation "semantic deltas must reference an owned reconstruction")
    require (∀ change ∈ delta.warrantedChanges, change.warrantLemmaId ∈ warrants.lemmaVersions.map LemmaVersion.id)
      (.validation "semantic changes must reference owned warranted lemmas")

end RatchetingInquiry
