import RatchetingInquiry.Warrant.Support

/-! Exact scoped warrant and promotion decisions. -/

namespace RatchetingInquiry

/-- The outcome of a promotion request: a linked lemma with the reason of its hard warrant, or a
rejection with the class that the evidence did reach. -/
inductive PromotionVerdict where
  | accepted (reason : String) (warranted : WarrantedLemma)
  | rejected (warrantClass : WarrantClass) (reason : String)
deriving DecidableEq

section
variable [Fingerprints]

/-- The warrant class that one piece of checked evidence receives for an exact proposition and scope. -/
def decideEvidenceWarrant (evidence : Evidence) (verdict : CheckerVerdictRecord) (propositionId : String)
    (propositionKind : PropositionKind) (scope : Scope) (authorizedCheckerIds : List String) :
    WarrantClass × String :=
  if evidence.kind = .modelOutput ∨ evidence.kind = .reification then
    (.none, "model output and reification provide no warrant")
  else
    let (checked, reason) := validateCheckedEvidence evidence verdict propositionId propositionKind
      scope.fingerprint authorizedCheckerIds
    if ¬ checked then (.none, reason)
    else match evidence.kind with
      | .independentWitness =>
        if propositionKind ≠ .existential then (.none, "a witness warrants only its exact existential")
        else (.hard, "exact scoped existential witness")
      | .exhaustiveUnsat =>
        if evidence.closedFiniteUniverse ∧ (¬ scope.closedWorld ∨ scope.finiteUniverseHash = none ∨
            evidence.finiteUniverseHash ≠ scope.finiteUniverseHash) then
          (.none, "closed-finite evidence does not match the scoped universe")
        else if evidence.closedFiniteUniverse then (.hard, "exhaustive UNSAT over a closed finite universe")
        else (.soft, "UNSAT universe was not declared closed")
      | .z3Unsat => (.solverTrusted, "Z3-only UNSAT remains soft")
      | .heuristic | .retrieval | .observation => (.soft, "policy-authorized evidence is provisional support")
      | .modelOutput | .reification => (.none, "unsupported evidence kind")

/-- What a promotion proposes, as the command carries it. -/
structure PromotionRequest where
  lemmaId : String
  relationId : String
  propositionKind : PropositionKind
  scope : Scope
  applicability : Applicability
  supportRoutes : List SupportRoute
  policyVersion : String
  provenanceRefs : List String
  sourceClaimIds : List String
  predecessorRefs : List String

/-- The certificate digests of the verdicts that the routes and the deciding check name. -/
def certificateRefs (routes : List SupportRoute) (verdict : CheckerVerdictRecord)
    (checkerVerdictById : String → Option CheckerVerdictRecord) : List String :=
  let referenced := (verdict.id :: routes.flatMap (fun route =>
    [route.certificateCheck.checkerVerdictId, route.environment.realizabilityCheck.checkerVerdictId])).dedup
  sortedIds (referenced.filterMap (fun verdictId =>
    (checkerVerdictById verdictId).bind (fun record => record.certificateArtifact.map ArtifactRef.digest)))

/-- The semantic version that a request proposes. -/
def PromotionRequest.version (request : PromotionRequest) : LemmaVersion where
  id := request.lemmaId
  relationId := request.relationId
  propositionKind := request.propositionKind
  scope := request.scope
  applicability := request.applicability
  sourceClaimIds := request.sourceClaimIds
  predecessorRefs := request.predecessorRefs

/-- The hard support that a request proposes: its routes with minimal environments, and the others as
history. -/
def PromotionRequest.support (request : PromotionRequest) (verdict : CheckerVerdictRecord)
    (checkerVerdicts : List CheckerVerdictRecord) : LemmaSupport where
  lemmaVersionId := request.lemmaId
  policyVersion := request.policyVersion
  supportRoutes := (splitMinimal (sortedRoutes request.supportRoutes)).1
  historicalSupportRoutes := (splitMinimal (sortedRoutes request.supportRoutes)).2
  warrantClass := .hard
  certificateRefs := certificateRefs request.supportRoutes verdict (checkerVerdictIndex checkerVerdicts)
  provenanceRefs := request.provenanceRefs

/-- The joined lemma that a request proposes, after the validators of its records. -/
def promotionCandidate (request : PromotionRequest) (verdict : CheckerVerdictRecord) (records : CheckRecords) :
    Except Failure WarrantedLemma := do
  let version ← request.version.validateVersion
  let support ← (request.support verdict records.checkerVerdicts).validateSupport
  WarrantedLemma.validateJoin { version, support }

/-- A route of the candidate is dependency-closed over the grounded lemmas and independently realizable
inside the exact scope. -/
def routeClosed (request : PromotionRequest) (records : CheckRecords) (grounded : List String)
    (route : SupportRoute) : Bool :=
  route.openDependencyIds = [] && route.requiredDependencyIds ⊆ grounded &&
    (records.resolve route.certificateCheck request.relationId request.propositionKind request.scope.fingerprint).1 &&
    (records.resolve route.environment.realizabilityCheck route.environment.id .existential
      request.scope.fingerprint).1 &&
    route.environment.scopeFingerprint = request.scope.fingerprint &&
    route.environment.bindingRevision = request.scope.bindingRevision &&
    route.environment.finiteUniverseHash = request.scope.finiteUniverseHash

/-- The lemmas that a promotion may use as dependencies: those of its own support class. -/
def sameSupportClass (request : PromotionRequest) (existing : List WarrantedLemma) : List WarrantedLemma :=
  existing.filter (fun warranted =>
    warranted.supportClass = (request.scope.fingerprint, request.scope.bindingRevision,
      request.scope.finiteUniverseHash, request.policyVersion))

/-- Create a joined lemma only after support, evidence, cycle and ancestry gates. -/
def decidePromotion (request : PromotionRequest) (evidence : Evidence) (verdict : CheckerVerdictRecord)
    (records : CheckRecords) (existing : List WarrantedLemma)
    (currentAssumptionIds currentContextIds : List String) : Except Failure PromotionVerdict := do
  if request.policyVersion = "" then
    return .rejected .none "promotion requires an exact warrant-policy version"
  if evidenceIndex records.evidenceRecords evidence.id ≠ some evidence then
    return .rejected .none "promotion evidence is not an owned immutable record"
  if checkerVerdictIndex records.checkerVerdicts verdict.id ≠ some verdict then
    return .rejected .none "promotion checker verdict is not an owned immutable record"
  let (warrantClass, reason) := decideEvidenceWarrant evidence verdict request.relationId
    request.propositionKind request.scope records.authorizedCheckerIds
  if warrantClass ≠ .hard then
    return .rejected warrantClass reason
  if request.supportRoutes = [] then
    return .rejected .none "promotion requires an explicit support environment"
  if ∃ route ∈ request.supportRoutes, route.conclusionId ≠ request.lemmaId then
    return .rejected .none "support route conclusion does not match the proposed lemma"
  let candidate ← promotionCandidate request verdict records
  if ¬ supportGraphIsAcyclic (existing ++ [candidate]) then
    return .rejected .none "positive support cycle rejected atomically by the active milestone"
  if ¬ ancestryIsAcyclic ((existing ++ [candidate]).map (fun warranted =>
      (warranted.id, warranted.version.predecessorRefs))) then
    return .rejected .none "authoritative version ancestry would become cyclic"
  if ¬ request.applicability.stands currentContextIds then
    return .rejected .none "the applicability guard is not active in the checked context"
  let grounded := groundedLemmaIds (sameSupportClass request existing) currentAssumptionIds currentContextIds
    [] records
  if ¬ candidate.support.supportRoutes.any (routeClosed request records grounded) then
    return .rejected .none "no support route is dependency-closed and independently realizable"
  return .accepted reason candidate

/-- The evidence settles the proposition by itself: a witness of an existential, or an exhausted search
of the finite universe that a closed-world scope declares. -/
def Evidence.isConclusive (evidence : Evidence) (propositionKind : PropositionKind) (scope : Scope) : Prop :=
  (evidence.kind = .independentWitness ∧ propositionKind = .existential) ∨
    (evidence.kind = .exhaustiveUnsat ∧ evidence.closedFiniteUniverse = true ∧ scope.closedWorld = true ∧
      scope.finiteUniverseHash ≠ none ∧ evidence.finiteUniverseHash = scope.finiteUniverseHash)

/-- Only a checked pair with conclusive evidence is hard. -/
theorem decideEvidenceWarrant_hard_iff {evidence : Evidence} {verdict : CheckerVerdictRecord}
    {propositionId : String} {propositionKind : PropositionKind} {scope : Scope} {authorized : List String} :
    (decideEvidenceWarrant evidence verdict propositionId propositionKind scope authorized).1 = .hard ↔
      CheckedPair evidence verdict propositionId propositionKind scope.fingerprint authorized ∧
        evidence.isConclusive propositionKind scope := by
  rw [← validateCheckedEvidence_true_iff]
  unfold decideEvidenceWarrant Evidence.isConclusive
  cases validateCheckedEvidence evidence verdict propositionId propositionKind scope.fingerprint authorized with
  | mk isChecked reason =>
    cases isChecked <;> cases kind : evidence.kind <;> simp
    case true.independentWitness => split <;> simp_all
    case true.exhaustiveUnsat =>
      split
      next mismatch =>
        obtain ⟨-, opened | unhashed | different⟩ := mismatch
        · simp [opened]
        · simp [unhashed]
        · simp [different]
      next => split <;> simp_all

/-- What an accepted promotion passed. -/
structure PromotionAccepted (request : PromotionRequest) (evidence : Evidence) (verdict : CheckerVerdictRecord)
    (records : CheckRecords) (existing : List WarrantedLemma) (currentAssumptionIds currentContextIds : List String)
    (candidate : WarrantedLemma) : Prop where
  policy_named : request.policyVersion ≠ ""
  evidence_owned : evidenceIndex records.evidenceRecords evidence.id = some evidence
  verdict_owned : checkerVerdictIndex records.checkerVerdicts verdict.id = some verdict
  hard : (decideEvidenceWarrant evidence verdict request.relationId request.propositionKind request.scope
    records.authorizedCheckerIds).1 = .hard
  routes_given : request.supportRoutes ≠ []
  conclusions : ∀ route ∈ request.supportRoutes, route.conclusionId = request.lemmaId
  built : promotionCandidate request verdict records = .ok candidate
  support_acyclic : supportGraphIsAcyclic (existing ++ [candidate]) = true
  ancestry_acyclic : ancestryIsAcyclic ((existing ++ [candidate]).map (fun warranted =>
    (warranted.id, warranted.version.predecessorRefs))) = true
  applicable : request.applicability.stands currentContextIds = true
  closed : ∃ route ∈ candidate.support.supportRoutes, routeClosed request records
    (groundedLemmaIds (sameSupportClass request existing) currentAssumptionIds currentContextIds [] records) route = true

/-- A candidate is the joined proposal itself, once its validators pass. -/
theorem promotionCandidate_eq_ok {request : PromotionRequest} {verdict : CheckerVerdictRecord}
    {records : CheckRecords} {candidate : WarrantedLemma} :
    promotionCandidate request verdict records = .ok candidate ↔
      request.version.IsValid ∧ (request.support verdict records.checkerVerdicts).IsValid ∧ candidate.IsJoined ∧
        candidate = ⟨request.version, request.support verdict records.checkerVerdicts⟩ := by
  unfold promotionCandidate
  simp only [bind_eq_ok, validateVersion_eq_ok, validateSupport_eq_ok, validateJoin_eq_ok]
  constructor
  · rintro ⟨_, ⟨version, rfl⟩, _, ⟨support, rfl⟩, joined, rfl⟩
    exact ⟨version, support, joined, rfl⟩
  · rintro ⟨version, support, joined, rfl⟩
    exact ⟨_, ⟨version, rfl⟩, _, ⟨support, rfl⟩, joined, rfl⟩

omit [Fingerprints] in
/-- A gate that rejects lets a promotion through exactly when its condition fails. -/
theorem unless_rejected {p : Prop} [Decidable p] {warrantClass : WarrantClass} {rejection reason : String}
    {rest : Except Failure PromotionVerdict} {candidate : WarrantedLemma} :
    (if p then pure (.rejected warrantClass rejection) else rest) = .ok (.accepted reason candidate) ↔
      ¬ p ∧ rest = .ok (.accepted reason candidate) := by
  split
  next holds => simp [holds, pure, Except.pure]
  next fails => simp [fails]

theorem decidePromotion_accepted_iff {request : PromotionRequest} {evidence : Evidence}
    {verdict : CheckerVerdictRecord} {records : CheckRecords} {existing : List WarrantedLemma}
    {currentAssumptionIds currentContextIds : List String} {reason : String} {candidate : WarrantedLemma} :
    decidePromotion request evidence verdict records existing currentAssumptionIds currentContextIds =
        .ok (.accepted reason candidate) ↔
      PromotionAccepted request evidence verdict records existing currentAssumptionIds currentContextIds candidate ∧
        reason = (decideEvidenceWarrant evidence verdict request.relationId request.propositionKind request.scope
          records.authorizedCheckerIds).2 := by
  unfold decidePromotion
  cases decided : decideEvidenceWarrant evidence verdict request.relationId request.propositionKind request.scope
      records.authorizedCheckerIds with
  | mk warrantClass warrantReason =>
    simp only [unless_rejected, bind_eq_ok, not_not, ne_eq, List.any_eq_true]
    simp only [pure, Except.pure, Except.ok.injEq, PromotionVerdict.accepted.injEq]
    constructor
    · rintro ⟨policy, evidenceOwned, verdictOwned, hard, routes, conclusions, built, buildable, support, ancestry,
        applicable, closed, rfl, rfl⟩
      exact ⟨⟨policy, evidenceOwned, verdictOwned, by rw [decided]; exact hard, routes, by simpa using conclusions, buildable, support,
        ancestry, applicable, closed⟩, rfl⟩
    · rintro ⟨passed, rfl⟩
      have hard := passed.hard
      rw [decided] at hard
      exact ⟨passed.policy_named, passed.evidence_owned, passed.verdict_owned, hard, passed.routes_given,
        by simpa using passed.conclusions, candidate, passed.built, passed.support_acyclic, passed.ancestry_acyclic,
        passed.applicable, passed.closed, rfl, rfl⟩

end

end RatchetingInquiry
