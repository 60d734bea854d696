import RatchetingInquiry.Claims.Models
import RatchetingInquiry.Library.Canonical

/-! Immutable support, evidence and warranted-lemma records. -/

namespace RatchetingInquiry

inductive CheckerVerdict where
  | valid | invalid | indeterminate | timeout | unsupported | failed
deriving DecidableEq

inductive WarrantClass where
  | none | soft | solverTrusted | hard
deriving DecidableEq

/-- Current applicability of an immutable support or nogood record. -/
inductive SupportStanding where
  | standing | withdrawn
deriving DecidableEq

inductive EvidenceKind where
  | modelOutput | reification | heuristic | retrieval | observation | independentWitness
  | exhaustiveUnsat | z3Unsat
deriving DecidableEq

inductive PropositionKind where
  | existential | universal | relation
deriving DecidableEq

structure Applicability where
  conditionId : String
  requiredContextIds : List String := []
deriving DecidableEq

/-- A non-authoritative pointer to an aggregate-owned checker record. -/
structure CheckReference where
  evidenceId : String
  checkerVerdictId : String
deriving DecidableEq

/-- A declared assumption environment with independently checked realizability. -/
structure SupportEnvironment where
  id : String
  scopeFingerprint : String
  bindingRevision : String
  assumptionIds : List String
  finiteUniverseHash : Option String
  realizabilityCheck : CheckReference
  assumptions_canonical : assumptionIds.Pairwise (· < ·) := by first | exact canonical_nil | decide
deriving DecidableEq

@[ext]
structure Nogood where
  id : String
  scopeFingerprint : String
  bindingRevision : String
  finiteUniverseHash : Option String
  policyVersion : String
  incompatibleAssumptionIds : List String
  check : CheckReference
  warrantDecisionId : String
  reason : String
  assumptions_named : incompatibleAssumptionIds ≠ [] := by decide
  assumptions_canonical : incompatibleAssumptionIds.Pairwise (· < ·) := by decide

instance : DecidableEq Nogood := fun _ _ => decidable_of_iff' _ Nogood.ext_iff

/-- Append-only standing history for one immutable support route. -/
structure SupportRouteStandingChange where
  id : String
  supportRouteId : String
  standing : SupportStanding
  reason : String
  predecessorId : Option String := none
deriving DecidableEq

/-- Append-only standing history for one immutable warranted nogood. -/
structure NogoodStandingChange where
  id : String
  nogoodId : String
  standing : SupportStanding
  reason : String
  predecessorId : Option String := none
deriving DecidableEq

/-- One exposed route by which a conclusion may stand. -/
structure SupportRoute where
  id : String
  conclusionId : String
  environment : SupportEnvironment
  requiredDependencyIds : List String
  openDependencyIds : List String
  certificateCheck : CheckReference
  warrantRefs : List String := []
  justificationRefs : List String := []
  provenanceRefs : List String := []
  required_canonical : requiredDependencyIds.Pairwise (· < ·) := by first | exact canonical_nil | decide
  open_canonical : openDependencyIds.Pairwise (· < ·) := by first | exact canonical_nil | decide
  open_required : openDependencyIds ⊆ requiredDependencyIds := by decide
deriving DecidableEq

/-- Inert evidence material; it carries no checker or warrant authority. -/
structure Evidence where
  id : String
  kind : EvidenceKind
  propositionId : String
  propositionKind : PropositionKind
  scopeFingerprint : String
  artifact : ArtifactRef
  closedFiniteUniverse : Bool := false
  finiteUniverseHash : Option String := none
  closed_hashed : closedFiniteUniverse = true → finiteUniverseHash.isSome := by decide
deriving DecidableEq

/-- An immutable independent check over one exact recorded evidence artifact. -/
structure CheckerVerdictRecord where
  id : String
  evidenceId : String
  evidenceArtifact : ArtifactRef
  propositionId : String
  propositionKind : PropositionKind
  scopeFingerprint : String
  checkerId : String
  checkerVersion : String
  verdict : CheckerVerdict
  verdictArtifact : ArtifactRef
  certificateArtifact : Option ArtifactRef := none
  valid_certified : verdict = .valid → certificateArtifact.isSome := by decide
deriving DecidableEq

/-- Authoritative immutable semantic version object, independent of support state. -/
structure LemmaVersion where
  id : String
  relationId : String
  propositionKind : PropositionKind
  scope : Scope
  applicability : Applicability
  sourceClaimIds : List String
  predecessorRefs : List String := []
deriving DecidableEq

/-- `LemmaVersion.validate_version`, run when a promotion builds a version. -/
def LemmaVersion.validateVersion (version : LemmaVersion) : Except Failure LemmaVersion := do
  require (version.id ≠ "" ∧ version.relationId ≠ "")
    (.validation "lemma version and relation identity are required")
  require (version.id ∉ version.predecessorRefs) (.validation "a lemma version cannot succeed itself")
  require version.predecessorRefs.Nodup (.validation "predecessor references must be unique")
  require version.sourceClaimIds.Nodup (.validation "source claim references must be unique")
  return version

/-- What the validator of a version asks. -/
structure LemmaVersion.IsValid (version : LemmaVersion) : Prop where
  identified : version.id ≠ "" ∧ version.relationId ≠ ""
  not_own_predecessor : version.id ∉ version.predecessorRefs
  predecessors_unique : version.predecessorRefs.Nodup
  sources_unique : version.sourceClaimIds.Nodup

theorem validateVersion_eq_ok {version result : LemmaVersion} :
    version.validateVersion = .ok result ↔ version.IsValid ∧ result = version := by
  simp only [LemmaVersion.validateVersion, require_bind_eq_ok, pure, Except.pure, Except.ok.injEq]
  constructor
  · rintro ⟨identified, notOwn, predecessors, sources, rfl⟩
    exact ⟨⟨identified, notOwn, predecessors, sources⟩, rfl⟩
  · rintro ⟨⟨identified, notOwn, predecessors, sources⟩, rfl⟩
    exact ⟨identified, notOwn, predecessors, sources, rfl⟩

/-- Authoritative support state referring to one semantic lemma version. -/
structure LemmaSupport where
  lemmaVersionId : String
  policyVersion : String
  supportRoutes : List SupportRoute
  historicalSupportRoutes : List SupportRoute := []
  warrantClass : WarrantClass
  certificateRefs : List String
  provenanceRefs : List String
deriving DecidableEq

def LemmaSupport.allSupportRoutes (support : LemmaSupport) : List SupportRoute :=
  support.supportRoutes ++ support.historicalSupportRoutes

/-- No environment of the list is a proper subset of a later one, nor the other way round. -/
def environmentsAntichain (routes : List SupportRoute) : Prop :=
  routes.Pairwise (fun left right =>
    (left.environment.assumptionIds ⊆ right.environment.assumptionIds ↔
      right.environment.assumptionIds ⊆ left.environment.assumptionIds))

instance (routes : List SupportRoute) : Decidable (environmentsAntichain routes) :=
  inferInstanceAs (Decidable (List.Pairwise _ _))

/-- `LemmaSupport.validate_support`, run when a promotion builds a support record. -/
def LemmaSupport.validateSupport (support : LemmaSupport) : Except Failure LemmaSupport := do
  require (support.policyVersion ≠ "")
    (.validation "lemma support requires an exact warrant-policy version")
  require (support.supportRoutes ≠ []) (.validation "lemma support requires at least one route")
  require (support.allSupportRoutes.map SupportRoute.id).Nodup
    (.validation "support route identities must be unique")
  require (∀ route ∈ support.allSupportRoutes, route.conclusionId = support.lemmaVersionId)
    (.validation "every support route must name its lemma conclusion")
  require (environmentsAntichain support.supportRoutes)
    (.validation "support environments must form a minimal antichain")
  require (∀ historical ∈ support.historicalSupportRoutes, ∃ current ∈ support.supportRoutes,
      current.environment.assumptionIds ⊆ historical.environment.assumptionIds)
    (.validation "historical support routes must be initially dominated or equivalent")
  require (support.certificateRefs.Nodup ∧ support.provenanceRefs.Nodup)
    (.validation "lemma support references must be unique")
  return support

/-- What the validator of a support record asks. -/
structure LemmaSupport.IsValid (support : LemmaSupport) : Prop where
  policy_named : support.policyVersion ≠ ""
  routes_given : support.supportRoutes ≠ []
  routes_unique : (support.allSupportRoutes.map SupportRoute.id).Nodup
  conclusions : ∀ route ∈ support.allSupportRoutes, route.conclusionId = support.lemmaVersionId
  antichain : environmentsAntichain support.supportRoutes
  dominated : ∀ historical ∈ support.historicalSupportRoutes, ∃ current ∈ support.supportRoutes,
    current.environment.assumptionIds ⊆ historical.environment.assumptionIds
  references_unique : support.certificateRefs.Nodup ∧ support.provenanceRefs.Nodup

theorem validateSupport_eq_ok {support result : LemmaSupport} :
    support.validateSupport = .ok result ↔ support.IsValid ∧ result = support := by
  simp only [LemmaSupport.validateSupport, require_bind_eq_ok, pure, Except.pure, Except.ok.injEq]
  constructor
  · rintro ⟨policy, routes, unique, conclusions, antichain, dominated, references, rfl⟩
    exact ⟨⟨policy, routes, unique, conclusions, antichain, dominated, references⟩, rfl⟩
  · rintro ⟨⟨policy, routes, unique, conclusions, antichain, dominated, references⟩, rfl⟩
    exact ⟨policy, routes, unique, conclusions, antichain, dominated, references, rfl⟩

/-- A joined read model; its two authoritative owners remain explicit. -/
structure WarrantedLemma where
  version : LemmaVersion
  support : LemmaSupport
deriving DecidableEq

def WarrantedLemma.id (warranted : WarrantedLemma) : String := warranted.version.id

/-- Persistable policy decision kept separate from checking and promotion. -/
structure WarrantDecisionRecord where
  id : String
  evidenceId : String
  checkerVerdictId : String
  propositionId : String
  propositionKind : PropositionKind
  scopeFingerprint : String
  warrantClass : WarrantClass
  reason : String
  policyVersion : String
deriving DecidableEq

/-- The immutable link creating a promoted view without mutating source claims. -/
structure PromotionLink where
  id : String
  lemmaVersionId : String
  sourceClaimIds : List String
  warrantDecisionId : String
deriving DecidableEq

/-- `PromotionLink.validate_link`, run when a promotion builds its link. -/
def PromotionLink.validateLink (link : PromotionLink) : Except Failure PromotionLink := do
  require (link.id ≠ "" ∧ link.lemmaVersionId ≠ "" ∧ link.warrantDecisionId ≠ "")
    (.validation "promotion link identity, lemma, and decision are required")
  require (link.sourceClaimIds ≠ []) (.validation "promotion must preserve at least one source claim")
  require link.sourceClaimIds.Nodup (.validation "promotion source claim references must be unique")
  return link

theorem validateLink_eq_ok {link result : PromotionLink} :
    link.validateLink = .ok result ↔ (link.id ≠ "" ∧ link.lemmaVersionId ≠ "" ∧ link.warrantDecisionId ≠ "") ∧
      link.sourceClaimIds ≠ [] ∧ link.sourceClaimIds.Nodup ∧ result = link := by
  simp only [PromotionLink.validateLink, require_bind_eq_ok, pure, Except.pure, Except.ok.injEq]
  constructor
  · rintro ⟨named, sources, unique, rfl⟩
    exact ⟨named, sources, unique, rfl⟩
  · rintro ⟨named, sources, unique, rfl⟩
    exact ⟨named, sources, unique, rfl⟩

/-- Regenerable working view, never a second semantic truth store. -/
structure ActiveLemmaView where
  lemmaVersionId : String
  relationId : String
  standingSupportRouteId : String
  standingSupportRouteIds : List String
  scopeFingerprint : String
  bindingRevision : String
  finiteUniverseHash : Option String
  policyVersion : String
deriving DecidableEq

/-- Exact non-authoritative pins used to derive a current theory view. -/
structure TheorySelector where
  scopeFingerprint : String
  bindingRevision : String
  finiteUniverseHash : Option String
  policyVersion : String
  currentAssumptionIds : List String := []
  currentContextIds : List String := []
deriving DecidableEq

end RatchetingInquiry
