import RatchetingInquiry.Warrant.Models

/-! Strict, immutable records for retrieval and measured reacquisition. They describe provisional
memory relations only and carry no license, promotion or warrant-class field. Every record here has
schema version one, which is left out. -/

namespace RatchetingInquiry

/-- Unique and in canonical order. -/
abbrev CanonicalIds (values : List String) : Prop := values.Pairwise (· < ·)

/-- The single folded-state owner of a referenced record. -/
inductive MemoryOwner where
  | episodic | semantic | procedural | retention | warrant | action | prediction
deriving DecidableEq

def MemoryOwner.value : MemoryOwner → String
  | .episodic => "M_E" | .semantic => "M_S" | .procedural => "M_P" | .retention => "M_L"
  | .warrant => "W" | .action => "A" | .prediction => "Pi"

/-- Allowlist of aggregate-owned record shapes usable by memory packages. -/
inductive OwnedRecordType where
  | probeEvent | lemmaVersion | semanticDelta | probeIdentity | retentionPackage | reacquisitionScaffold
  | recoveryProtocol | evidence | checkerVerdict | warrantDecision | effectRequest | externalReturn
  | reconstruction | predictionSeal
deriving DecidableEq

def OwnedRecordType.value : OwnedRecordType → String
  | .probeEvent => "probe_event" | .lemmaVersion => "lemma_version" | .semanticDelta => "semantic_delta"
  | .probeIdentity => "probe_identity" | .retentionPackage => "retention_package"
  | .reacquisitionScaffold => "reacquisition_scaffold" | .recoveryProtocol => "recovery_protocol"
  | .evidence => "evidence" | .checkerVerdict => "checker_verdict" | .warrantDecision => "warrant_decision"
  | .effectRequest => "effect_request" | .externalReturn => "external_return"
  | .reconstruction => "reconstruction" | .predictionSeal => "prediction_seal"

def recordOwner : OwnedRecordType → MemoryOwner
  | .probeEvent => .episodic
  | .lemmaVersion | .semanticDelta => .semantic
  | .probeIdentity => .procedural
  | .retentionPackage | .reacquisitionScaffold | .recoveryProtocol => .retention
  | .evidence | .checkerVerdict | .warrantDecision => .warrant
  | .effectRequest | .externalReturn | .reconstruction => .action
  | .predictionSeal => .prediction

/-- A typed reference that detects missing, replaced or reinterpreted records. -/
structure OwnedMemoryRef where
  owner : MemoryOwner
  recordType : OwnedRecordType
  recordId : String
  recordSchemaVersion : Nat
  contentFingerprint : String
  owner_declared : recordOwner recordType = owner := by decide
deriving DecidableEq

/-- The canonical typed resolver key. The source prints its four coordinates into one string; the
coordinates other than the record id contain no separator, so the tuple is the same key. -/
abbrev OwnedRecordKey := MemoryOwner × OwnedRecordType × String × Nat

def OwnedMemoryRef.key (reference : OwnedMemoryRef) : OwnedRecordKey :=
  (reference.owner, reference.recordType, reference.recordId, reference.recordSchemaVersion)

/-- The printed form of a resolver key, by which key lists are ordered. -/
def OwnedRecordKey.text (key : OwnedRecordKey) : String :=
  key.1.value ++ ":" ++ key.2.1.value ++ ":" ++ key.2.2.1 ++ ":v" ++ toString key.2.2.2

inductive RetrievalRankComponent where
  | referenceMatch | recordTypeMatch | ownerMatch | cueMatch | tagMatch
deriving DecidableEq

structure StructuralRetrievalPolicy where
  id : String
  version : String
  maxResults : Nat := 100
  rankComponents : List RetrievalRankComponent :=
    [.referenceMatch, .recordTypeMatch, .ownerMatch, .cueMatch, .tagMatch]
  acceptedRecordTypes : List OwnedRecordType := []
deriving DecidableEq

@[ext]
structure RetrievalQuery where
  id : String
  policyId : String
  policyVersion : String
  scopeFingerprint : String
  bindingRevision : String
  protectedHorizonId : String
  sourceSequence : Nat
  sourceIndexFingerprint : String
  owners : List MemoryOwner := []
  recordTypes : List OwnedRecordType := []
  referenceSelectors : List OwnedMemoryRef := []
  cueIds : List String := []
  tagIds : List String := []
  limit : Nat := 20
  selector_given : owners ≠ [] ∨ recordTypes ≠ [] ∨ referenceSelectors ≠ [] ∨ cueIds ≠ [] ∨ tagIds ≠ [] := by decide
  limit_positive : 1 ≤ limit := by decide

instance : DecidableEq RetrievalQuery := fun _ _ => decidable_of_iff' _ RetrievalQuery.ext_iff

structure RetrievalRank where
  referenceMatchCount : Nat := 0
  recordTypeMatchCount : Nat := 0
  ownerMatchCount : Nat := 0
  cueMatchCount : Nat := 0
  tagMatchCount : Nat := 0
deriving DecidableEq

def RetrievalRank.component (rank : RetrievalRank) : RetrievalRankComponent → Nat
  | .referenceMatch => rank.referenceMatchCount
  | .recordTypeMatch => rank.recordTypeMatchCount
  | .ownerMatch => rank.ownerMatchCount
  | .cueMatch => rank.cueMatchCount
  | .tagMatch => rank.tagMatchCount

structure RetrievalHit where
  packageId : String
  packageContentFingerprint : String
  rank : RetrievalRank
  matchedRefKeys : List OwnedRecordKey := []
  matchedCueIds : List String := []
  matchedTagIds : List String := []
deriving DecidableEq

structure RetrievalResult where
  id : String
  queryId : String
  policyId : String
  policyVersion : String
  sourceSequence : Nat
  sourceIndexFingerprint : String
  hits : List RetrievalHit
  rejectedStalePackageIds : List String := []
deriving DecidableEq

/-- The fields shared by the four kinds of provisional recovery route. -/
structure ProvisionalRoute where
  id : String
  scopeFingerprint : String
  bindingRevision : String
  protectedHorizonId : String
  sourceRefs : List OwnedMemoryRef
  provenanceRefs : List String
deriving DecidableEq

structure DirectUseRoute extends ProvisionalRoute where
  presentUseContractId : String
deriving DecidableEq

structure ReconstructionRoute extends ProvisionalRoute where
  reconstructionPolicyId : String
deriving DecidableEq

structure ConsequenceEvaluationRoute extends ProvisionalRoute where
  consequenceEvaluatorId : String
deriving DecidableEq

structure ReacquisitionRoute extends ProvisionalRoute where
  recoveryProtocolId : String
  reacquisitionScaffoldId : String
deriving DecidableEq

/-- A bounded recovery scaffold whose schema has no target-answer payload. -/
structure ReacquisitionScaffold where
  id : String
  scopeFingerprint : String
  bindingRevision : String
  protectedHorizonId : String
  cueRefs : List OwnedMemoryRef := []
  orderedProbeIds : List String := []
  boundaryRefs : List OwnedMemoryRef := []
  failureRefs : List OwnedMemoryRef := []
  provenanceRefs : List String
deriving DecidableEq

structure CostAxis where
  id : String
  unitId : String
deriving DecidableEq

/-- An exact nonnegative rational cost in reduced form. -/
structure CostCoordinate where
  axis : CostAxis
  numerator : Nat
  denominator : Nat := 1
  denominator_positive : 0 < denominator := by decide
  reduced : Nat.gcd numerator denominator = 1 := by decide
deriving DecidableEq

structure CostVector where
  coordinates : List CostCoordinate
  axes_named : coordinates ≠ [] := by decide
  axes_canonical : CanonicalIds (coordinates.map (·.axis.id)) := by decide
deriving DecidableEq

def CostVector.axisSignature (vector : CostVector) : List CostAxis := vector.coordinates.map (·.axis)

structure RecoveryPins where
  scopeFingerprint : String
  targetCompetenceId : String
  finiteUniverseHash : String
  bindingRevision : String
  protectedHorizonId : String
  evaluatorId : String
  evaluatorVersion : String
  evidenceAccessId : String
  evidenceAccessVersion : String
  budgetId : String
  budgetVersion : String
  budget : CostVector
  recoveryProtocolId : String
  recoveryProtocolVersion : String
  comparisonPolicyId : String
  comparisonPolicyVersion : String
deriving DecidableEq

structure RecoveryProtocol where
  id : String
  version : String
  scopeFingerprint : String
  targetCompetenceId : String
  finiteUniverseHash : String
  bindingRevision : String
  protectedHorizonId : String
  evaluatorId : String
  evaluatorVersion : String
  evidenceAccessId : String
  evidenceAccessVersion : String
  budgetId : String
  budgetVersion : String
  budget : CostVector
  comparisonPolicyId : String
  comparisonPolicyVersion : String
  costAxes : List CostAxis
deriving DecidableEq

def RecoveryProtocol.pins (protocol : RecoveryProtocol) : RecoveryPins where
  scopeFingerprint := protocol.scopeFingerprint
  targetCompetenceId := protocol.targetCompetenceId
  finiteUniverseHash := protocol.finiteUniverseHash
  bindingRevision := protocol.bindingRevision
  protectedHorizonId := protocol.protectedHorizonId
  evaluatorId := protocol.evaluatorId
  evaluatorVersion := protocol.evaluatorVersion
  evidenceAccessId := protocol.evidenceAccessId
  evidenceAccessVersion := protocol.evidenceAccessVersion
  budgetId := protocol.budgetId
  budgetVersion := protocol.budgetVersion
  budget := protocol.budget
  recoveryProtocolId := protocol.id
  recoveryProtocolVersion := protocol.version
  comparisonPolicyId := protocol.comparisonPolicyId
  comparisonPolicyVersion := protocol.comparisonPolicyVersion

@[ext]
structure RetentionPackage where
  id : String
  scopeFingerprint : String
  bindingRevision : String
  protectedHorizonId : String
  ownedRefs : List OwnedMemoryRef
  cueIds : List String := []
  tagIds : List String := []
  directUseRouteIds : List String := []
  reconstructionRouteIds : List String := []
  consequenceEvaluationRouteIds : List String := []
  reacquisitionRouteIds : List String := []
  scaffoldIds : List String := []
  recoveryProtocolIds : List String := []
  provenanceRefs : List String
  direct_use_canonical : CanonicalIds directUseRouteIds := by first | exact canonical_nil | decide
  reconstruction_canonical : CanonicalIds reconstructionRouteIds := by first | exact canonical_nil | decide
  consequence_canonical : CanonicalIds consequenceEvaluationRouteIds := by first | exact canonical_nil | decide
  reacquisition_canonical : CanonicalIds reacquisitionRouteIds := by first | exact canonical_nil | decide
  scaffolds_canonical : CanonicalIds scaffoldIds := by first | exact canonical_nil | decide
  protocols_canonical : CanonicalIds recoveryProtocolIds := by first | exact canonical_nil | decide

instance : DecidableEq RetentionPackage := fun _ _ => decidable_of_iff' _ RetentionPackage.ext_iff

/-- The scope, binding and horizon that a package shares with every record registered with it. -/
abbrev RetentionPins := String × String × String

def RetentionPackage.pins (package : RetentionPackage) : RetentionPins :=
  (package.scopeFingerprint, package.bindingRevision, package.protectedHorizonId)

def ProvisionalRoute.pins (route : ProvisionalRoute) : RetentionPins :=
  (route.scopeFingerprint, route.bindingRevision, route.protectedHorizonId)

def ReacquisitionScaffold.pins (scaffold : ReacquisitionScaffold) : RetentionPins :=
  (scaffold.scopeFingerprint, scaffold.bindingRevision, scaffold.protectedHorizonId)

def RecoveryProtocol.retentionPins (protocol : RecoveryProtocol) : RetentionPins :=
  (protocol.scopeFingerprint, protocol.bindingRevision, protocol.protectedHorizonId)

/-- Atomic registration payload while each contained record retains its own owner. -/
structure RetentionRegistration where
  package : RetentionPackage
  directUseRoutes : List DirectUseRoute := []
  reconstructionRoutes : List ReconstructionRoute := []
  consequenceEvaluationRoutes : List ConsequenceEvaluationRoute := []
  reacquisitionRoutes : List ReacquisitionRoute := []
  scaffolds : List ReacquisitionScaffold := []
  recoveryProtocols : List RecoveryProtocol := []
  direct_use_matches : directUseRoutes.map (·.id) = package.directUseRouteIds := by decide
  reconstruction_matches : reconstructionRoutes.map (·.id) = package.reconstructionRouteIds := by decide
  consequence_matches :
    consequenceEvaluationRoutes.map (·.id) = package.consequenceEvaluationRouteIds := by decide
  reacquisition_matches : reacquisitionRoutes.map (·.id) = package.reacquisitionRouteIds := by decide
  scaffolds_match : scaffolds.map (·.id) = package.scaffoldIds := by decide
  protocols_match : recoveryProtocols.map (·.id) = package.recoveryProtocolIds := by decide
  direct_use_pinned : ∀ route ∈ directUseRoutes, route.pins = package.pins := by decide
  reconstruction_pinned : ∀ route ∈ reconstructionRoutes, route.pins = package.pins := by decide
  consequence_pinned : ∀ route ∈ consequenceEvaluationRoutes, route.pins = package.pins := by decide
  reacquisition_pinned : ∀ route ∈ reacquisitionRoutes, route.pins = package.pins := by decide
  scaffolds_pinned : ∀ scaffold ∈ scaffolds, scaffold.pins = package.pins := by decide
  protocols_pinned : ∀ protocol ∈ recoveryProtocols, protocol.retentionPins = package.pins := by decide
deriving DecidableEq

inductive RecoveryBranch where
  | baseline | retained
deriving DecidableEq

@[ext]
structure ReacquisitionRequest where
  id : String
  parentInquiryId : String
  childInquiryId : String
  branch : RecoveryBranch
  pins : RecoveryPins
  childManifestArtifact : ArtifactRef
  childInquiryManifestArtifact : ArtifactRef
  childContextDigest : String
  childPolicyVersion : String
  retentionPackageId : Option String := none
  scaffoldId : Option String := none
  child_distinct : parentInquiryId ≠ childInquiryId := by decide
  baseline_bare : branch = .baseline → retentionPackageId = none ∧ scaffoldId = none := by decide
  retained_named : branch = .retained → retentionPackageId.isSome ∧ scaffoldId.isSome := by decide

instance : DecidableEq ReacquisitionRequest := fun _ _ => decidable_of_iff' _ ReacquisitionRequest.ext_iff

/-- Stored payload binding a child inquiry to one parent recovery request. -/
structure ReacquisitionChildManifest where
  parentInquiryId : String
  requestId : String
  childInquiryId : String
  pins : RecoveryPins
  contextDigest : String
  policyVersion : String
  inquiryManifestArtifact : ArtifactRef
deriving DecidableEq

structure ReacquisitionInquiryLink where
  id : String
  requestId : String
  parentInquiryId : String
  childInquiryId : String
  childStartEventId : String
  childStartEventDigest : String
  childPrefixSequence : Nat
  childPrefixDigest : String
  childManifestArtifact : ArtifactRef
  childContextDigest : String
  prefix_positive : 0 < childPrefixSequence := by decide
deriving DecidableEq

structure RecoveryObservation where
  id : String
  branch : RecoveryBranch
  reacquisitionRequestId : String
  childInquiryId : String
  childPrefixSequence : Nat
  childPrefixDigest : String
  retentionPackageId : Option String
  pins : RecoveryPins
  costs : CostVector
  logicalProbeIds : List String := []
  effectRequestIds : List String := []
  measurementCheck : CheckReference
  competenceEstablished : Bool
  competenceCheck : Option CheckReference := none
  prefix_positive : 0 < childPrefixSequence := by decide
  axes_match : costs.axisSignature = pins.budget.axisSignature := by decide
  competence_checked : competenceEstablished = true → competenceCheck.isSome := by decide
deriving DecidableEq

structure RecoveryFrontierPoint where
  observationId : String
  costs : CostVector
deriving DecidableEq

structure RecoveryFrontier where
  branch : RecoveryBranch
  pins : RecoveryPins
  sourceObservationIds : List String
  points : List RecoveryFrontierPoint
deriving DecidableEq

inductive RecoveryComparisonOutcome where
  | strictAdvantage | noAdvantage | incomparable
deriving DecidableEq

structure FrontierCoverage where
  baselineObservationId : String
  retainedObservationId : String
  strict : Bool
deriving DecidableEq

structure RecoveryComparison where
  id : String
  baselineFrontier : RecoveryFrontier
  retainedFrontier : RecoveryFrontier
  outcome : RecoveryComparisonOutcome
  coverage : List FrontierCoverage := []
  comparisonCheck : CheckReference
deriving DecidableEq

end RatchetingInquiry
