import RatchetingInquiry.Warrant.Models
import RatchetingInquiry.Memory.Models

/-! Records for exact history-state representations. They describe derived representation contracts
and never replace the replay-complete aggregate. -/

namespace RatchetingInquiry

inductive CarrierRole where
  | configuration | realizedHistory | priorRetainedState | otherDeclared
deriving DecidableEq

inductive HistoryDerivationStatus where
  | derived | notDefined | incomplete | failed
deriving DecidableEq

inductive ExactClaimKind where
  | consequenceSufficient | coarsestExactQuotient | executableRetainedState
deriving DecidableEq

def ExactClaimKind.value : ExactClaimKind → String
  | .consequenceSufficient => "consequence_sufficient"
  | .coarsestExactQuotient => "coarsest_exact_quotient"
  | .executableRetainedState => "executable_retained_state"

/-- The exact properties that a validation dispositions, one each. -/
inductive ValidationProperty where
  | consequenceFactorization | exactEquivalence | continuationCompatibility | recursiveUpdate
  | determinationDescent | residueCompleteness
deriving DecidableEq

def ValidationProperty.value : ValidationProperty → String
  | .consequenceFactorization => "consequence_factorization"
  | .exactEquivalence => "exact_equivalence"
  | .continuationCompatibility => "continuation_compatibility"
  | .recursiveUpdate => "recursive_update"
  | .determinationDescent => "determination_descent"
  | .residueCompleteness => "residue_completeness"

def ValidationProperty.all : List ValidationProperty :=
  [.consequenceFactorization, .exactEquivalence, .continuationCompatibility, .recursiveUpdate,
    .determinationDescent, .residueCompleteness]

inductive ValidationOutcome where
  | valid | invalid | notClaimed
deriving DecidableEq

inductive RepresentationGainKind where
  | breaker | separator | quotient | scope | composition | recovery | warrant
deriving DecidableEq

def RepresentationGainKind.value : RepresentationGainKind → String
  | .breaker => "breaker" | .separator => "separator" | .quotient => "quotient" | .scope => "scope"
  | .composition => "composition" | .recovery => "recovery" | .warrant => "warrant"

inductive SuccessorDisposition where
  | replace | keep | incomparable | reject
deriving DecidableEq

inductive ReopeningOutcome where
  | recoverable | reacquisitionRequired | unknown
deriving DecidableEq

structure CarrierContract where
  id : String
  role : CarrierRole
  schemaId : String
  bindingRevision : String
deriving DecidableEq

/-- Versioned binding declaration; it does not mutate the sealed inquiry start. -/
@[ext]
structure BindingCarrierManifest where
  id : String
  bindingRevision : String
  configurationCarrier : CarrierContract
  realizedHistoryCarrier : CarrierContract
  otherCarriers : List CarrierContract := []
  historyDerivationPolicyId : String
  configurationProjectionPolicyId : String
  manifestArtifact : ArtifactRef
  provenanceRefs : List String
  configuration_role : configurationCarrier.role = .configuration := by decide
  history_role : realizedHistoryCarrier.role = .realizedHistory := by decide
  carriers_pinned : ∀ carrier ∈ configurationCarrier :: realizedHistoryCarrier :: otherCarriers,
    carrier.bindingRevision = bindingRevision := by decide
  other_roles : ∀ carrier ∈ otherCarriers,
    carrier.role ≠ .configuration ∧ carrier.role ≠ .realizedHistory := by decide
  carriers_unique :
    ((configurationCarrier :: realizedHistoryCarrier :: otherCarriers).map CarrierContract.id).Nodup := by decide
  provenance_given : provenanceRefs ≠ [] ∧ CanonicalIds provenanceRefs := by decide

instance : DecidableEq BindingCarrierManifest := fun _ _ => decidable_of_iff' _ BindingCarrierManifest.ext_iff

def BindingCarrierManifest.carriers (manifest : BindingCarrierManifest) : List CarrierContract :=
  manifest.configurationCarrier :: manifest.realizedHistoryCarrier :: manifest.otherCarriers

@[ext]
structure RealizedHistoryDerivation where
  id : String
  carrierManifestId : String
  sourceLedgerSequence : Nat
  sourcePrefixDigest : String
  status : HistoryDerivationStatus
  historyArtifact : Option ArtifactRef := none
  realizedExtensionIds : List String := []
  derivationCheck : Option CheckReference := none
  diagnosticsArtifact : Option ArtifactRef := none
  prefix_committed : 1 ≤ sourceLedgerSequence := by decide
  derived_artifact : (status = .derived) = (historyArtifact.isSome = true) := by decide
  derived_extended : status = .derived → realizedExtensionIds ≠ [] := by decide
  derived_checked : (status = .derived) = (derivationCheck.isSome = true) := by decide
  extensions_unique : realizedExtensionIds.Nodup := by decide

instance : DecidableEq RealizedHistoryDerivation := fun _ _ => decidable_of_iff' _ RealizedHistoryDerivation.ext_iff

@[ext]
structure CompressionContract where
  id : String
  carrierManifestId : String
  sourceCarrierId : String
  targetCarrier : CarrierContract
  bindingRevision : String
  scopeFingerprint : String
  protectedHorizonId : String
  continuationOperationIds : List String
  consequenceQueryIds : List String
  equalitySemanticsId : String
  recoverySemanticsIds : List String
  claimKinds : List ExactClaimKind
  representationPolicyId : String
  provenanceRefs : List String
  target_role : targetCarrier.role = .priorRetainedState ∨ targetCarrier.role = .otherDeclared := by decide
  target_binding : targetCarrier.bindingRevision = bindingRevision := by decide
  queries_given : consequenceQueryIds ≠ [] ∧ claimKinds ≠ [] ∧ provenanceRefs ≠ [] := by decide
  operations_canonical : CanonicalIds continuationOperationIds := by first | exact canonical_nil | decide
  queries_canonical : CanonicalIds consequenceQueryIds := by decide
  semantics_canonical : CanonicalIds recoverySemanticsIds := by first | exact canonical_nil | decide
  kinds_canonical : CanonicalIds (claimKinds.map ExactClaimKind.value) := by decide
  provenance_canonical : CanonicalIds provenanceRefs := by decide
  executable_continues : ExactClaimKind.executableRetainedState ∈ claimKinds →
    continuationOperationIds ≠ [] := by decide

instance : DecidableEq CompressionContract := fun _ _ => decidable_of_iff' _ CompressionContract.ext_iff

/-- One property's outcome. A claimed property carries its proposition and an independent check. -/
structure ExactPropertyValidation where
  property : ValidationProperty
  outcome : ValidationOutcome
  propositionId : Option String := none
  check : Option CheckReference := none
  witnessArtifact : Option ArtifactRef := none
  claimed_checked : (outcome ≠ .notClaimed) = (propositionId.isSome = true ∧ check.isSome = true) := by decide
  invalid_witnessed : outcome = .invalid → witnessArtifact.isSome := by decide
deriving DecidableEq

structure CompressionValidation where
  id : String
  contractId : String
  contractFingerprint : String
  properties : List ExactPropertyValidation
  validatorId : String
  validatorVersion : String
  validationArtifact : ArtifactRef
  properties_unique : (properties.map ExactPropertyValidation.property).Nodup := by decide
  properties_complete : ∀ property ∈ ValidationProperty.all,
    property ∈ properties.map ExactPropertyValidation.property := by decide
deriving DecidableEq

def CompressionValidation.valid (validation : CompressionValidation) : Bool :=
  validation.properties.all (fun item => item.outcome ≠ .invalid)

@[ext]
structure ExactCompressionLicense where
  id : String
  contractId : String
  validationId : String
  warrantDecisionId : String
  policyVersion : String
  grantedCapabilityIds : List String
  predecessorLicenseId : Option String := none
  capabilities_given : grantedCapabilityIds ≠ [] ∧ CanonicalIds grantedCapabilityIds := by decide
  not_own_predecessor : predecessorLicenseId ≠ some id := by decide

instance : DecidableEq ExactCompressionLicense := fun _ _ => decidable_of_iff' _ ExactCompressionLicense.ext_iff

@[ext]
structure PathResidue where
  id : String
  contractId : String
  sourceHistoryDerivationId : String
  residueArtifact : ArtifactRef
  distinctionIds : List String
  recoveryRouteIds : List String := []
  provenanceRefs : List String
  residue_given : distinctionIds ≠ [] ∧ provenanceRefs ≠ [] := by decide
  distinctions_canonical : CanonicalIds distinctionIds := by decide
  routes_canonical : CanonicalIds recoveryRouteIds := by decide
  provenance_canonical : CanonicalIds provenanceRefs := by decide

instance : DecidableEq PathResidue := fun _ _ => decidable_of_iff' _ PathResidue.ext_iff

@[ext]
structure CompressionApplication where
  id : String
  licenseId : String
  sourceHistoryDerivationId : String
  sourceArtifact : ArtifactRef
  retainedStateArtifact : ArtifactRef
  retainedStateFingerprint : String
  pathResidueIds : List String := []
  appliedRepresentationId : String
  provenanceRefs : List String
  residues_canonical : CanonicalIds pathResidueIds := by first | exact canonical_nil | decide
  provenance_given : provenanceRefs ≠ [] ∧ CanonicalIds provenanceRefs := by decide

instance : DecidableEq CompressionApplication := fun _ _ => decidable_of_iff' _ CompressionApplication.ext_iff

structure RecoveryLicense where
  id : String
  compressionApplicationId : String
  retentionPackageId : String
  routeId : String
  recoverySemanticsId : String
  warrantDecisionId : String
  policyVersion : String
deriving DecidableEq

structure RetentionCapabilityLink where
  id : String
  retentionPackageId : String
  routeId : String
  compressionApplicationId : String
  recoveryLicenseId : String
deriving DecidableEq

@[ext]
structure RepresentationSuccessorDecision where
  id : String
  incumbentLicenseId : String
  candidateLicenseId : String
  disposition : SuccessorDisposition
  preservedCapabilityIds : List String
  explicitlyDisposedCapabilityIds : List String := []
  gainKinds : List RepresentationGainKind := []
  warrantDecisionId : Option String := none
  reason : String
  preserved_canonical : CanonicalIds preservedCapabilityIds := by decide
  disposed_canonical : CanonicalIds explicitlyDisposedCapabilityIds := by first | exact canonical_nil | decide
  gains_canonical : CanonicalIds (gainKinds.map RepresentationGainKind.value) := by decide
  replacement_warranted : disposition = .replace → gainKinds ≠ [] ∧ warrantDecisionId.isSome := by decide
  only_replacement_warranted : disposition ≠ .replace → warrantDecisionId = none := by decide

instance : DecidableEq RepresentationSuccessorDecision := fun _ _ => decidable_of_iff' _ RepresentationSuccessorDecision.ext_iff

@[ext]
structure RepresentationReopening where
  id : String
  licenseId : String
  priorHorizonId : String
  expandedHorizonId : String
  factorizationFailureCheck : CheckReference
  counterexampleArtifact : ArtifactRef
  outcome : ReopeningOutcome
  pathResidueId : Option String := none
  recoveryLicenseId : Option String := none
  horizon_changes : priorHorizonId ≠ expandedHorizonId := by decide
  recoverable_residue : outcome = .recoverable → pathResidueId.isSome := by decide
  reacquisition_licensed : outcome = .reacquisitionRequired → recoveryLicenseId.isSome := by decide
  unknown_bare : outcome = .unknown → pathResidueId = none ∧ recoveryLicenseId = none := by decide

instance : DecidableEq RepresentationReopening := fun _ _ => decidable_of_iff' _ RepresentationReopening.ext_iff

/-- Derived join; never an independently writable authority. -/
structure RetainedStateView where
  compressionApplicationId : String
  contractId : String
  licenseId : String
  sourceCarrierId : String
  targetCarrierId : String
  retainedStateArtifact : ArtifactRef
  capabilityIds : List String
deriving DecidableEq

end RatchetingInquiry
