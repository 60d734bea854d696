import RatchetingInquiry.Core.Decide.Learning

/-! Decisions over carriers, exact compression, its licenses, and recovery from it. -/

namespace RatchetingInquiry

namespace CompressionRecords

def manifestById (records : CompressionRecords) (manifestId : String) : Option BindingCarrierManifest :=
  records.bindingCarrierManifests.find? (fun item => item.id = manifestId)

def derivationById (records : CompressionRecords) (derivationId : String) : Option RealizedHistoryDerivation :=
  records.realizedHistoryDerivations.find? (fun item => item.id = derivationId)

def contractById (records : CompressionRecords) (contractId : String) : Option CompressionContract :=
  records.compressionContracts.find? (fun item => item.id = contractId)

def validationById (records : CompressionRecords) (validationId : String) : Option CompressionValidation :=
  records.compressionValidations.find? (fun item => item.id = validationId)

def licenseById (records : CompressionRecords) (licenseId : String) : Option ExactCompressionLicense :=
  records.exactCompressionLicenses.find? (fun item => item.id = licenseId)

def applicationById (records : CompressionRecords) (applicationId : String) : Option CompressionApplication :=
  records.compressionApplications.find? (fun item => item.id = applicationId)

def recoveryLicenseById (records : CompressionRecords) (licenseId : String) : Option RecoveryLicense :=
  records.recoveryLicenses.find? (fun item => item.id = licenseId)

def residueById (records : CompressionRecords) (residueId : String) : Option PathResidue :=
  records.pathResidues.find? (fun item => item.id = residueId)

end CompressionRecords

/-- The decision is hard and about exactly this proposition and scope. -/
def WarrantDecisionRecord.hardFor (decision : WarrantDecisionRecord) (propositionId scopeFingerprint : String) : Bool :=
  decision.warrantClass = .hard && decision.propositionId = propositionId &&
    decision.scopeFingerprint = scopeFingerprint

section
variable [Fingerprints]

def freshCarrierManifest (context : Option InquiryContext) (manifest : BindingCarrierManifest) :
    Except Failure CompressionEvent := do
  let context ← found (context.filter (fun context => manifest.bindingRevision = context.bindingRevision))
    (.invalidCommand "carrier manifest must match the inquiry binding revision")
  require (manifest.configurationCarrier.schemaId ∈ context.carrierSchemaIds)
    (.invalidCommand "configuration carrier schema is not pinned by the inquiry")
  require (manifest.realizedHistoryCarrier.schemaId ∈ context.carrierSchemaIds)
    (.invalidCommand "history carrier schema is not pinned by the inquiry")
  return .bindingCarrierManifestRegistered manifest

/-- The check of a derived history is about its exact derivation. -/
def requireDerivationCheck (context : Option InquiryContext) (warrants : WarrantRecords)
    (derivation : RealizedHistoryDerivation) : Except Failure Unit := do
  if derivation.status = .derived then
    let check ← found derivation.derivationCheck (.runtime "derived history without its check")
    let pinned ← found context (.runtime "derived history without an inquiry context")
    requireRelationCheck context warrants check ("history-derivation:" ++ derivation.id) pinned.scopeFingerprint

def freshHistoryDerivation (state : InquiryState) (derivation : RealizedHistoryDerivation) :
    Except Failure CompressionEvent := do
  require (state.manifestById derivation.carrierManifestId).isSome
    (.invalidCommand "history derivation requires an owned carrier manifest")
  require (derivation.sourceLedgerSequence = state.sequence)
    (.invalidCommand "history derivation must pin the current committed prefix")
  requireDerivationCheck state.context state.toWarrantRecords derivation
  return .realizedHistoryDerivationRecorded derivation

def freshCompressionContract (context : Option InquiryContext) (records : CompressionRecords)
    (contract : CompressionContract) : Except Failure CompressionEvent := do
  let manifest ← found (records.manifestById contract.carrierManifestId)
    (.invalidCommand "compression contract requires its carrier manifest")
  let context ← found context (.invalidCommand "compression contract requires its carrier manifest")
  require (∃ carrier ∈ manifest.carriers, carrier.id = contract.sourceCarrierId)
    (.invalidCommand "compression source carrier is not explicitly declared")
  require ((contract.scopeFingerprint, contract.bindingRevision, contract.protectedHorizonId) = context.retentionPins)
    (.invalidCommand "compression contract pins must match inquiry context")
  return .compressionContractRegistered contract

/-- The properties that the claims of a contract need a disposition for. The source iterates over them
as a set, so which missing one is named first is not fixed there. -/
def CompressionContract.requiredProperties (contract : CompressionContract) : List ValidationProperty :=
  [.consequenceFactorization, .residueCompleteness] ++
    (if .coarsestExactQuotient ∈ contract.claimKinds then [.exactEquivalence] else []) ++
    (if .executableRetainedState ∈ contract.claimKinds then [.continuationCompatibility, .recursiveUpdate] else [])

def CompressionValidation.outcomeOf (validation : CompressionValidation) (property : ValidationProperty) :
    Option ValidationOutcome :=
  (indexBy ExactPropertyValidation.property validation.properties property).map (·.outcome)

/-- A claimed property is checked for its exact contract. -/
def requirePropertyCheck (context : Option InquiryContext) (warrants : WarrantRecords) (contract : CompressionContract)
    (item : ExactPropertyValidation) : Except Failure Unit := do
  if item.outcome ≠ .notClaimed then
    let check ← found item.check (.runtime "claimed property without its check")
    let propositionId ← found item.propositionId (.runtime "claimed property without its proposition")
    require (propositionId = "compression-property:" ++ contract.id ++ ":" ++ item.property.value)
      (.invalidCommand "compression property check is not bound to its exact contract property")
    requireRelationCheck context warrants check propositionId contract.scopeFingerprint

def freshCompressionValidation (state : InquiryState) (validation : CompressionValidation) :
    Except Failure CompressionEvent := do
  let contract ← found (state.contractById validation.contractId)
    (.invalidCommand "compression validation requires an owned contract")
  require (validation.contractFingerprint = Fingerprints.digest (.compressionContract contract))
    (.invalidCommand "compression validation does not pin the exact contract")
  contract.requiredProperties.forM fun property =>
    require (validation.outcomeOf property ≠ some .notClaimed)
      (.invalidCommand ("compression claim requires a disposition for " ++ property.value))
  validation.properties.forM (requirePropertyCheck state.context state.toWarrantRecords contract)
  return .compressionValidationRecorded validation

def freshExactLicense (state : InquiryState) (license : ExactCompressionLicense) : Except Failure CompressionEvent := do
  let contract ← found (state.contractById license.contractId)
    (.invalidCommand "exact license requires its exact contract validation")
  let validation ← found ((state.validationById license.validationId).filter (fun item =>
      item.contractId = contract.id))
    (.invalidCommand "exact license requires its exact contract validation")
  require validation.valid (.invalidCommand "invalid compression validation cannot be licensed")
  require (state.context.any (fun context => license.policyVersion = context.warrantPolicyVersion))
    (.invalidCommand "exact license must use the active warrant policy")
  require ((state.warrantDecisionById license.warrantDecisionId).any (fun decision =>
      decision.hardFor ("compression-license:" ++ validation.id) contract.scopeFingerprint &&
        decision.policyVersion = license.policyVersion))
    (.invalidCommand "exact license requires an exact active hard warrant")
  require (license.predecessorLicenseId.all (fun predecessorId => (state.licenseById predecessorId).isSome))
    (.invalidCommand "compression-license predecessor is not owned")
  return .exactCompressionLicenseGranted license

def freshCompressionApplication (records : CompressionRecords) (application : CompressionApplication)
    (residues : List PathResidue) : Except Failure CompressionEvent := do
  let license ← found (records.licenseById application.licenseId)
    (.invalidCommand "compression application requires license and history")
  let derivation ← found (records.derivationById application.sourceHistoryDerivationId)
    (.invalidCommand "compression application requires license and history")
  require (derivation.status = .derived ∧ derivation.historyArtifact = some application.sourceArtifact)
    (.invalidCommand "compression application must consume its exact derived history")
  require (application.retainedStateFingerprint = application.retainedStateArtifact.digest)
    (.invalidCommand "retained-state fingerprint must pin the exact CAS bytes")
  require (application.pathResidueIds ⊆ residues.map PathResidue.id ∧
      residues.map PathResidue.id ⊆ application.pathResidueIds)
    (.invalidCommand "application must atomically provide every named path residue")
  let _ ← found ((records.contractById license.contractId).filter (fun contract =>
      residues.all (fun residue => residue.contractId = contract.id)))
    (.invalidCommand "path residue must belong to the applied contract")
  require (∀ residue ∈ residues, residue.sourceHistoryDerivationId = derivation.id)
    (.invalidCommand "path residue must belong to the applied history")
  require (∀ residue ∈ residues, residue.id ∉ records.pathResidues.map PathResidue.id)
    (.invalidCommand "path-residue identity is already owned")
  return .compressionApplicationRecorded application residues

/-- An owned application is repeated only when its residues are owned as well. -/
def decideCompressionApplication (records : CompressionRecords) (application : CompressionApplication)
    (residues : List PathResidue) : Except Failure (Option CompressionEvent) :=
  match records.applicationById application.id with
  | some prior =>
    if prior = application ∧ residues ⊆ records.pathResidues then .ok none
    else .error (.identityConflict "compression-application identity was reused")
  | none => (freshCompressionApplication records application residues).map some

def RetentionPackage.routeIds (package : RetentionPackage) : List String :=
  package.directUseRouteIds ++ package.reconstructionRouteIds ++ package.consequenceEvaluationRouteIds ++
    package.reacquisitionRouteIds

def freshRecoveryLicense (state : InquiryState) (license : RecoveryLicense) : Except Failure CompressionEvent := do
  require (state.applicationById license.compressionApplicationId).isSome
    (.invalidCommand "recovery license requires exact application/package route")
  let package ← found ((state.retentionPackages.find? (fun item => item.id = license.retentionPackageId)).filter
      (fun package => license.routeId ∈ package.routeIds))
    (.invalidCommand "recovery license requires exact application/package route")
  require (state.context.any (fun context => license.policyVersion = context.warrantPolicyVersion))
    (.invalidCommand "recovery license must use the active warrant policy")
  require ((state.warrantDecisionById license.warrantDecisionId).any (fun decision =>
      decision.hardFor ("recovery-license:" ++ license.id) package.scopeFingerprint))
    (.invalidCommand "recovery license requires an exact active hard warrant")
  return .recoveryLicenseGranted license

def freshCapabilityLink (records : CompressionRecords) (link : RetentionCapabilityLink) :
    Except Failure CompressionEvent := do
  require ((records.recoveryLicenseById link.recoveryLicenseId).any (fun license =>
      license.compressionApplicationId = link.compressionApplicationId &&
        license.retentionPackageId = link.retentionPackageId && license.routeId = link.routeId))
    (.invalidCommand "retention capability link must match its recovery license")
  return .retentionCapabilityLinked link

/-- A replacement names its exact predecessor and an independent hard warrant. -/
def requireReplacement (warrants : WarrantRecords) (decision : RepresentationSuccessorDecision)
    (incumbent candidate : ExactCompressionLicense) (contract : CompressionContract) : Except Failure Unit := do
  if decision.disposition = .replace then
    require (candidate.predecessorLicenseId = some incumbent.id)
      (.invalidCommand "replacement candidate must name its exact predecessor")
    require ((warrants.warrantDecisionById (decision.warrantDecisionId.getD "")).any (fun warrant =>
        warrant.hardFor ("representation-successor:" ++ decision.id) contract.scopeFingerprint &&
          warrant.policyVersion = candidate.policyVersion))
      (.invalidCommand "replacement requires exact independent hard warrant")

def freshRepresentationSuccessor (warrants : WarrantRecords) (records : CompressionRecords)
    (decision : RepresentationSuccessorDecision) : Except Failure CompressionEvent := do
  let undistinct : Failure := .invalidCommand "successor decision requires two distinct owned licenses"
  let incumbent ← found
    (indexBy ExactCompressionLicense.id records.exactCompressionLicenses decision.incumbentLicenseId) undistinct
  let candidate ← found
    (indexBy ExactCompressionLicense.id records.exactCompressionLicenses decision.candidateLicenseId) undistinct
  require (incumbent.id ≠ candidate.id) undistinct
  let contract ← found (records.contractById candidate.contractId)
    (.invalidCommand "successor candidate lacks its owned compression contract")
  require (incumbent.grantedCapabilityIds ⊆
      decision.preservedCapabilityIds ++ decision.explicitlyDisposedCapabilityIds)
    (.invalidCommand "successor must preserve or disposition every predecessor capability")
  requireReplacement warrants decision incumbent candidate contract
  return .representationSuccessorDecided decision

def freshReopening (state : InquiryState) (reopening : RepresentationReopening) : Except Failure CompressionEvent := do
  let license ← found (state.licenseById reopening.licenseId)
    (.invalidCommand "reopening requires an owned exact license")
  let contract ← found (state.contractById license.contractId)
    (.invalidCommand "reopening requires the licensed contract")
  require (reopening.priorHorizonId = contract.protectedHorizonId)
    (.invalidCommand "reopening prior horizon must match the licensed contract")
  requireRelationCheck state.context state.toWarrantRecords reopening.factorizationFailureCheck
    ("representation-reopening:" ++ reopening.id) contract.scopeFingerprint
  reopening.pathResidueId.toList.forM fun residueId =>
    require ((state.residueById residueId).any (fun residue => residue.contractId = contract.id))
      (.invalidCommand "reopening path residue is not owned by the contract")
  reopening.recoveryLicenseId.toList.forM fun licenseId =>
    require (((state.recoveryLicenseById licenseId).bind (fun recovery =>
        state.applicationById recovery.compressionApplicationId)).any (fun application =>
          application.licenseId = license.id))
      (.invalidCommand "reopening recovery route is not licensed for this state")
  require (reopening.outcome = .unknown → reopening.pathResidueId = none ∧ reopening.recoveryLicenseId = none)
    (.invalidCommand "Unknown reopening cannot claim a recovery path")
  return .representationReopened reopening

def decideCompression (state : InquiryState) : CompressionCommand → Except Failure (Option CompressionEvent)
  | .registerBindingCarrierManifest manifest =>
    recordOnce (state.manifestById manifest.id) manifest "carrier-manifest identity was reused"
      (freshCarrierManifest state.context manifest)
  | .recordRealizedHistoryDerivation derivation =>
    recordOnce (state.derivationById derivation.id) derivation "history-derivation identity was reused"
      (freshHistoryDerivation state derivation)
  | .registerCompressionContract contract =>
    recordOnce (state.contractById contract.id) contract "compression-contract identity was reused"
      (freshCompressionContract state.context state.toCompressionRecords contract)
  | .recordCompressionValidation validation =>
    recordOnce (state.validationById validation.id) validation "compression-validation identity was reused"
      (freshCompressionValidation state validation)
  | .grantExactCompressionLicense license =>
    recordOnce (state.licenseById license.id) license "exact-license identity was reused"
      (freshExactLicense state license)
  | .recordCompressionApplication application residues =>
    decideCompressionApplication state.toCompressionRecords application residues
  | .grantRecoveryLicense license =>
    recordOnce (state.recoveryLicenseById license.id) license "recovery-license identity was reused"
      (freshRecoveryLicense state license)
  | .linkRetentionCapability link =>
    recordOnce (state.retentionCapabilityLinks.find? (fun item => item.id = link.id)) link
      "retention-capability link identity was reused" (freshCapabilityLink state.toCompressionRecords link)
  | .decideRepresentationSuccessor decision =>
    recordOnce (state.representationSuccessorDecisions.find? (fun item => item.id = decision.id)) decision
      "representation-successor identity was reused"
      (freshRepresentationSuccessor state.toWarrantRecords state.toCompressionRecords decision)
  | .reopenRepresentation reopening =>
    recordOnce (state.representationReopenings.find? (fun item => item.id = reopening.id)) reopening
      "representation-reopening identity was reused" (freshReopening state reopening)

end

end RatchetingInquiry
