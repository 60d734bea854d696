import RatchetingInquiry.Invariants.Origins
import RatchetingInquiry.Invariants.Theory

/-! Exact compression over whole runs: what stands behind a license, and which carrier a license is applied to.
An application is judged by the bytes of the history that it consumes, not by the carrier of its contract. -/

namespace RatchetingInquiry

/-- The history that a recorded application consumes was derived under the manifest of the licensed contract,
and the contract compresses the realized-history carrier of that manifest. -/
def appliesToHistory (state : InquiryState) (command : DomainCommand) : Bool :=
  match command.body with
  | .compression (.recordCompressionApplication application _) =>
    ((state.licenseById application.licenseId).bind (fun license => state.contractById license.contractId)).all
      (fun contract =>
        (state.derivationById application.sourceHistoryDerivationId).all (fun derivation =>
          derivation.carrierManifestId = contract.carrierManifestId) &&
        (state.manifestById contract.carrierManifestId).all (fun manifest =>
          contract.sourceCarrierId = manifest.realizedHistoryCarrier.id))
  | _ => true

section
variable [Fingerprints] {state : InquiryState} {contract : CompressionContract} {validation : CompressionValidation}

/-- An authorized valid check of the relation is owned. -/
def InquiryState.OwnsCheck (state : InquiryState) (reference : CheckReference)
    (propositionId scopeFingerprint : String) : Prop :=
  ∃ context evidence verdict, state.context = some context ∧ evidence ∈ state.evidenceRecords ∧
    evidence.id = reference.evidenceId ∧ verdict ∈ state.checkerVerdicts ∧
    verdict.id = reference.checkerVerdictId ∧
    CheckedPair evidence verdict propositionId .relation scopeFingerprint context.dischargeMechanismIds

/-- An owned hard decision about the proposition in the scope. -/
structure HardDecision (state : InquiryState) (decisionId propositionId scopeFingerprint : String)
    (decision : WarrantDecisionRecord) : Prop where
  owned : decision ∈ state.warrantDecisions
  named : decision.id = decisionId
  hard : decision.warrantClass = .hard
  proposition : decision.propositionId = propositionId
  scope : decision.scopeFingerprint = scopeFingerprint

/-- What a validation establishes about its contract. -/
structure ValidatesContract (state : InquiryState) (contract : CompressionContract) (validation : CompressionValidation) :
    Prop where
  about : validation.contractId = contract.id
  pinned : validation.contractFingerprint = Fingerprints.digest (.compressionContract contract)
  factorized : validation.outcomeOf .consequenceFactorization = some .valid
  residues_complete : validation.outcomeOf .residueCompleteness = some .valid
  quotient_exact : .coarsestExactQuotient ∈ contract.claimKinds → validation.outcomeOf .exactEquivalence = some .valid
  executable : .executableRetainedState ∈ contract.claimKinds →
    validation.outcomeOf .continuationCompatibility = some .valid ∧
      validation.outcomeOf .recursiveUpdate = some .valid
  checked : ∀ item ∈ validation.properties, item.outcome ≠ .notClaimed → ∃ reference, item.check = some reference ∧
    state.OwnsCheck reference ("compression-property:" ++ contract.id ++ ":" ++ item.property.value)
      contract.scopeFingerprint

/-- What stands behind an exact compression license. -/
structure LicenseChain (state : InquiryState) (license : ExactCompressionLicense) (contract : CompressionContract)
    (validation : CompressionValidation) (decision : WarrantDecisionRecord) : Prop where
  contract_owned : contract ∈ state.compressionContracts ∧ contract.id = license.contractId
  validation_owned : validation ∈ state.compressionValidations ∧ validation.id = license.validationId
  validates : ValidatesContract state contract validation
  warranted : HardDecision state license.warrantDecisionId ("compression-license:" ++ validation.id)
    contract.scopeFingerprint decision
  policy_active : ∃ context, state.context = some context ∧ decision.policyVersion = context.warrantPolicyVersion

/-- A link joins the application to a recovery license with its own hard warrant. -/
def InquiryState.Recovers (state : InquiryState) (applicationId : String) : Prop :=
  ∃ link ∈ state.retentionCapabilityLinks, link.compressionApplicationId = applicationId ∧
    ∃ license ∈ state.recoveryLicenses, license.id = link.recoveryLicenseId ∧
      license.compressionApplicationId = applicationId ∧
      ∃ scopeFingerprint decision, HardDecision state license.warrantDecisionId ("recovery-license:" ++ license.id)
        scopeFingerprint decision

omit [Fingerprints] in
theorem requireRelationCheck_owned {reference : CheckReference} {propositionId scopeFingerprint : String}
    (required : requireRelationCheck state.context state.toWarrantRecords reference propositionId scopeFingerprint =
      .ok ()) : state.OwnsCheck reference propositionId scopeFingerprint := by
  simp only [requireRelationCheck, found_bind_eq_ok, require_eq_ok] at required
  obtain ⟨context, pinned, resolves⟩ := required
  obtain ⟨evidence, verdict, evidenceOwned, verdictOwned, checked⟩ := CheckRecords.resolve_true_iff.mp resolves
  obtain ⟨evidenceMember, evidenceNamed⟩ := indexBy_some evidenceOwned
  obtain ⟨verdictMember, verdictNamed⟩ := indexBy_some verdictOwned
  exact ⟨context, evidence, verdict, pinned, evidenceMember, evidenceNamed, verdictMember, verdictNamed, checked⟩

section
variable {condition : InquiryState → DomainCommand → Prop} {before after later : InquiryState}
  {command : DomainCommand} {body : EventBody}

theorem RunStep.ownsCheck (step : RunStep condition before command body after later) {reference : CheckReference}
    {propositionId scopeFingerprint : String} (owns : before.OwnsCheck reference propositionId scopeFingerprint) :
    later.OwnsCheck reference propositionId scopeFingerprint := by
  obtain ⟨context, evidence, verdict, pinned, evidenceMember, evidenceNamed, verdictMember, rest⟩ := owns
  exact ⟨context, evidence, verdict, step.context_kept pinned, step.grown.evidence.subset evidenceMember,
    evidenceNamed, step.grown.verdicts.subset verdictMember, rest⟩

theorem RunStep.hardDecision (step : RunStep condition before command body after later)
    {decisionId propositionId scopeFingerprint : String} {decision : WarrantDecisionRecord}
    (owned : before.warrantDecisionById decisionId = some decision)
    (hard : decision.hardFor propositionId scopeFingerprint = true) :
    HardDecision later decisionId propositionId scopeFingerprint decision := by
  simp only [WarrantDecisionRecord.hardFor, Bool.and_eq_true, decide_eq_true_eq] at hard
  exact ⟨step.grown.decisions.subset (List.mem_of_find?_eq_some owned), by simpa using List.find?_some owned,
    hard.1.1, hard.1.2, hard.2⟩

theorem RunStep.license_kept (step : RunStep condition before command body after later) {licenseId : String}
    {license : ExactCompressionLicense} (owned : before.licenseById licenseId = some license) :
    later.licenseById licenseId = some license := by
  exact ((collects_compression rfl (fun _ _ => rfl)).kept step.joined).find?_eq_some owned

theorem RunStep.derivation_kept (step : RunStep condition before command body after later) {derivationId : String}
    {derivation : RealizedHistoryDerivation} (owned : before.derivationById derivationId = some derivation) :
    later.derivationById derivationId = some derivation := by
  exact ((collects_compression rfl (fun _ _ => rfl)).kept step.joined).find?_eq_some owned

theorem RunStep.manifest_kept (step : RunStep condition before command body after later) {manifestId : String}
    {manifest : BindingCarrierManifest} (owned : before.manifestById manifestId = some manifest) :
    later.manifestById manifestId = some manifest := by
  exact ((collects_compression rfl (fun _ _ => rfl)).kept step.joined).find?_eq_some owned

theorem RunStep.contract_kept (step : RunStep condition before command body after later) {contractId : String}
    (owned : before.contractById contractId = some contract) : later.contractById contractId = some contract := by
  exact ((collects_compression rfl (fun _ _ => rfl)).kept step.joined).find?_eq_some owned

end

omit [Fingerprints] in
/-- A property with a disposition in a validation without an invalid one is valid. -/
theorem outcome_valid (valid : validation.valid = true) {property : ValidationProperty}
    (disposed : validation.outcomeOf property ≠ some .notClaimed) : validation.outcomeOf property = some .valid := by
  have listed : property ∈ validation.properties.map ExactPropertyValidation.property :=
    validation.properties_complete property (by cases property <;> decide)
  obtain ⟨item, hit⟩ := Option.isSome_iff_exists.mp (indexBy_isSome_iff.mpr listed)
  have notInvalid := List.all_eq_true.mp valid item (indexBy_some hit).1
  simp only [CompressionValidation.outcomeOf, hit, Option.map_some, ne_eq, Option.some.injEq,
    decide_eq_true_eq] at disposed notInvalid ⊢
  cases outcome : item.outcome <;> simp_all

/-- What a recorded validation was judged by, in a state that owns it. -/
structure JudgedFor (state : InquiryState) (contract : CompressionContract) (validation : CompressionValidation) :
    Prop where
  owned : state.contractById validation.contractId = some contract
  pinned : validation.contractFingerprint = Fingerprints.digest (.compressionContract contract)
  disposed : ∀ property ∈ contract.requiredProperties, validation.outcomeOf property ≠ some .notClaimed
  checked : ∀ item ∈ validation.properties, item.outcome ≠ .notClaimed → ∃ reference, item.check = some reference ∧
    state.OwnsCheck reference ("compression-property:" ++ contract.id ++ ":" ++ item.property.value)
      contract.scopeFingerprint

theorem freshCompressionValidation_judged {event : CompressionEvent}
    (judged : freshCompressionValidation state validation = .ok event) :
    ∃ contract, JudgedFor state contract validation := by
  simp only [freshCompressionValidation, found_bind_eq_ok, require_bind_eq_ok, forM_bind_eq_ok] at judged
  obtain ⟨contract, owned, pinned, disposed, checks, -⟩ := judged
  refine ⟨contract, owned, pinned, ?_, ?_⟩
  · intro property required
    simpa using disposed property required
  · intro item member claimed
    have required := checks item member
    simp only [requirePropertyCheck, if_pos claimed, found_bind_eq_ok, require_bind_eq_ok] at required
    obtain ⟨reference, given, propositionId, -, rfl, resolves⟩ := required
    exact ⟨reference, given, requireRelationCheck_owned resolves⟩

theorem Reachable.validation_judged (reached : Reachable state) (member : validation ∈ state.compressionValidations) :
    ∃ contract, JudgedFor state contract validation := by
  obtain ⟨before, command, event, after, step, introduced, -, lawful⟩ :=
    (reachableUnder_of_reachable reached).compression_origin CompressionRecords.compressionValidations
      (fun _ _ => rfl) rfl member
  obtain rfl : event = .compressionValidationRecorded validation := by
    cases event <;> simp_all [CompressionRecords.apply]
  obtain ⟨contract, judged⟩ := freshCompressionValidation_judged (recordOnce_eq_some.mp lawful).2
  refine ⟨contract, step.contract_kept judged.owned, judged.pinned, judged.disposed, ?_⟩
  intro item listed claimed
  obtain ⟨reference, given, owns⟩ := judged.checked item listed claimed
  exact ⟨reference, given, step.ownsCheck owns⟩

theorem JudgedFor.validates (judged : JudgedFor state contract validation) (valid : validation.valid = true) :
    ValidatesContract state contract validation where
  about := by
    have named : contract.id = validation.contractId := by simpa using List.find?_some judged.owned
    exact named.symm
  pinned := judged.pinned
  factorized := outcome_valid valid (judged.disposed _ (by simp [CompressionContract.requiredProperties]))
  residues_complete := outcome_valid valid (judged.disposed _ (by simp [CompressionContract.requiredProperties]))
  quotient_exact := by
    intro claimed
    exact outcome_valid valid (judged.disposed _ (by simp [CompressionContract.requiredProperties, claimed]))
  executable := by
    intro claimed
    constructor
    · exact outcome_valid valid (judged.disposed _ (by simp [CompressionContract.requiredProperties, claimed]))
    · exact outcome_valid valid (judged.disposed _ (by simp [CompressionContract.requiredProperties, claimed]))
  checked := judged.checked

/-- Every license of a reachable state has its whole chain. -/
theorem Reachable.licenseChain (reached : Reachable state) {license : ExactCompressionLicense}
    (member : license ∈ state.exactCompressionLicenses) :
    ∃ contract validation decision, LicenseChain state license contract validation decision := by
  obtain ⟨before, command, event, after, step, introduced, -, lawful⟩ :=
    (reachableUnder_of_reachable reached).compression_origin CompressionRecords.exactCompressionLicenses
      (fun _ _ => rfl) rfl member
  obtain rfl : event = .exactCompressionLicenseGranted license := by
    cases event <;> simp_all [CompressionRecords.apply]
  have judged := (recordOnce_eq_some.mp lawful).2
  simp only [freshExactLicense, found_bind_eq_ok, require_bind_eq_ok, Option.filter_eq_some_iff, Option.any_eq_true,
    decide_eq_true_eq, Bool.and_eq_true] at judged
  obtain ⟨contract, contractHit, validation, ⟨validationHit, about⟩, valid, ⟨context, pinned, policy⟩,
    ⟨decision, decisionHit, hard, decisionPolicy⟩, -⟩ := judged
  obtain ⟨added, joined⟩ := step.joined
  have validationKept : validation ∈ state.compressionValidations := by
    rw [joined.compression]
    exact List.mem_append_left _ (List.mem_of_find?_eq_some validationHit)
  have contractKept := step.contract_kept contractHit
  have contractNamed : contract.id = license.contractId := by simpa using List.find?_some contractHit
  -- the validation was judged for the contract of the same identity, and that one is owned once
  obtain ⟨judgedContract, judgedFor⟩ := reached.validation_judged validationKept
  obtain rfl : judgedContract = contract := by
    have sameId := judgedFor.owned
    rw [about, contractNamed, contractKept] at sameId
    exact (Option.some.inj sameId).symm
  exact ⟨judgedContract, validation, decision, {
    contract_owned := ⟨List.mem_of_find?_eq_some contractKept, contractNamed⟩
    validation_owned := ⟨validationKept, by simpa using List.find?_some validationHit⟩
    validates := judgedFor.validates valid
    warranted := step.hardDecision decisionHit hard
    policy_active := ⟨context, step.context_kept pinned, decisionPolicy.trans policy⟩ }⟩

theorem Reachable.recoveryLicense_warranted (reached : Reachable state) {license : RecoveryLicense}
    (member : license ∈ state.recoveryLicenses) : ∃ scopeFingerprint decision,
      HardDecision state license.warrantDecisionId ("recovery-license:" ++ license.id) scopeFingerprint decision := by
  obtain ⟨before, command, event, after, step, introduced, -, lawful⟩ :=
    (reachableUnder_of_reachable reached).compression_origin CompressionRecords.recoveryLicenses
      (fun _ _ => rfl) rfl member
  obtain rfl : event = .recoveryLicenseGranted license := by
    cases event <;> simp_all [CompressionRecords.apply]
  have judged := (recordOnce_eq_some.mp lawful).2
  simp only [freshRecoveryLicense, found_bind_eq_ok, require_bind_eq_ok, Option.any_eq_true] at judged
  obtain ⟨-, package, -, -, ⟨decision, decisionHit, hard⟩, -⟩ := judged
  exact ⟨package.scopeFingerprint, decision, step.hardDecision decisionHit hard⟩

theorem Reachable.link_licensed (reached : Reachable state) {link : RetentionCapabilityLink}
    (member : link ∈ state.retentionCapabilityLinks) : ∃ license ∈ state.recoveryLicenses,
      license.id = link.recoveryLicenseId ∧ license.compressionApplicationId = link.compressionApplicationId := by
  obtain ⟨before, command, event, after, step, introduced, -, lawful⟩ :=
    (reachableUnder_of_reachable reached).compression_origin CompressionRecords.retentionCapabilityLinks
      (fun _ _ => rfl) rfl member
  obtain rfl : event = .retentionCapabilityLinked link := by
    cases event <;> simp_all [CompressionRecords.apply]
  have judged := (recordOnce_eq_some.mp lawful).2
  simp only [freshCapabilityLink, require_bind_eq_ok, Option.any_eq_true, Bool.and_eq_true, decide_eq_true_eq] at judged
  obtain ⟨⟨license, hit, ⟨sameApplication, -⟩, -⟩, -⟩ := judged
  obtain ⟨added, joined⟩ := step.joined
  refine ⟨license, ?_, by simpa using List.find?_some hit, sameApplication⟩
  rw [joined.compression]
  exact List.mem_append_left _ (List.mem_of_find?_eq_some hit)

omit [Fingerprints] in
/-- A view with capabilities is of an application that some link names. -/
theorem view_linked {records : CompressionRecords} {view : RetainedStateView}
    (member : view ∈ records.retainedStateViews) (capable : view.capabilityIds ≠ []) :
    ∃ link ∈ records.retentionCapabilityLinks, link.compressionApplicationId = view.compressionApplicationId := by
  simp only [CompressionRecords.retainedStateViews, List.mem_insertionSort, List.mem_filterMap,
    Option.bind_eq_some_iff, Option.map_eq_some_iff] at member
  obtain ⟨application, -, license, -, contract, -, rfl⟩ := member
  by_contra unlinked
  push Not at unlinked
  have none : records.retentionCapabilityLinks.filter (fun link =>
      link.compressionApplicationId = application.id) = [] := by
    rw [List.filter_eq_nil_iff]
    intro link listed
    simpa using unlinked link listed
  simp [none, sortedIds] at capable

/-- Every exact license of a reachable state stands on a validation of its exact contract and on a hard
warrant, and a retained state has capabilities only through a warranted recovery license. -/
theorem compression_licensed (reached : Reachable state) :
    (∀ license ∈ state.exactCompressionLicenses, ∃ contract validation decision,
        LicenseChain state license contract validation decision) ∧
      ∀ view ∈ state.retainedStateViews, view.capabilityIds ≠ [] → state.Recovers view.compressionApplicationId := by
  constructor
  · intro license member
    exact reached.licenseChain member
  · intro view member capable
    obtain ⟨link, linked, names⟩ := view_linked member capable
    obtain ⟨license, licensed, licenseNamed, applies⟩ := reached.link_licensed linked
    exact ⟨link, linked, names, license, licensed, licenseNamed, applies.trans names,
      reached.recoveryLicense_warranted licensed⟩

omit [Fingerprints] in
theorem decideCompressionApplication_fresh {records : CompressionRecords} {application : CompressionApplication}
    {residues : List PathResidue} {event : CompressionEvent}
    (lawful : decideCompressionApplication records application residues = .ok (some event)) :
    freshCompressionApplication records application residues = .ok event := by
  unfold decideCompressionApplication at lawful
  split at lawful
  next => split at lawful <;> simp at lawful
  next =>
    cases judged : freshCompressionApplication records application residues with
    | error failure => simp [judged, Except.map] at lawful
    | ok proposed =>
      simp only [judged, Except.map, Except.ok.injEq, Option.some.injEq] at lawful
      rw [lawful]

omit [Fingerprints] in
/-- An application names owned records. -/
theorem freshCompressionApplication_names {records : CompressionRecords} {application : CompressionApplication}
    {residues : List PathResidue} {event : CompressionEvent}
    (judged : freshCompressionApplication records application residues = .ok event) :
    ∃ license, records.licenseById application.licenseId = some license ∧
      ∃ contract, records.contractById license.contractId = some contract ∧
        ∃ derivation, records.derivationById application.sourceHistoryDerivationId = some derivation := by
  simp only [freshCompressionApplication, found_bind_eq_ok, require_bind_eq_ok, Option.filter_eq_some_iff] at judged
  obtain ⟨license, licenseHit, derivation, derivationHit, -, -, -, contract, ⟨contractHit, -⟩, -⟩ := judged
  exact ⟨license, licenseHit, contract, contractHit, derivation, derivationHit⟩

/-- The application consumes a history derived under the manifest of its licensed contract, and the contract
compresses the realized-history carrier of that manifest. -/
def CompressionApplication.AppliesToHistory (application : CompressionApplication) (state : InquiryState) : Prop :=
  ∃ license contract derivation manifest, state.licenseById application.licenseId = some license ∧
    state.contractById license.contractId = some contract ∧
    state.derivationById application.sourceHistoryDerivationId = some derivation ∧
    state.manifestById contract.carrierManifestId = some manifest ∧
    derivation.carrierManifestId = contract.carrierManifestId ∧
    contract.sourceCarrierId = manifest.realizedHistoryCarrier.id

theorem AggregateValid.contract_manifest (valid : AggregateValid state) (member : contract ∈ state.compressionContracts) :
    ∃ manifest, state.manifestById contract.carrierManifestId = some manifest := by
  have checked := valid.compression
  simp only [validateCompression, require_bind_eq_ok] at checked
  obtain ⟨manifest, owned, named⟩ := List.mem_map.mp (checked.2.1 contract member)
  rw [← Option.isSome_iff_exists, CompressionRecords.manifestById, List.find?_isSome]
  exact ⟨manifest, owned, by simpa using named⟩

/-- In every run whose applications consume a history of the declared carrier, every application does. -/
theorem applications_carried (reached : ReachableUnder (fun state command => appliesToHistory state command) state) :
    ∀ application ∈ state.compressionApplications, application.AppliesToHistory state := by
  intro application member
  obtain ⟨before, command, event, after, step, introduced, commanded, lawful⟩ :=
    reached.compression_origin CompressionRecords.compressionApplications (fun _ _ => rfl) rfl member
  obtain ⟨residues, rfl⟩ : ∃ residues, event = .compressionApplicationRecorded application residues := by
    cases event <;> simp_all [CompressionRecords.apply]
  obtain ⟨license, licenseHit, contract, contractHit, derivation, derivationHit⟩ :=
    freshCompressionApplication_names (decideCompressionApplication_fresh lawful)
  obtain ⟨manifest, manifestHit⟩ :=
    step.replayable.aggregateValid.contract_manifest (List.mem_of_find?_eq_some contractHit)
  have meets := step.meets
  simp only [appliesToHistory, commanded, CompressionEvent.command, licenseHit, Option.bind_some, contractHit,
    derivationHit, manifestHit, Option.all_some, Bool.and_eq_true, decide_eq_true_eq] at meets
  exact ⟨license, contract, derivation, manifest, step.license_kept licenseHit, step.contract_kept contractHit,
    step.derivation_kept derivationHit, step.manifest_kept manifestHit, meets⟩

end

/-! A compression of the worked inquiry: the history of its ledger is licensed, applied and made recoverable. -/

namespace Worked

/-- Evidence for a relation, with its valid check. -/
def relationEvidence (id proposition : String) : Evidence where
  id := id
  kind := .independentWitness
  propositionId := proposition
  propositionKind := .relation
  scopeFingerprint := scope.fingerprint
  artifact := artifact id
  closed_hashed := fun closed => closed

def relationCheck (name proposition : String) : List CommandBody :=
  [.warrant (.recordEvidence (relationEvidence ("evidence-" ++ name) proposition)),
    .warrant (.recordCheckerVerdict
      (verdict ("verdict-" ++ name) (relationEvidence ("evidence-" ++ name) proposition)))]

def checkOf (name : String) : CheckReference := ⟨"evidence-" ++ name, "verdict-" ++ name⟩

def carrierManifest : BindingCarrierManifest where
  id := "manifest"
  bindingRevision := "binding"
  configurationCarrier := ⟨"configuration", .configuration, "carrier", "binding"⟩
  realizedHistoryCarrier := ⟨"history", .realizedHistory, "carrier", "binding"⟩
  historyDerivationPolicyId := "history-policy"
  configurationProjectionPolicyId := "projection-policy"
  manifestArtifact := artifact "carriers"
  provenanceRefs := ["provenance"]

def compressionContract (sourceCarrierId : String) : CompressionContract where
  id := "contract"
  carrierManifestId := "manifest"
  sourceCarrierId := sourceCarrierId
  targetCarrier := ⟨"retained", .priorRetainedState, "carrier", "binding"⟩
  bindingRevision := "binding"
  scopeFingerprint := scope.fingerprint
  protectedHorizonId := "horizon"
  continuationOperationIds := []
  consequenceQueryIds := ["query"]
  equalitySemanticsId := "equality"
  recoverySemanticsIds := []
  claimKinds := [.consequenceSufficient]
  representationPolicyId := "representation-policy"
  provenanceRefs := ["provenance"]

def claimedProperty (property : ValidationProperty) : ExactPropertyValidation where
  property := property
  outcome := .valid
  propositionId := some ("compression-property:contract:" ++ property.value)
  check := some (checkOf property.value)
  claimed_checked := by simp

def unclaimedProperty (property : ValidationProperty) : ExactPropertyValidation where
  property := property
  outcome := .notClaimed

def compressionValidation (sourceCarrierId : String) : CompressionValidation where
  id := "validation"
  contractId := "contract"
  contractFingerprint := Fingerprints.digest (.compressionContract (compressionContract sourceCarrierId))
  properties := [claimedProperty .consequenceFactorization, unclaimedProperty .exactEquivalence,
    unclaimedProperty .continuationCompatibility, unclaimedProperty .recursiveUpdate,
    unclaimedProperty .determinationDescent, claimedProperty .residueCompleteness]
  validatorId := "validator"
  validatorVersion := "1"
  validationArtifact := artifact "validation"

def exactLicense (id capability : String) (predecessor : Option String) (distinct : predecessor ≠ some id) :
    ExactCompressionLicense where
  id := id
  contractId := "contract"
  validationId := "validation"
  warrantDecisionId := "decision-license"
  policyVersion := "policy"
  grantedCapabilityIds := [capability]
  predecessorLicenseId := predecessor
  capabilities_given := by simp [CanonicalIds]
  not_own_predecessor := distinct

/-- The first license of the inquiry, for the compression of one of the two carriers of its manifest. -/
def licensed (sourceCarrierId : String) : List CommandBody :=
  start :: relationCheck "consequence_factorization" "compression-property:contract:consequence_factorization" ++
    relationCheck "residue_completeness" "compression-property:contract:residue_completeness" ++
    [.compression (.registerBindingCarrierManifest carrierManifest),
      .compression (.registerCompressionContract (compressionContract sourceCarrierId)),
      .compression (.recordCompressionValidation (compressionValidation sourceCarrierId))] ++
    check "license" "compression-license:validation" ++ [evaluate "license" "compression-license:validation",
      .compression (.grantExactCompressionLicense (exactLicense "license" "capability" none (by decide)))]

def historyDerivation : RealizedHistoryDerivation where
  id := "derivation"
  carrierManifestId := "manifest"
  sourceLedgerSequence := 14
  sourcePrefixDigest := "prefix"
  status := .derived
  historyArtifact := some (artifact "history")
  realizedExtensionIds := ["extension"]
  derivationCheck := some (checkOf "derivation")

def application : CompressionApplication where
  id := "application"
  licenseId := "license"
  sourceHistoryDerivationId := "derivation"
  sourceArtifact := artifact "history"
  retainedStateArtifact := artifact "retained"
  retainedStateFingerprint := "retained"
  appliedRepresentationId := "representation"
  provenanceRefs := ["provenance"]

/-- The license is applied to the realized history of the inquiry, whatever carrier it is for. -/
def compressed (sourceCarrierId : String) : List CommandBody :=
  licensed sourceCarrierId ++ relationCheck "derivation" "history-derivation:derivation" ++
    [.compression (.recordRealizedHistoryDerivation historyDerivation),
      .compression (.recordCompressionApplication application [])]

def retainedEvidence : OwnedMemoryRef :=
  makeOwnedMemoryRef .evidence "evidence-license" 1 (.evidence (evidence "evidence-license" "compression-license:validation"))

def directUse : DirectUseRoute where
  id := "route"
  scopeFingerprint := scope.fingerprint
  bindingRevision := "binding"
  protectedHorizonId := "horizon"
  sourceRefs := [retainedEvidence]
  provenanceRefs := ["provenance"]
  presentUseContractId := "use"

def retention : RetentionRegistration where
  package := {
    id := "package"
    scopeFingerprint := scope.fingerprint
    bindingRevision := "binding"
    protectedHorizonId := "horizon"
    ownedRefs := [retainedEvidence]
    directUseRouteIds := ["route"]
    provenanceRefs := ["provenance"]
    direct_use_canonical := canonical_singleton "route" }
  directUseRoutes := [directUse]

def recoveryLicense : RecoveryLicense where
  id := "recovery"
  compressionApplicationId := "application"
  retentionPackageId := "package"
  routeId := "route"
  recoverySemanticsId := "semantics"
  warrantDecisionId := "decision-recovery"
  policyVersion := "policy"

/-- The retained state gets its capabilities through a warranted recovery license. -/
def recoverable : List CommandBody :=
  compressed "history" ++ .memory (.registerRetentionPackage retention) ::
    check "recovery" "recovery-license:recovery" ++ [evaluate "recovery" "recovery-license:recovery",
      .compression (.grantRecoveryLicense recoveryLicense),
      .compression (.linkRetentionCapability ⟨"link", "package", "route", "application", "recovery"⟩)]

theorem recoverable_licensed :
    ((reached recoverable).exactCompressionLicenses ≠ [] ∧
      ∃ view ∈ (reached recoverable).retainedStateViews, view.capabilityIds ≠ []) ∧
      (∀ license ∈ (reached recoverable).exactCompressionLicenses, ∃ contract validation decision,
        LicenseChain (reached recoverable) license contract validation decision) ∧
      ∀ view ∈ (reached recoverable).retainedStateViews, view.capabilityIds ≠ [] →
        (reached recoverable).Recovers view.compressionApplicationId :=
  ⟨by decide +kernel, compression_licensed (reachable_reached recoverable)⟩

theorem compressed_carried :
    application ∈ (reachedUnder appliesToHistory (compressed "history")).compressionApplications ∧
      application.AppliesToHistory (reachedUnder appliesToHistory (compressed "history")) := by
  have member : application ∈ (reachedUnder appliesToHistory (compressed "history")).compressionApplications := by
    decide +kernel
  exact ⟨member, applications_carried (reachableUnder_reachedUnder _ _) application member⟩

/-- A license for the configuration carrier is applied to the realized history. -/
theorem configuration_not_carried : ¬ ∀ state, Reachable state → ∀ application ∈ state.compressionApplications,
    application.AppliesToHistory state := by
  intro claimed
  have facts : application ∈ (reached (compressed "configuration")).compressionApplications ∧
      (∀ contract ∈ (reached (compressed "configuration")).compressionContracts,
        contract.sourceCarrierId = "configuration") ∧
      ∀ manifest ∈ (reached (compressed "configuration")).bindingCarrierManifests,
        manifest.realizedHistoryCarrier.id = "history" := by decide +kernel
  obtain ⟨member, contracts, manifests⟩ := facts
  obtain ⟨license, contract, derivation, manifest, licenseHit, contractHit, -, manifestHit, -, carried⟩ :=
    claimed _ (reachable_reached _) application member
  rw [contracts contract (List.mem_of_find?_eq_some contractHit),
    manifests manifest (List.mem_of_find?_eq_some manifestHit)] at carried
  exact absurd carried (by decide)

end Worked

end RatchetingInquiry
