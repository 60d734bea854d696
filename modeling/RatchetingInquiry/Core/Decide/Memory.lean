import RatchetingInquiry.Core.Decide.Probes
import RatchetingInquiry.Memory.Recovery
import RatchetingInquiry.Memory.Retrieval

/-! Decisions over retention packages, retrieval and measured reacquisition. -/

namespace RatchetingInquiry

/-- Every record of a registration is already owned. -/
def RetentionRecords.owns (retention : RetentionRecords) (registration : RetentionRegistration) : Bool :=
  registration.directUseRoutes ⊆ retention.directUseRoutes &&
    registration.reconstructionRoutes ⊆ retention.reconstructionRoutes &&
    registration.consequenceEvaluationRoutes ⊆ retention.consequenceEvaluationRoutes &&
    registration.reacquisitionRoutes ⊆ retention.reacquisitionRoutes &&
    registration.scaffolds ⊆ retention.reacquisitionScaffolds &&
    registration.recoveryProtocols ⊆ retention.recoveryProtocols

/-- Some proposed record takes the identity of an owned one. -/
def reusesIdentity {α : Type} (identity : α → String) (prior proposed : List α) : Bool :=
  prior.any (fun owned => proposed.any (fun record => identity owned = identity record))

def RetentionRecords.registrationReusesOwnedId (retention : RetentionRecords)
    (registration : RetentionRegistration) : Bool :=
  reusesIdentity (·.id) retention.directUseRoutes registration.directUseRoutes ||
    reusesIdentity (·.id) retention.reconstructionRoutes registration.reconstructionRoutes ||
    reusesIdentity (·.id) retention.consequenceEvaluationRoutes registration.consequenceEvaluationRoutes ||
    reusesIdentity (·.id) retention.reacquisitionRoutes registration.reacquisitionRoutes ||
    reusesIdentity (·.id) retention.reacquisitionScaffolds registration.scaffolds ||
    reusesIdentity (·.id) retention.recoveryProtocols registration.recoveryProtocols

/-- The owned records of the aggregate that a memory reference can name. -/
def InquiryState.ownedMemoryRecords (state : InquiryState) : List OwnedRecord :=
  RatchetingInquiry.ownedMemoryRecords state.toEffectRecords state.toWarrantRecords state.toProbeRecords
    state.toRetentionRecords

section
variable [Fingerprints]

def InquiryState.ownedMemoryFingerprints (state : InquiryState) : List (OwnedRecordKey × String) :=
  RatchetingInquiry.ownedMemoryFingerprints state.ownedMemoryRecords

/-- Require one exact owned, authorized and valid check of a relation. -/
def requireRelationCheck (context : Option InquiryContext) (warrants : WarrantRecords) (reference : CheckReference)
    (propositionId scopeFingerprint : String) : Except Failure Unit := do
  let context ← found context (.invalidCommand "G2A checks require an inquiry context")
  let (checked, reason) := (warrants.checkRecords context).resolve reference propositionId .relation scopeFingerprint
  require checked (.invalidCommand ("G2A record requires an independent valid check: " ++ reason))

def requireOwnedRef (state : InquiryState) (reference : OwnedMemoryRef) : Except Failure Unit :=
  let (resolved, reason) := resolveOwnedMemoryRef reference state.ownedMemoryRecords
  require resolved
    (.invalidCommand ("retention package has an invalid pre-existing reference: " ++ reason))

def decideRegisterRetentionPackage (state : InquiryState) (registration : RetentionRegistration) :
    Except Failure (Option MemoryEvent) :=
  match state.retentionPackages.find? (fun item => item.id = registration.package.id) with
  | some package =>
    if package = registration.package ∧ state.toRetentionRecords.owns registration then .ok none
    else .error (.identityConflict "retention package identity was reused")
  | none => do
    require (state.context.any (fun context => registration.package.pins =
        (context.scopeFingerprint, context.bindingRevision, context.protectedHorizonId)))
      (.invalidCommand "retention package pins must match the inquiry context")
    require (¬ state.toRetentionRecords.registrationReusesOwnedId registration)
      (.invalidCommand "a new retention package cannot take ownership of an existing route")
    registration.package.ownedRefs.forM (requireOwnedRef state)
    return some (.retentionPackageRegistered registration)

/-- The failures of policy resolution and retrieval become rejected commands. -/
def rejectRetrievalError {α : Type} : Except Failure α → Except Failure α
  | .error failure => .error (.invalidCommand failure.message)
  | outcome => outcome

def decideRunRetrieval (state : InquiryState) (resultId : String) (query : RetrievalQuery) :
    Except Failure (Option MemoryEvent) :=
  let existingResult := state.retrievalResults.find? (fun item => item.id = resultId)
  let existingQuery := state.retrievalQueries.find? (fun item => item.id = query.id)
  if existingResult.isSome ∨ existingQuery.isSome then
    if existingQuery = some query ∧ existingResult.any (fun result => result.queryId = query.id) then .ok none
    else .error (.identityConflict "retrieval query or result identity was reused")
  else do
    require (query.sourceSequence = state.sequence)
      (.invalidCommand "retrieval query must pin the current committed sequence")
    let actual ← structuralIndexFingerprint state.retentionPackages state.ownedMemoryFingerprints
    require (query.sourceIndexFingerprint = actual)
      (.invalidCommand "retrieval query must pin the current structural index")
    let policy ← rejectRetrievalError (resolveStructuralRetrievalPolicy query.policyId query.policyVersion)
    let result ← rejectRetrievalError
      (retrieve resultId query policy state.retentionPackages state.ownedMemoryFingerprints)
    return some (.retrievalCompleted policy query result)

/-- The package owns the scaffold, the protocol and a route that joins them. -/
def RetentionRecords.ownsReacquisition (retention : RetentionRecords) (request : ReacquisitionRequest)
    (protocol : RecoveryProtocol) (package : RetentionPackage) : Bool :=
  request.scaffoldId.any (fun scaffoldId => scaffoldId ∈ package.scaffoldIds) &&
    protocol.id ∈ package.recoveryProtocolIds &&
    retention.reacquisitionRoutes.any (fun route =>
      route.id ∈ package.reacquisitionRouteIds && route.recoveryProtocolId = protocol.id &&
        some route.reacquisitionScaffoldId = request.scaffoldId)

/-- The pins of a recovery agree with the inquiry context. -/
def RecoveryPins.inContext (pins : RecoveryPins) (context : InquiryContext) : Bool :=
  pins.scopeFingerprint = context.scopeFingerprint && pins.bindingRevision = context.bindingRevision &&
    pins.protectedHorizonId = context.protectedHorizonId &&
    some pins.finiteUniverseHash = context.finiteUniverseHash

def freshReacquisition (state : InquiryState) (request : ReacquisitionRequest) : Except Failure MemoryEvent := do
  require (∀ item ∈ state.reacquisitionRequests, item.childInquiryId ≠ request.childInquiryId)
    (.identityConflict "reacquisition child inquiry identity was reused")
  let context ← found (state.context.filter (fun _ => some request.parentInquiryId = state.inquiryId))
    (.invalidCommand "reacquisition request must belong to this inquiry")
  require (request.pins.inContext context)
    (.invalidCommand "reacquisition request pins differ from inquiry context")
  let protocol ← found ((state.recoveryProtocols.find? (fun item =>
      item.id = request.pins.recoveryProtocolId && item.version = request.pins.recoveryProtocolVersion)).filter
        (fun item => item.pins = request.pins))
    (.invalidCommand "reacquisition request requires an exact owned protocol")
  request.retentionPackageId.toList.forM fun packageId =>
    require ((state.retentionPackages.find? (fun item => item.id = packageId)).any
        (state.toRetentionRecords.ownsReacquisition request protocol))
      (.invalidCommand "retained reacquisition requires one package-owned scaffold and protocol")
  return .reacquisitionRequested request

/-- A link repeats the child pins of its request. -/
def ReacquisitionInquiryLink.agreesWith (link : ReacquisitionInquiryLink) (request : ReacquisitionRequest) : Bool :=
  link.parentInquiryId = request.parentInquiryId && link.childInquiryId = request.childInquiryId &&
    link.childManifestArtifact = request.childManifestArtifact &&
    link.childContextDigest = request.childContextDigest

def freshReacquisitionLink (recovery : RecoveryRecords) (link : ReacquisitionInquiryLink) :
    Except Failure MemoryEvent := do
  let request ← found (recovery.reacquisitionRequests.find? (fun item => item.id = link.requestId))
    (.invalidCommand "reacquisition link requires an owned request")
  require (∀ item ∈ recovery.reacquisitionInquiryLinks, item.requestId ≠ link.requestId)
    (.identityConflict "reacquisition request is already linked")
  require (link.agreesWith request) (.invalidCommand "reacquisition link differs from its request pins")
  return .reacquisitionInquiryLinked link

/-- An observation repeats the branch, child, package and pins of its request. -/
def RecoveryObservation.agreesWith (observation : RecoveryObservation) (request : ReacquisitionRequest) : Bool :=
  observation.branch = request.branch && observation.childInquiryId = request.childInquiryId &&
    observation.retentionPackageId = request.retentionPackageId && observation.pins = request.pins

def freshRecoveryObservation (state : InquiryState) (observation : RecoveryObservation) :
    Except Failure MemoryEvent := do
  let request ← found (state.reacquisitionRequests.find? (fun item => item.id = observation.reacquisitionRequestId))
    (.invalidCommand "recovery observation requires a linked child inquiry")
  let link ← found (state.reacquisitionInquiryLinks.find? (fun item =>
      item.requestId = observation.reacquisitionRequestId))
    (.invalidCommand "recovery observation requires a linked child inquiry")
  require (∀ item ∈ state.recoveryObservations, item.reacquisitionRequestId ≠ observation.reacquisitionRequestId)
    (.identityConflict "reacquisition request already has an observation")
  require (observation.agreesWith request) (.invalidCommand "recovery observation differs from request pins")
  require (link.childPrefixSequence ≤ observation.childPrefixSequence)
    (.invalidCommand "recovery observation predates its child linkage")
  require (observation.competenceEstablished ∨ observation.competenceCheck = none)
    (.invalidCommand "unsuccessful recovery cannot carry a competence check")
  requireRelationCheck state.context state.toWarrantRecords observation.measurementCheck
    observation.measurementPropositionId observation.pins.scopeFingerprint
  observation.competenceCheck.toList.forM fun check =>
    requireRelationCheck state.context state.toWarrantRecords check observation.pins.targetCompetenceId
      observation.pins.scopeFingerprint
  return .recoveryObservationRecorded observation

/-- Incompatible observations become rejected commands. -/
def rejectIncompatible {α : Type} : Except Failure α → Except Failure α
  | .error (.recoveryCompatibility reason) => .error (.invalidCommand reason)
  | outcome => outcome

/-- The frontier derived again from the observations that a recorded one names. -/
def rederiveFrontier (recovery : RecoveryRecords) (frontier : RecoveryFrontier) : Except Failure RecoveryFrontier :=
  deriveRecoveryFrontier frontier.branch frontier.pins
    (frontier.sourceObservationIds.filterMap (indexBy RecoveryObservation.id recovery.recoveryObservations))

/-- The comparison derived again from the observations that a recorded one names. -/
def rederiveComparison (recovery : RecoveryRecords) (comparison : RecoveryComparison) :
    Except Failure RecoveryComparison := do
  let baseline ← rederiveFrontier recovery comparison.baselineFrontier
  let retained ← rederiveFrontier recovery comparison.retainedFrontier
  compareRecoveryFrontiers comparison.id baseline retained comparison.comparisonCheck

def freshRecoveryComparison (state : InquiryState) (comparison : RecoveryComparison) :
    Except Failure MemoryEvent := do
  require (comparison.baselineFrontier.sourceObservationIds ++ comparison.retainedFrontier.sourceObservationIds ⊆
      state.recoveryObservations.map RecoveryObservation.id)
    (.invalidCommand "recovery comparison references an unknown observation")
  let expected ← rejectIncompatible (rederiveComparison state.toRecoveryRecords comparison)
  require (expected = comparison) (.invalidCommand "recovery comparison is not the exact derived result")
  requireRelationCheck state.context state.toWarrantRecords comparison.comparisonCheck
    comparison.comparisonPropositionId comparison.baselineFrontier.pins.scopeFingerprint
  return .recoveryComparisonRecorded comparison

def decideMemory (state : InquiryState) : MemoryCommand → Except Failure (Option MemoryEvent)
  | .registerRetentionPackage registration => decideRegisterRetentionPackage state registration
  | .runRetrieval resultId query => decideRunRetrieval state resultId query
  | .requestReacquisition request =>
    recordOnce (state.reacquisitionRequests.find? (fun item => item.id = request.id)) request
      "reacquisition request identity was reused" (freshReacquisition state request)
  | .linkReacquisitionInquiry link =>
    recordOnce (state.reacquisitionInquiryLinks.find? (fun item => item.id = link.id)) link
      "reacquisition link identity was reused" (freshReacquisitionLink state.toRecoveryRecords link)
  | .recordRecoveryObservation observation =>
    recordOnce (state.recoveryObservations.find? (fun item => item.id = observation.id)) observation
      "recovery observation identity was reused" (freshRecoveryObservation state observation)
  | .recordRecoveryComparison comparison =>
    recordOnce (state.recoveryComparisons.find? (fun item => item.id = comparison.id)) comparison
      "recovery comparison identity was reused" (freshRecoveryComparison state comparison)

end

end RatchetingInquiry
