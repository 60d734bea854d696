import RatchetingInquiry.Core.Validate.Learning

/-! The aggregate check of retention packages, retrieval and measured reacquisition. -/

namespace RatchetingInquiry

section
variable [Fingerprints]

def validateOwnedRef (records : List OwnedRecord) (reference : OwnedMemoryRef) : Except Failure Unit :=
  let (resolved, reason) := resolveOwnedMemoryRef reference records
  require resolved (.validation ("retention package has an invalid owned reference: " ++ reason))

/-- The registered records of one kind are exactly those that the packages name, each named once. -/
def validateRegistered (label : String) (registered referenced : List String) : Except Failure Unit := do
  require referenced.Nodup (.validation ("registered " ++ label ++ " cannot be owned by multiple packages"))
  require (SameElements registered referenced)
    (.validation ("registered " ++ label ++ " must be owned by a retention package"))

/-- The pins of the registered records that a package names. -/
def RetentionRecords.recordPins (retention : RetentionRecords) (package : RetentionPackage) : List RetentionPins :=
  (retention.directUseRoutes.filter (fun item => item.id ∈ package.directUseRouteIds)).map (·.pins) ++
    (retention.reconstructionRoutes.filter (fun item => item.id ∈ package.reconstructionRouteIds)).map (·.pins) ++
    (retention.consequenceEvaluationRoutes.filter (fun item =>
      item.id ∈ package.consequenceEvaluationRouteIds)).map (·.pins) ++
    (retention.reacquisitionRoutes.filter (fun item => item.id ∈ package.reacquisitionRouteIds)).map (·.pins) ++
    (retention.reacquisitionScaffolds.filter (fun item => item.id ∈ package.scaffoldIds)).map (·.pins) ++
    (retention.recoveryProtocols.filter (fun item => item.id ∈ package.recoveryProtocolIds)).map (·.retentionPins)

def validateRetention (records : List OwnedRecord) (retention : RetentionRecords) : Except Failure Unit := do
  retention.retentionPackages.forM (fun package => package.ownedRefs.forM (validateOwnedRef records))
  validateRegistered "direct-use routes" (retention.directUseRoutes.map (·.id))
    (retention.retentionPackages.flatMap (·.directUseRouteIds))
  validateRegistered "reconstruction routes" (retention.reconstructionRoutes.map (·.id))
    (retention.retentionPackages.flatMap (·.reconstructionRouteIds))
  validateRegistered "consequence-evaluation routes" (retention.consequenceEvaluationRoutes.map (·.id))
    (retention.retentionPackages.flatMap (·.consequenceEvaluationRouteIds))
  validateRegistered "reacquisition routes" (retention.reacquisitionRoutes.map (·.id))
    (retention.retentionPackages.flatMap (·.reacquisitionRouteIds))
  validateRegistered "reacquisition scaffolds" (retention.reacquisitionScaffolds.map (·.id))
    (retention.retentionPackages.flatMap (·.scaffoldIds))
  validateRegistered "recovery protocols" (retention.recoveryProtocols.map (·.id))
    (retention.retentionPackages.flatMap (·.recoveryProtocolIds))
  require (∀ package ∈ retention.retentionPackages, ∀ pins ∈ retention.recordPins package, pins = package.pins)
    (.validation "retention package records must preserve exact package pins")

/-- The policies that the recorded queries used, by identity and version. -/
def RetrievalRecords.usedPolicyKeys (retrieval : RetrievalRecords) : List (String × String) :=
  retrieval.retrievalQueries.map (fun query => (query.policyId, query.policyVersion))

/-- The policies of which a snapshot is stored, by identity and version. -/
def RetrievalRecords.storedPolicyKeys (retrieval : RetrievalRecords) : List (String × String) :=
  retrieval.retrievalPolicies.map (fun policy => (policy.id, policy.version))

/-- A result repeats the source pins of its query, whose policy is stored, and hits owned packages. -/
def validateRetrievalResult (sequence : Nat) (retention : RetentionRecords) (retrieval : RetrievalRecords)
    (result : RetrievalResult) : Except Failure Unit := do
  let query ← found (indexBy RetrievalQuery.id retrieval.retrievalQueries result.queryId) (.keyError result.queryId)
  require (result.policyId = query.policyId ∧ result.policyVersion = query.policyVersion ∧
      result.sourceSequence = query.sourceSequence ∧ result.sourceIndexFingerprint = query.sourceIndexFingerprint)
    (.validation "retrieval result must preserve its exact query source pins")
  require ((query.policyId, query.policyVersion) ∈ retrieval.storedPolicyKeys)
    (.validation "retrieval query must preserve its resolved policy snapshot")
  require (query.sourceSequence < sequence)
    (.validation "retrieval query source must precede its completion event")
  require (∀ hit ∈ result.hits, (indexBy RetentionPackage.id retention.retentionPackages hit.packageId).any
      (fun package => package.fingerprint = hit.packageContentFingerprint))
    (.validation "retrieval hit must pin an owned retention package version")

def validateRetrieval (sequence : Nat) (retention : RetentionRecords) (retrieval : RetrievalRecords) :
    Except Failure Unit := do
  require (SameElements (retrieval.retrievalResults.map RetrievalResult.queryId)
      (retrieval.retrievalQueries.map RetrievalQuery.id))
    (.validation "each retrieval query must have exactly one persisted result")
  require (retrieval.retrievalResults.length = retrieval.retrievalQueries.length)
    (.validation "retrieval query/result cardinality must remain one-to-one")
  retrieval.retrievalResults.forM (validateRetrievalResult sequence retention retrieval)
  require (retrieval.usedPolicyKeys ⊆ retrieval.storedPolicyKeys ∧ retrieval.storedPolicyKeys ⊆ retrieval.usedPolicyKeys)
    (.validation "folded retrieval policies must be exact snapshots used by queries")

/-- The package owns the scaffold, the protocol and a route that joins them. -/
def validateRetainedRequest (retention : RetentionRecords) (request : ReacquisitionRequest)
    (protocol : RecoveryProtocol) (packageId : String) : Except Failure Unit :=
  require ((indexBy RetentionPackage.id retention.retentionPackages packageId).any (fun package =>
      (indexBy ReacquisitionScaffold.id retention.reacquisitionScaffolds (request.scaffoldId.getD "")).any
        (fun scaffold => scaffold.id ∈ package.scaffoldIds && protocol.id ∈ package.recoveryProtocolIds &&
          retention.reacquisitionRoutes.any (fun route => route.id ∈ package.reacquisitionRouteIds &&
            route.recoveryProtocolId = protocol.id && route.reacquisitionScaffoldId = scaffold.id))))
    (.validation "retained reacquisition must use one package-owned scaffold/protocol")

def validateReacquisitionRequest (header : InquiryHeader) (context : InquiryContext) (retention : RetentionRecords)
    (request : ReacquisitionRequest) : Except Failure Unit := do
  require (some request.parentInquiryId = header.inquiryId)
    (.validation "reacquisition request parent must be this inquiry")
  require (request.pins.inContext context)
    (.validation "reacquisition request pins must match its parent context")
  let protocol ← found ((indexBy RecoveryProtocol.id retention.recoveryProtocols
      request.pins.recoveryProtocolId).filter (fun item => item.version = request.pins.recoveryProtocolVersion))
    (.validation "reacquisition request requires an owned protocol version")
  require (protocol.pins = request.pins)
    (.validation "reacquisition request pins must equal its recovery protocol")
  request.retentionPackageId.toList.forM (validateRetainedRequest retention request protocol)

def validateReacquisitionRequests (header : InquiryHeader) (retention : RetentionRecords)
    (recovery : RecoveryRecords) : Except Failure Unit := do
  require (recovery.reacquisitionRequests.map ReacquisitionRequest.childInquiryId).Nodup
    (.validation "each reacquisition request must own a distinct child inquiry")
  header.context.toList.forM fun context =>
    recovery.reacquisitionRequests.forM (validateReacquisitionRequest header context retention)

def RecoveryRecords.requestWithId (recovery : RecoveryRecords) (requestId : String) : Option ReacquisitionRequest :=
  indexBy ReacquisitionRequest.id recovery.reacquisitionRequests requestId

def validateReacquisitionLink (recovery : RecoveryRecords) (earlier : List ReacquisitionInquiryLink)
    (link : ReacquisitionInquiryLink) : Except Failure Unit := do
  let request ← found (recovery.requestWithId link.requestId)
    (.validation "reacquisition link must reference an owned request")
  require (link.requestId ∉ earlier.map ReacquisitionInquiryLink.requestId)
    (.validation "a reacquisition request can link only one child inquiry")
  require (link.agreesWith request) (.validation "reacquisition link must preserve its exact request pins")

/-- `require_independent_check`. -/
def validateRelationCheck (context : Option InquiryContext) (warrants : WarrantRecords) (reference : CheckReference)
    (propositionId scopeFingerprint : String) : Except Failure Unit := do
  let context ← found context (.validation "independent checks require an inquiry context")
  let (checked, reason) := (warrants.checkRecords context).resolve reference propositionId .relation scopeFingerprint
  require checked (.validation ("G2A record requires an independent valid check: " ++ reason))

def validateRecoveryObservation (context : Option InquiryContext) (warrants : WarrantRecords)
    (recovery : RecoveryRecords) (earlier : List RecoveryObservation) (observation : RecoveryObservation) :
    Except Failure Unit := do
  let request ← found (recovery.requestWithId observation.reacquisitionRequestId)
    (.validation "recovery observation requires a linked reacquisition child")
  let link ← found (indexBy ReacquisitionInquiryLink.requestId recovery.reacquisitionInquiryLinks
      observation.reacquisitionRequestId)
    (.validation "recovery observation requires a linked reacquisition child")
  require (observation.reacquisitionRequestId ∉ earlier.map RecoveryObservation.reacquisitionRequestId)
    (.validation "a reacquisition request can yield only one observation")
  require (observation.agreesWith request) (.validation "recovery observation must preserve exact request pins")
  require (link.childPrefixSequence ≤ observation.childPrefixSequence)
    (.validation "recovery observation cannot precede the linked child prefix")
  validateRelationCheck context warrants observation.measurementCheck observation.measurementPropositionId
    observation.pins.scopeFingerprint
  require (observation.competenceEstablished ∨ observation.competenceCheck = none)
    (.validation "unsuccessful recovery cannot carry a competence check")
  observation.competenceCheck.toList.forM fun check =>
    validateRelationCheck context warrants check observation.pins.targetCompetenceId
      observation.pins.scopeFingerprint

def validateIncompatible {α : Type} : Except Failure α → Except Failure α
  | .error (.recoveryCompatibility _) => .error (.validation "recovery comparison has incompatible exact pins")
  | outcome => outcome

def validateRecoveryComparison (context : Option InquiryContext) (warrants : WarrantRecords)
    (recovery : RecoveryRecords) (comparison : RecoveryComparison) : Except Failure Unit := do
  let owned := recovery.recoveryObservations.map RecoveryObservation.id
  require (comparison.baselineFrontier.sourceObservationIds ⊆ owned ∧
      comparison.retainedFrontier.sourceObservationIds ⊆ owned)
    (.validation "recovery comparison frontiers require owned observations")
  let expected ← validateIncompatible (rederiveComparison recovery comparison)
  require (expected = comparison)
    (.validation "recovery comparison must equal its pure derived frontier check")
  validateRelationCheck context warrants comparison.comparisonCheck comparison.comparisonPropositionId
    comparison.baselineFrontier.pins.scopeFingerprint

def validateRecovery (header : InquiryHeader) (warrants : WarrantRecords) (retention : RetentionRecords)
    (recovery : RecoveryRecords) : Except Failure Unit := do
  validateReacquisitionRequests header retention recovery
  eachAfter (validateReacquisitionLink recovery) [] recovery.reacquisitionInquiryLinks
  eachAfter (validateRecoveryObservation header.context warrants recovery) [] recovery.recoveryObservations
  recovery.recoveryComparisons.forM (validateRecoveryComparison header.context warrants recovery)

end

end RatchetingInquiry
