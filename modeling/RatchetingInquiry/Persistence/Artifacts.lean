import RatchetingInquiry.Core.Commands
import RatchetingInquiry.Serialization.Inquiry

/-! Stored bytes, the content-addressed artifact store, and the artifacts that events and states refer to. -/

namespace RatchetingInquiry

/-- What the durable stores raise. `integrity` and the two that follow it are integrity errors; `valueError` is a
plain one, and `domain` carries what the transition core raised. -/
inductive StoreFailure where
  | valueError (reason : String)
  | duplicateEvent (reason : String)
  | optimisticConcurrency (reason : String)
  | integrity (reason : String)
  | sagaIntegrity (reason : String)
  | artifactIntegrity (reason : String)
  | unsupportedSchemaVersion (reason : String)
  | domain (failure : Failure)
deriving DecidableEq

/-- The failures that are caught as `IntegrityError`. -/
def StoreFailure.isIntegrity : StoreFailure → Bool
  | .integrity _ | .sagaIntegrity _ | .artifactIntegrity _ => true
  | _ => false

/-- The failures of the core that are caught as `ValueError`. -/
def Failure.isValueError : Failure → Bool
  | .runtime _ | .keyError _ | .attributeError _ | .indexError _ | .permission _ => false
  | _ => true

/-- Stored bytes: a spelling of a JSON value, the canonical one first, or bytes that are no JSON text. -/
inductive StoredBytes where
  | text (spelling : Nat) (value : JsonValue)
  | other (content : String)
deriving DecidableEq

/-- `canonical_json_bytes`. -/
def canonicalBytes (value : JsonValue) : StoredBytes := .text 0 value

/-- `json.loads`, `none` where it raises. -/
def StoredBytes.loads : StoredBytes → Option JsonValue
  | .text _ value => some value
  | .other _ => none

/-- What the stores observe of bytes besides the JSON that they denote. -/
class ByteFacts where
  length : StoredBytes → Nat
  sha256 : StoredBytes → String

/-- The files of an artifact store, by the digest that names their path. -/
structure ArtifactStore where
  files : String → Option StoredBytes

section
variable [ByteFacts]

/-- `ArtifactStore.get_bytes`. -/
def ArtifactStore.getBytes (store : ArtifactStore) (artifact : ArtifactRef) : Except StoreFailure StoredBytes := do
  let data ← found (store.files artifact.digest) (.artifactIntegrity ("artifact is missing: " ++ artifact.digest))
  require (ByteFacts.length data = artifact.size)
    (.artifactIntegrity ("artifact size mismatch for " ++ artifact.digest))
  require (ByteFacts.sha256 data = artifact.digest)
    (.artifactIntegrity ("artifact digest mismatch for " ++ artifact.digest))
  return data

/-- `_validate_artifacts`, which does nothing where no store is configured. -/
def verifyArtifacts (store : Option ArtifactStore) (artifacts : List ArtifactRef) : Except StoreFailure Unit :=
  match store with
  | none => .ok ()
  | some store => artifacts.forM (fun artifact => do
      let _ ← store.getBytes artifact
      return ())

@[simp] theorem verifyArtifacts_bind_eq_ok {α : Type} {store : Option ArtifactStore} {artifacts : List ArtifactRef}
    {next : Unit → Except StoreFailure α} {result : α} : (verifyArtifacts store artifacts >>= next) = .ok result ↔
      verifyArtifacts store artifacts = .ok () ∧ next () = .ok result :=
  unit_bind_eq_ok

/-- Part of what was verified is verified. -/
theorem verifyArtifacts_subset {store : Option ArtifactStore} {part whole : List ArtifactRef} (within : part ⊆ whole)
    (verified : verifyArtifacts store whole = .ok ()) : verifyArtifacts store part = .ok () := by
  cases store with
  | none => rfl
  | some store =>
    simp only [verifyArtifacts, forM_eq_ok] at verified ⊢
    intro artifact member
    exact verified artifact (within member)

theorem ArtifactStore.getBytes_error {store : ArtifactStore} {artifact : ArtifactRef} {failure : StoreFailure}
    (failed : store.getBytes artifact = .error failure) : failure.isIntegrity = true := by
  unfold ArtifactStore.getBytes at failed
  cases file : store.files artifact.digest with
  | none =>
    simp only [file, found, bind, Except.bind] at failed
    rw [← Except.error.inj failed]
    rfl
  | some data =>
    simp only [file, found, bind, Except.bind, require] at failed
    split at failed
    next checked =>
      rw [← Except.error.inj failed]
      split at checked
      next => cases checked
      next =>
        rw [← Except.error.inj checked]
        rfl
    next =>
      split at failed
      next checked =>
        rw [← Except.error.inj failed]
        split at checked
        next => cases checked
        next =>
          rw [← Except.error.inj checked]
          rfl
      next => cases failed

/-- Verification fails as an integrity error or not at all. -/
theorem verifyArtifacts_error {store : Option ArtifactStore} {artifacts : List ArtifactRef} {failure : StoreFailure}
    (failed : verifyArtifacts store artifacts = .error failure) : failure.isIntegrity = true := by
  cases store with
  | none => cases failed
  | some store =>
    simp only [verifyArtifacts] at failed
    induction artifacts with
    | nil => cases failed
    | cons artifact rest ih =>
      simp only [List.forM_eq_forM, List.forM_cons] at failed ih
      cases read : store.getBytes artifact with
      | error raised =>
        simp only [read, bind, Except.bind] at failed
        rw [← Except.error.inj failed]
        exact ArtifactStore.getBytes_error read
      | ok data =>
        simp only [read, bind, Except.bind, pure, Except.pure] at failed ih
        exact ih failed

end

def CapturedPayload.artifactRefs (payload : CapturedPayload) : List ArtifactRef := payload.artifact.toList

def InertPayload.artifactRefs : InertPayload → List ArtifactRef
  | .artifact reference => [reference]
  | .json _ => []

def CheckerVerdictRecord.artifactRefs (verdict : CheckerVerdictRecord) : List ArtifactRef :=
  [verdict.evidenceArtifact, verdict.verdictArtifact] ++ verdict.certificateArtifact.toList

def RouteSnapshot.artifactRefs (route : RouteSnapshot) : List ArtifactRef :=
  [route.definitionArtifact, route.executionEnvironmentArtifact] ++
    route.transformEvidence.flatMap (fun evidence => [evidence.inputArtifact, evidence.outputArtifact])

def AttemptOutcome.artifactRefs : AttemptOutcome → List ArtifactRef
  | .notPresented _ _ _ diagnostics | .cancelled _ _ _ diagnostics => diagnostics.toList
  | .captureFailed _ _ _ diagnostics | .presentationUnknown _ _ _ diagnostics => [diagnostics]
  | .returned externalReturn => externalReturn.rawPayload.artifactRefs

def ResultRole.artifactRefs : ResultRole → List ArtifactRef
  | .witness _ artifact | .counterexample _ artifact | .separator _ _ artifact | .equivalenceCertificate _ artifact
  | .prerequisite _ _ artifact | .reachabilityWitness _ _ artifact | .unreachabilityCertificate _ _ artifact =>
    [artifact]
  | .failure _ diagnostics => diagnostics.toList
  | .conflict .. | .success _ | .unknown _ => []

def DecodeOutcome.artifactRefs (outcome : DecodeOutcome) : List ArtifactRef :=
  match outcome.body with
  | .decoded result => result.semanticArtifact :: result.role.artifactRefs
  | .malformed diagnostics | .failed diagnostics => [diagnostics]
  | .unsupported _ => []

def EffectRequestState.artifactRefs (state : EffectRequestState) : List ArtifactRef :=
  state.request.inputArtifact ::
    (state.attempts.flatMap (fun attempt =>
      attempt.plan.route.artifactRefs ++ attempt.outcome.toList.flatMap AttemptOutcome.artifactRefs) ++
    state.noAttemptDispositions.flatMap (fun disposition => disposition.diagnostics.toList) ++
    state.decodeOutcomes.flatMap DecodeOutcome.artifactRefs)

def RealizedHistoryDerivation.artifactRefs (derivation : RealizedHistoryDerivation) : List ArtifactRef :=
  derivation.historyArtifact.toList ++ derivation.diagnosticsArtifact.toList

def CompressionValidation.artifactRefs (validation : CompressionValidation) : List ArtifactRef :=
  validation.properties.flatMap (fun property => property.witnessArtifact.toList) ++ [validation.validationArtifact]

def CompressionApplication.artifactRefs (application : CompressionApplication) : List ArtifactRef :=
  [application.sourceArtifact, application.retainedStateArtifact]

def ReacquisitionRequest.artifactRefs (request : ReacquisitionRequest) : List ArtifactRef :=
  [request.childManifestArtifact, request.childInquiryManifestArtifact]

/-- `_iter_artifact_refs` of an event. -/
def EventBody.artifactRefs : EventBody → List ArtifactRef
  | .inquiryStarted manifestArtifact _ context => manifestArtifact :: context.guardAst.toList
  | .effect (.effectRequested request) => [request.inputArtifact]
  | .effect (.effectAttemptPlanned plan) => plan.route.artifactRefs
  | .effect (.effectNoAttemptDispositionRecorded disposition) => disposition.diagnostics.toList
  | .effect (.effectAttemptOutcomeRecorded _ outcome) => outcome.artifactRefs
  | .effect (.effectDecodeOutcomeRecorded _ outcome) => outcome.artifactRefs
  | .claim (.claimAdmitted admitted _ _) => admitted.payload.artifactRefs
  | .claim (.candidateRecorded candidate) => candidate.payload.artifactRefs
  | .claim (.residualRecorded residual) => residual.payload.artifactRefs
  | .warrant (.evidenceRecorded evidence) => [evidence.artifact]
  | .warrant (.checkerVerdictRecorded verdict) => verdict.artifactRefs
  | .memory (.reacquisitionRequested request) => request.artifactRefs
  | .memory (.reacquisitionInquiryLinked link) => [link.childManifestArtifact]
  | .learning (.semanticFieldEvaluationRecorded _ residual) =>
    residual.toList.flatMap (fun residual => residual.payload.artifactRefs)
  | .compression (.bindingCarrierManifestRegistered manifest) => [manifest.manifestArtifact]
  | .compression (.realizedHistoryDerivationRecorded derivation) => derivation.artifactRefs
  | .compression (.compressionValidationRecorded validation) => validation.artifactRefs
  | .compression (.compressionApplicationRecorded application residues) =>
    application.artifactRefs ++ residues.map PathResidue.residueArtifact
  | .compression (.representationReopened reopening) => [reopening.counterexampleArtifact]
  | .project (.capabilityLimitationRecorded limitation) => limitation.observedEvidence
  | .project (.methodBindingCandidateRecorded candidate) => candidate.sourceArtifacts
  | .project (.candidateEnvironmentRecorded manifest) => [manifest.toolchainArtifact]
  | .project (.developmentEvidenceRecorded evidence) => [evidence.observedReturn]
  | .project (.independentReviewRecorded review) => [review.findingsArtifact]
  | .project (.recursiveCycleCheckpointRecorded checkpoint) => [checkpoint.reportArtifact]
  | .project (.recursiveStopDispositionRecorded disposition) => [disposition.evidenceArtifact]
  | _ => []

def eventArtifacts (events : List DomainEvent) : List ArtifactRef :=
  events.flatMap (fun event => event.body.artifactRefs)

/-- `_iter_artifact_refs` of a state. -/
def InquiryState.artifactRefs (state : InquiryState) : List ArtifactRef :=
  state.manifestArtifact.toList ++ state.context.toList.flatMap (fun context => context.guardAst.toList) ++
    state.effectRequests.flatMap EffectRequestState.artifactRefs ++
    state.claims.flatMap (fun claim => claim.payload.artifactRefs) ++
    state.candidates.flatMap (fun candidate => candidate.payload.artifactRefs) ++
    state.residuals.flatMap (fun residual => residual.payload.artifactRefs) ++
    state.evidenceRecords.map Evidence.artifact ++
    state.checkerVerdicts.flatMap CheckerVerdictRecord.artifactRefs ++
    state.reacquisitionRequests.flatMap ReacquisitionRequest.artifactRefs ++
    state.reacquisitionInquiryLinks.map ReacquisitionInquiryLink.childManifestArtifact ++
    state.bindingCarrierManifests.map BindingCarrierManifest.manifestArtifact ++
    state.realizedHistoryDerivations.flatMap RealizedHistoryDerivation.artifactRefs ++
    state.compressionValidations.flatMap CompressionValidation.artifactRefs ++
    state.pathResidues.map PathResidue.residueArtifact ++
    state.compressionApplications.flatMap CompressionApplication.artifactRefs ++
    state.representationReopenings.map RepresentationReopening.counterexampleArtifact ++
    state.capabilityLimitations.flatMap CapabilityLimitation.observedEvidence ++
    state.methodBindingCandidates.flatMap MethodBindingCandidate.sourceArtifacts ++
    state.candidateEnvironments.map CandidateEnvironmentManifest.toolchainArtifact ++
    state.developmentEvidence.map DevelopmentEvidence.observedReturn ++
    state.independentReviews.map IndependentReview.findingsArtifact ++
    state.recursiveCycleCheckpoints.map RecursiveCycleCheckpoint.reportArtifact ++
    state.recursiveStopDispositions.map RecursiveStopDisposition.evidenceArtifact

end RatchetingInquiry
