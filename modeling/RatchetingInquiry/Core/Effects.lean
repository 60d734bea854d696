import RatchetingInquiry.Core.Planning

/-! Immutable effect request, attempt, return and decoded-result records. -/

namespace RatchetingInquiry

/-- Exact material evidence for one applied route transform. -/
structure TransformEvidence where
  id : String
  version : String
  inputArtifact : ArtifactRef
  outputArtifact : ArtifactRef
deriving DecidableEq

/-- Resolved, immutable route facts for one attempt. -/
structure RouteSnapshot where
  id : String
  definitionId : String
  definitionVersion : String
  definitionArtifact : ArtifactRef
  backendId : String
  adapterId : String
  adapterVersion : String
  endpointOrChannel : Option String := none
  transport : Option String := none
  executionEnvironmentArtifact : ArtifactRef
  requestOrActionDigest : String
  transformEvidence : List TransformEvidence := []
deriving DecidableEq

/-- A persisted authorization to execute one kind of external work. -/
structure EffectRequest where
  id : String
  stepPlanId : String
  effectKind : String
  adapterId : String
  inputArtifact : ArtifactRef
  timeoutSeconds : Nat := 60
deriving DecidableEq

/-- A concrete attempt plan; retries receive distinct attempt identities. -/
structure EffectAttemptPlan where
  id : String
  requestId : String
  route : RouteSnapshot
deriving DecidableEq

inductive NoAttemptReason where
  | policyDenied | unsupported | budgetExhausted | dependenciesOpen
deriving DecidableEq

inductive NotPresentedReason where
  | policyDenied | unsupported | preflightFailed
deriving DecidableEq

inductive CaptureFailureReason where
  | captureError | outputLimit | storageError
deriving DecidableEq

inductive PresentationUnknownReason where
  | timeout | transportError | internalFailure
deriving DecidableEq

inductive CancellationReason where
  | callerCancelled | policyCancelled | shutdown
deriving DecidableEq

/-- A plan-level disposition recording that execution was never attempted. -/
structure NoAttemptDisposition where
  id : String
  requestId : String
  stepPlanId : String
  reasonKind : NoAttemptReason
  diagnostics : Option ArtifactRef := none
deriving DecidableEq

/-- Immutable actuality captured from a route, before interpretation. -/
structure ExternalReturn where
  id : String
  attemptId : String
  routeId : String
  sourceId : Option String := none
  sourceRevision : Option String := none
  captureBoundary : String
  captureEncoding : String
  capturedAt : Timestamp
  rawPayload : CapturedPayload
deriving DecidableEq

/-- A terminal outcome of one attempt. A captured return names the attempt and route of the outcome
that carries it, so the returned constructor keeps only the return. -/
inductive AttemptOutcome where
  | notPresented (attemptId routeId : String) (reasonKind : NotPresentedReason) (diagnostics : Option ArtifactRef)
  | captureFailed (attemptId routeId : String) (reasonKind : CaptureFailureReason) (diagnostics : ArtifactRef)
  | presentationUnknown (attemptId routeId : String) (reasonKind : PresentationUnknownReason)
      (diagnostics : ArtifactRef)
  | cancelled (attemptId routeId : String) (reasonKind : CancellationReason) (diagnostics : Option ArtifactRef)
  | returned (externalReturn : ExternalReturn)
deriving DecidableEq

def AttemptOutcome.attemptId : AttemptOutcome → String
  | .notPresented attemptId _ _ _ | .captureFailed attemptId _ _ _ | .presentationUnknown attemptId _ _ _
  | .cancelled attemptId _ _ _ => attemptId
  | .returned externalReturn => externalReturn.attemptId

def AttemptOutcome.routeId : AttemptOutcome → String
  | .notPresented _ routeId _ _ | .captureFailed _ routeId _ _ | .presentationUnknown _ routeId _ _
  | .cancelled _ routeId _ _ => routeId
  | .returned externalReturn => externalReturn.routeId

/-- The return that a `ReturnedOutcome` captured. -/
def AttemptOutcome.externalReturn? : AttemptOutcome → Option ExternalReturn
  | .returned externalReturn => some externalReturn
  | _ => none

/-- The role-specific part of a decoded result. -/
inductive ResultRole where
  | witness (propositionId : String) (witnessArtifact : ArtifactRef)
  | counterexample (propositionId : String) (counterexampleArtifact : ArtifactRef)
  | separator (leftClassId rightClassId : String) (separatorArtifact : ArtifactRef)
  | equivalenceCertificate (relationId : String) (certificateArtifact : ArtifactRef)
  | conflict (leftPropositionId rightPropositionId : String)
  | prerequisite (conditionId consequenceId : String) (evidenceArtifact : ArtifactRef)
  | reachabilityWitness (sourceId targetId : String) (pathArtifact : ArtifactRef)
  | unreachabilityCertificate (sourceId targetId : String) (certificateArtifact : ArtifactRef)
  | success (operationId : String)
  | failure (failureKind : String) (diagnostics : Option ArtifactRef)
  | unknown (reasonKind : String)
deriving DecidableEq

structure CanonicalResult where
  id : String
  semanticArtifact : ArtifactRef
  role : ResultRole
deriving DecidableEq

inductive DecodeBody where
  | decoded (result : CanonicalResult)
  | malformed (diagnostics : ArtifactRef)
  | unsupported (reason : String)
  | failed (diagnostics : ArtifactRef)
deriving DecidableEq

structure DecodeOutcome where
  id : String
  externalReturnId : String
  decoderId : String
  decoderVersion : String
  body : DecodeBody
deriving DecidableEq

/-- The result of a successful `Decoded` outcome. -/
def DecodeOutcome.result? (outcome : DecodeOutcome) : Option CanonicalResult :=
  match outcome.body with
  | .decoded result => some result
  | _ => none

structure AttemptState where
  plan : EffectAttemptPlan
  started : Bool := false
  startedEventId : Option String := none
  startedAt : Option Timestamp := none
  outcome : Option AttemptOutcome := none
deriving DecidableEq

/-- `AttemptState.validate_lifecycle`, run whenever an attempt state is built. -/
def AttemptState.validateLifecycle (attempt : AttemptState) : Except Failure AttemptState := do
  require (attempt.started = (attempt.startedEventId.isSome && attempt.startedAt.isSome))
    (.validation "started attempts require complete immutable start metadata")
  require (attempt.outcome.isSome → attempt.started)
    (.validation "an attempt cannot terminate before it starts")
  return attempt

structure EffectRequestState where
  request : EffectRequest
  attempts : List AttemptState := []
  noAttemptDispositions : List NoAttemptDisposition := []
  decodeOutcomes : List DecodeOutcome := []
  acceptedDecodedOutcomeId : Option String := none
deriving DecidableEq

def EffectRequestState.attemptIds (state : EffectRequestState) : List String :=
  state.attempts.map (·.plan.id)

/-- The returns captured by the attempts of this request, in attempt order. -/
def EffectRequestState.capturedReturns (state : EffectRequestState) : List ExternalReturn :=
  state.attempts.filterMap (fun attempt => attempt.outcome.bind AttemptOutcome.externalReturn?)

def EffectRequestState.capturedReturnIds (state : EffectRequestState) : List String :=
  state.capturedReturns.map ExternalReturn.id

def EffectRequestState.decodeById (state : EffectRequestState) (decodeId : String) : Option DecodeOutcome :=
  state.decodeOutcomes.find? (fun outcome => outcome.id = decodeId)

/-- The decode outcome named by the accepted id, when the request accepted one. -/
def EffectRequestState.acceptedDecode (state : EffectRequestState) : Option DecodeOutcome :=
  state.acceptedDecodedOutcomeId.bind state.decodeById

def EffectRequestState.acceptedResult (state : EffectRequestState) : Option CanonicalResult :=
  state.acceptedDecode.bind DecodeOutcome.result?

/-- `EffectRequestState.validate_cardinalities`, run whenever a request state is built. -/
def EffectRequestState.validateCardinalities (state : EffectRequestState) :
    Except Failure EffectRequestState := do
  require state.attemptIds.Nodup (.validation "attempt ids must be unique within an effect request")
  require (state.noAttemptDispositions.map NoAttemptDisposition.id).Nodup
    (.validation "no-attempt disposition ids must be unique")
  require state.capturedReturnIds.Nodup (.validation "external return ids must be unique")
  require (state.decodeOutcomes.map DecodeOutcome.id).Nodup
    (.validation "decode outcome ids must be unique")
  require (∀ outcome ∈ state.decodeOutcomes, outcome.externalReturnId ∈ state.capturedReturnIds)
    (.validation "each decode outcome must interpret this request's captured return")
  require (state.acceptedDecodedOutcomeId.isSome → state.acceptedResult.isSome)
    (.validation "only a successful Decoded outcome can be accepted")
  return state

end RatchetingInquiry
