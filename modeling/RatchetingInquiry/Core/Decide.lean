import RatchetingInquiry.Core.Decide.Project

/-! The pure decider: which facts a command adds to the inquiry, if it is lawful. -/

namespace RatchetingInquiry

/-- `_require_active`. -/
def requireActive (header : InquiryHeader) (inquiryId : String) : Except Failure Unit := do
  require (header.status = .active) (.invalidCommand "the inquiry has not been started")
  require (header.inquiryId = some inquiryId)
    (.invalidCommand "the command inquiry id does not match the aggregate")

/-- Starting an inquiry again is a repetition only with the same identity and pins. -/
def decideStart (header : InquiryHeader) (inquiryId : String) (manifestArtifact : ArtifactRef)
    (policyVersion : String) (context : InquiryContext) : Except Failure (Option EventBody) :=
  if header.status = .notStarted then .ok (some (.inquiryStarted manifestArtifact policyVersion context))
  else if header.inquiryId = some inquiryId ∧ header.manifestArtifact = some manifestArtifact ∧
      header.policyVersion = some policyVersion ∧ header.context = some context then .ok none
  else .error (.identityConflict "the inquiry identity is already bound to different data")

section
variable [Fingerprints]

/-- The decision of an active inquiry over a command of one of its areas. -/
def decideBody (state : InquiryState) (inquiryId : String) : CommandBody → Except Failure (Option EventBody)
  | .startInquiry manifestArtifact policyVersion context =>
    decideStart state.toInquiryHeader inquiryId manifestArtifact policyVersion context
  | .effect command => do
    requireActive state.toInquiryHeader inquiryId
    return (← decideEffect state command).map .effect
  | .claim command => do
    requireActive state.toInquiryHeader inquiryId
    return (← decideClaim state command).map .claim
  | .warrant command => do
    requireActive state.toInquiryHeader inquiryId
    return (← decideWarrant state command).map .warrant
  | .probe command => do
    requireActive state.toInquiryHeader inquiryId
    return (← decideProbe state command).map .probe
  | .memory command => do
    requireActive state.toInquiryHeader inquiryId
    return (← decideMemory state command).map .memory
  | .learning command => do
    requireActive state.toInquiryHeader inquiryId
    return (← decideLearning state command).map .learning
  | .compression command => do
    requireActive state.toInquiryHeader inquiryId
    return (← decideCompression state command).map .compression
  | .project command => do
    requireActive state.toInquiryHeader inquiryId
    return (← decideProject state command).map .project

/-- The events of a command: none for a repetition, else one that carries the command's own facts. -/
def decide (state : InquiryState) (command : DomainCommand) : Except Failure (List DomainEvent) := do
  let body ← decideBody state command.head.inquiryId command.body
  return (body.map (fun body => { head := command.head, body := body : DomainEvent })).toList

end

end RatchetingInquiry
