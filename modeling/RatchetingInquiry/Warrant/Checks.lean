import RatchetingInquiry.Warrant.Models

/-! Fail-closed resolution of recorded evidence and check pairs. -/

namespace RatchetingInquiry

def evidenceIndex (records : List Evidence) : String → Option Evidence := indexBy Evidence.id records

def checkerVerdictIndex (records : List CheckerVerdictRecord) : String → Option CheckerVerdictRecord :=
  indexBy CheckerVerdictRecord.id records

/-- Validate exact ownership and policy pins without inferring checker authority. The result says
whether the pair is checked, and why. -/
def validateCheckedEvidence (evidence : Evidence) (verdict : CheckerVerdictRecord) (propositionId : String)
    (propositionKind : PropositionKind) (scopeFingerprint : String) (authorizedCheckerIds : List String) :
    Bool × String :=
  if verdict.evidenceId ≠ evidence.id then (false, "checker verdict references different evidence")
  else if verdict.evidenceArtifact ≠ evidence.artifact then
    (false, "checker verdict does not pin the exact evidence artifact")
  else if evidence.propositionId ≠ propositionId then (false, "evidence proposition does not match exactly")
  else if verdict.propositionId ≠ propositionId then
    (false, "checker verdict proposition does not match exactly")
  else if evidence.propositionKind ≠ propositionKind then
    (false, "evidence proposition kind does not match exactly")
  else if verdict.propositionKind ≠ propositionKind then
    (false, "checker verdict proposition kind does not match exactly")
  else if evidence.scopeFingerprint ≠ scopeFingerprint then (false, "evidence scope does not match exactly")
  else if verdict.scopeFingerprint ≠ scopeFingerprint then
    (false, "checker verdict scope does not match exactly")
  else if verdict.checkerId ∉ authorizedCheckerIds then
    (false, "checker identity is not authorized by the inquiry binding")
  else if verdict.verdict ≠ .valid then (false, "independent checker did not validate the evidence")
  else if verdict.certificateArtifact = none then
    (false, "valid checker verdict lacks an exact certificate artifact")
  else (true, "independently checked exact evidence")

def resolveCheckReference (reference : CheckReference) (evidenceById : String → Option Evidence)
    (checkerVerdictById : String → Option CheckerVerdictRecord) (propositionId : String)
    (propositionKind : PropositionKind) (scopeFingerprint : String) (authorizedCheckerIds : List String) :
    Bool × String :=
  match evidenceById reference.evidenceId, checkerVerdictById reference.checkerVerdictId with
  | none, _ => (false, "check reference does not resolve to owned evidence")
  | some _, none => (false, "check reference does not resolve to an owned checker verdict")
  | some evidence, some verdict =>
    if verdict.evidenceId ≠ reference.evidenceId then
      (false, "check reference evidence and checker verdict do not align")
    else validateCheckedEvidence evidence verdict propositionId propositionKind scopeFingerprint authorizedCheckerIds

/-- What a checked pair of evidence and verdict pins. -/
structure CheckedPair (evidence : Evidence) (verdict : CheckerVerdictRecord) (propositionId : String)
    (propositionKind : PropositionKind) (scopeFingerprint : String) (authorizedCheckerIds : List String) : Prop where
  evidence_named : verdict.evidenceId = evidence.id
  artifact_pinned : verdict.evidenceArtifact = evidence.artifact
  evidence_proposition : evidence.propositionId = propositionId
  verdict_proposition : verdict.propositionId = propositionId
  evidence_kind : evidence.propositionKind = propositionKind
  verdict_kind : verdict.propositionKind = propositionKind
  evidence_scope : evidence.scopeFingerprint = scopeFingerprint
  verdict_scope : verdict.scopeFingerprint = scopeFingerprint
  checker_authorized : verdict.checkerId ∈ authorizedCheckerIds
  verdict_valid : verdict.verdict = .valid
  certified : verdict.certificateArtifact.isSome

/-- A failed pin ends the check; otherwise the rest of it decides. -/
theorem unless_unchecked {p : Prop} [Decidable p] {reason : String} {rest : Bool × String} :
    (if p then (false, reason) else rest).1 = true ↔ ¬ p ∧ rest.1 = true := by
  split
  next failed => simp [failed]
  next passed => simp [passed]

theorem validateCheckedEvidence_true_iff {evidence : Evidence} {verdict : CheckerVerdictRecord}
    {propositionId : String} {propositionKind : PropositionKind} {scopeFingerprint : String}
    {authorizedCheckerIds : List String} :
    (validateCheckedEvidence evidence verdict propositionId propositionKind scopeFingerprint
        authorizedCheckerIds).1 = true ↔
      CheckedPair evidence verdict propositionId propositionKind scopeFingerprint authorizedCheckerIds := by
  unfold validateCheckedEvidence
  simp only [unless_unchecked, ne_eq, not_not, and_true, ← Option.isSome_iff_ne_none]
  constructor
  · rintro ⟨named, artifact, evidenceProposition, verdictProposition, evidenceKind, verdictKind, evidenceScope,
      verdictScope, authorized, valid, certified⟩
    exact ⟨named, artifact, evidenceProposition, verdictProposition, evidenceKind, verdictKind, evidenceScope,
      verdictScope, authorized, valid, certified⟩
  · rintro ⟨named, artifact, evidenceProposition, verdictProposition, evidenceKind, verdictKind, evidenceScope,
      verdictScope, authorized, valid, certified⟩
    exact ⟨named, artifact, evidenceProposition, verdictProposition, evidenceKind, verdictKind, evidenceScope,
      verdictScope, authorized, valid, certified⟩

end RatchetingInquiry
