import RatchetingInquiry.Claims.Logic
import RatchetingInquiry.Core.Decide.Effects

/-! Decisions over claims, conflicts, obligations and their histories. -/

namespace RatchetingInquiry

section
variable [Fingerprints]

/-- The scope is the one that the inquiry context pins, field by field. -/
def scopeMatchesContext (context : Option InquiryContext) (scope : Scope) : Bool :=
  context.any (fun context =>
    scope.id = context.scopeId && scope.fingerprint = context.scopeFingerprint &&
      scope.bindingRevision = context.bindingRevision && scope.assumptionIds = context.assumptionIds &&
      scope.applicabilityGuardId = context.guardConditionId &&
      scope.finiteUniverseHash = context.finiteUniverseHash && scope.closedWorld = context.closedWorld)

def InquiryState.activeLemmaIds (state : InquiryState) : List String := state.activeTheory.map (·.lemmaVersionId)

/-- Only an active hard lemma for the identical proposition and scope closes the attack. -/
def claimAttackIsExactlyDischarged (state : InquiryState) (claim : Claim) : Bool :=
  match claim.propositionId with
  | none => false
  | some propositionId =>
    state.lemmaVersions.any (fun version => version.id ∈ state.activeLemmaIds &&
      version.relationId = propositionId && version.scope.fingerprint = claim.scope.fingerprint)

/-- The conflicts of a new claim with recorded ones that are not recorded yet. -/
def derivedConflicts (records : ClaimRecords) (claim : Claim) : List Conflict :=
  (freshBy Conflict.id (records.conflicts.map Conflict.id)
    (records.claims.filterMap (fun existing => structuralConflict existing claim))).insertionSort
      (fun left right => left.id ≤ right.id)

/-- The attack that a new claim needs, unless an active lemma discharges it. -/
def pendingAttack (state : InquiryState) (claim : Claim) : Option Obligation :=
  if claimAttackIsExactlyDischarged state claim then none else mandatoryAttackObligation claim

/-- The obligations of a new claim whose fingerprint no recorded obligation has. -/
def derivedObligations (state : InquiryState) (claim : Claim) : List Obligation :=
  (freshBy Obligation.fingerprint (state.obligations.map Obligation.fingerprint)
    ((pendingAttack state claim).toList ++
      (derivedConflicts state.toClaimRecords claim).map conflictObligation)).insertionSort
        (fun left right => left.id ≤ right.id)

def freshClaim (state : InquiryState) (claim : Claim) : Except Failure ClaimEvent := do
  require (claim.status = .provisional)
    (.invalidCommand "new question-derived claims must begin provisional")
  require (scopeMatchesContext state.context claim.scope)
    (.invalidCommand "claim scope does not match the inquiry context")
  return .claimAdmitted claim (derivedConflicts state.toClaimRecords claim) (derivedObligations state claim)

/-- A new obligation with an owned fingerprint is a repetition, not a conflict. -/
def decideOpenObligation (context : Option InquiryContext) (records : ClaimRecords) (obligation : Obligation) :
    Except Failure (Option ClaimEvent) :=
  match records.obligationById obligation.id with
  | some prior =>
    if RecordEq.same prior obligation then .ok none
    else .error (.identityConflict "obligation id was reused for different content")
  | none => do
    if obligation.fingerprint ∈ records.obligations.map Obligation.fingerprint then return none
    require (obligation.status = .opened) (.invalidCommand "new obligations must begin open")
    require (scopeMatchesContext context obligation.scope)
      (.invalidCommand "obligation scope does not match the inquiry context")
    require (obligation.parentObligationIds ⊆ records.obligations.map Obligation.id)
      (.invalidCommand "obligation parent references must already exist")
    return some (.obligationOpened obligation)

/-- The hard warrant decisions about the carrier of an obligation, within its scope. -/
def hardDecisionIds (warrants : WarrantRecords) (obligation : Obligation) : List String :=
  (warrants.warrantDecisions.filter (fun item => item.warrantClass = .hard &&
    item.propositionId = obligation.carrierId && item.scopeFingerprint = obligation.scope.fingerprint)).map (·.id)

/-- The plan is ready and selects exactly this obligation. -/
def StepPlan.selects (plan : StepPlan) (obligation : Obligation) : Bool :=
  plan.status = .ready && plan.selectedObligationId = some obligation.id &&
    plan.selectedAttemptKey.any (fun key => key.obligationFingerprint = obligation.fingerprint &&
      key.bindingRevision = obligation.bindingRevision)

/-- The accepted decodes of the requests that were planned for an obligation. -/
def acceptedDecodeIds (effects : EffectRecords) (obligation : Obligation) : List String :=
  effects.effectRequests.filterMap (fun request =>
    if (effects.stepPlanById request.request.stepPlanId).any (fun plan => plan.selects obligation) then
      request.acceptedDecodedOutcomeId
    else none)

/-- The lawful changes of an obligation's status. -/
def ObligationStatus.lawfulNext : ObligationStatus → List ObligationStatus
  | .opened => [.blocked, .satisfied, .impossible, .unknown]
  | .blocked => [.opened, .satisfied, .unknown]
  | .unknown => [.opened]
  | .satisfied => [.opened]
  | .impossible => [.opened]

def decideObligationDisposition (effects : EffectRecords) (records : ClaimRecords) (warrants : WarrantRecords)
    (disposition : ObligationDisposition) : Except Failure (Option ClaimEvent) := do
  let obligation ← found (records.obligationById disposition.obligationId)
    (.invalidCommand "obligation disposition references an unknown obligation")
  recordOnce (records.obligationDispositions.find? (fun item => item.id = disposition.id)) disposition
    "obligation disposition id was reused" do
      let tail := (records.obligationDispositions.filter (fun item => item.obligationId = obligation.id)).getLast?
      require (disposition.predecessorId = tail.map (·.id))
        (.invalidCommand "obligation disposition must extend the current history tail")
      let current := (tail.map (·.status)).getD obligation.status
      require (disposition.status ≠ current) (.invalidCommand "obligation disposition must change standing")
      require (disposition.status ≠ .impossible)
        (.invalidCommand "generic dispositions cannot establish impossibility; use a typed checked discharge")
      require (disposition.status = .satisfied → disposition.evidenceRefs ≠ [] ∧
          disposition.evidenceRefs ⊆ hardDecisionIds warrants obligation ++ acceptedDecodeIds effects obligation)
        (.invalidCommand "satisfied obligations require owned evidence tied to the exact obligation and scope")
      require (disposition.status ∈ current.lawfulNext) (.invalidCommand "illegal obligation status transition")
      return .obligationDispositionRecorded disposition

/-- Every record that a correction may name. -/
def knownEntityIds (state : InquiryState) : List String :=
  state.claims.map (·.id) ++ state.conflicts.map (·.id) ++ state.obligations.map (·.id) ++
    state.candidates.map (·.id) ++ state.residuals.map (·.id) ++ state.lemmaVersions.map (·.id) ++
    state.reconstructions.map (·.id)

def freshCandidate (context : Option InquiryContext) (candidate : Candidate) : Except Failure ClaimEvent := do
  require (scopeMatchesContext context candidate.scope)
    (.invalidCommand "candidate scope does not match the inquiry context")
  return .candidateRecorded candidate

def freshResidual (context : Option InquiryContext) (records : ClaimRecords) (residual : Residual) :
    Except Failure ClaimEvent := do
  require (scopeMatchesContext context residual.scope)
    (.invalidCommand "residual scope does not match the inquiry context")
  require (residual.sourceObligationIds ⊆ records.obligations.map Obligation.id)
    (.invalidCommand "residual references an unknown obligation")
  return .residualRecorded residual

def freshCorrection (state : InquiryState) (correction : Correction) : Except Failure ClaimEvent := do
  require (scopeMatchesContext state.context correction.scope)
    (.invalidCommand "correction scope does not match the inquiry context")
  require (correction.targetId ∈ knownEntityIds state) (.invalidCommand "correction target is not recorded")
  require (correction.relatedIds ⊆ knownEntityIds state)
    (.invalidCommand "correction relation references an unknown record")
  return .correctionAppended correction

def freshGuardChange (context : Option InquiryContext) (records : ClaimRecords) (change : GuardChange) :
    Except Failure ClaimEvent := do
  require (context.any (fun context => change.scopeFingerprint = context.scopeFingerprint))
    (.invalidCommand "guard change scope does not match the inquiry context")
  let latest := records.latestGuardChange change.conditionId
  require (change.predecessorId = latest.map (·.id))
    (.invalidCommand "guard change must extend the current history tail")
  require (latest.all (fun prior => prior.standing ≠ change.standing))
    (.invalidCommand "guard change must change standing")
  return .guardStandingChanged change

def decideClaim (state : InquiryState) : ClaimCommand → Except Failure (Option ClaimEvent)
  | .admitClaim claim =>
    recordOnce (state.claimById claim.id) claim "claim id was reused for different content" (freshClaim state claim)
  | .openObligation obligation => decideOpenObligation state.context state.toClaimRecords obligation
  | .recordObligationDisposition disposition =>
    decideObligationDisposition state.toEffectRecords state.toClaimRecords state.toWarrantRecords disposition
  | .recordCandidate candidate =>
    recordOnce (state.candidates.find? (fun item => item.id = candidate.id)) candidate "candidate id was reused"
      (freshCandidate state.context candidate)
  | .recordResidual residual =>
    recordOnce (state.residuals.find? (fun item => item.id = residual.id)) residual "residual id was reused"
      (freshResidual state.context state.toClaimRecords residual)
  | .appendCorrection correction =>
    recordOnce (state.corrections.find? (fun item => item.id = correction.id)) correction
      "correction id was reused" (freshCorrection state correction)
  | .changeGuardStanding change =>
    recordOnce (state.guardChanges.find? (fun item => item.id = change.id)) change "guard-change id was reused"
      (freshGuardChange state.context state.toClaimRecords change)

end

end RatchetingInquiry
