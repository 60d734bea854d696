import RatchetingInquiry.Core.Model

/-! Immutable backlog records. They grant no workspace capability. -/

namespace RatchetingInquiry

inductive BacklogEffectKind where
  | create | dedupe | rank | block | close
deriving DecidableEq

/-- The effect kinds that may be applied; closing stays proposal-only. -/
def BacklogEffectKind.applicable : BacklogEffectKind → Bool
  | .create | .dedupe | .rank | .block => true
  | .close => false

inductive EvidenceStatus where
  | checkedOpen | checkedBlocked | checkedClosable | stale | unknown | contradicted
deriving DecidableEq

/-- `CHECKED_EVIDENCE_STATUSES`. -/
def EvidenceStatus.checked : EvidenceStatus → Bool
  | .checkedOpen | .checkedBlocked | .checkedClosable => true
  | .stale | .unknown | .contradicted => false

structure BacklogFinding where
  id : String
  title : String
  protectedConsequence : String
  source : String
  evidenceStatus : EvidenceStatus
  evidenceDigest : Option String := none
  workspaceDigest : String
  priority : Int := 0
  recurrenceOf : Option String := none
  identified : id ≠ "" ∧ title ≠ "" ∧ protectedConsequence ≠ "" ∧ source ≠ "" ∧ workspaceDigest ≠ "" := by decide
  evidenced : evidenceStatus.checked → ∃ digest ∈ evidenceDigest, digest ≠ "" := by decide
deriving DecidableEq

structure BacklogEffect where
  id : String
  kind : BacklogEffectKind
  findingId : String
  targetItemId : String
  fingerprint : String
  title : String
  protectedConsequence : String
  source : String
  recurrenceOf : Option String := none
  rank : Option Int := none
  evidenceDigest : String
  workspaceDigest : String
  reason : String
deriving DecidableEq

structure BacklogItem where
  id : String
  fingerprint : String
  title : String
  protectedConsequence : String
  source : String
  rank : Int
  blocked : Bool := false
  closed : Bool := false
  recurrenceOf : Option String := none
deriving DecidableEq

end RatchetingInquiry
