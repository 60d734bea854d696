import RatchetingInquiry.Backlog.Apply
import RatchetingInquiry.Core.Fingerprints
import RatchetingInquiry.Library.Tables

/-! Pure deterministic reconciliation of findings with the items of a backlog. -/

namespace RatchetingInquiry

/-- The white space that `str.strip` removes. -/
def isSpace (c : Char) : Bool :=
  let code := c.toNat
  (9 ≤ code ∧ code ≤ 13) ∨ (28 ≤ code ∧ code ≤ 32) ∨ code = 0x85 ∨ code = 0xa0 ∨ code = 0x1680 ∨
    (0x2000 ≤ code ∧ code ≤ 0x200a) ∨ code = 0x2028 ∨ code = 0x2029 ∨ code = 0x202f ∨ code = 0x205f ∨ code = 0x3000

def strip (text : String) : String :=
  String.ofList ((text.toList.dropWhile isSpace).reverse.dropWhile isSpace).reverse

/-- `text[:count]`. -/
def leadingText (count : Nat) (text : String) : String := String.ofList (text.toList.take count)

/-- `text[-count:]`. -/
def trailingText (count : Nat) (text : String) : String := String.ofList (text.toList.drop (text.length - count))

section
variable [Fingerprints]

def backlogFingerprint (title protectedConsequence source : String) : String :=
  Fingerprints.digest (.backlogFinding (strip title) (strip protectedConsequence) (strip source))

def BacklogFinding.fingerprint (finding : BacklogFinding) : String :=
  backlogFingerprint finding.title finding.protectedConsequence finding.source

def BacklogEffectKind.value : BacklogEffectKind → String
  | .create => "create"
  | .dedupe => "dedupe"
  | .rank => "rank"
  | .block => "block"
  | .close => "close"

/-- The text that is hashed for the identity of an effect. -/
def effectMaterial (kind : BacklogEffectKind) (findingId target evidenceDigest : String) : String :=
  kind.value ++ "\x00" ++ findingId ++ "\x00" ++ target ++ "\x00" ++ evidenceDigest

/-- `_effect_id`. -/
def backlogEffectId (kind : BacklogEffectKind) (finding : BacklogFinding) (target : String) :
    Except Failure String := do
  let evidence ← found finding.evidenceDigest (.validation "applicable backlog effects require checked evidence")
  return "bfx_" ++ shortDigest (Fingerprints.digest (.backlogEffect (effectMaterial kind finding.id target evidence)))

/-- `_effect`. -/
def backlogEffect (kind : BacklogEffectKind) (finding : BacklogFinding) (target reason : String)
    (rank : Option Int := none) : Except Failure BacklogEffect := do
  let evidence ← found finding.evidenceDigest (.validation "applicable backlog effects require checked evidence")
  let id ← backlogEffectId kind finding target
  return {
    id
    kind
    findingId := finding.id
    targetItemId := target
    fingerprint := finding.fingerprint
    title := finding.title
    protectedConsequence := finding.protectedConsequence
    source := finding.source
    recurrenceOf := finding.recurrenceOf
    rank
    evidenceDigest := evidence
    workspaceDigest := finding.workspaceDigest
    reason }

/-- The identity of the item that a recurrence opens. -/
def BacklogFinding.recurrenceItemId (finding : BacklogFinding) : String :=
  "item_" ++ leadingText 16 finding.fingerprint ++ "_" ++ trailingText 7 finding.id

/-- The identity of the item that a finding opens. -/
def BacklogFinding.createdItemId (finding : BacklogFinding) : String :=
  if finding.recurrenceOf.isSome then finding.recurrenceItemId
  else "item_" ++ leadingText 24 finding.fingerprint

/-- What the loop over the findings has: the open items that later findings match, and the effects. -/
structure Reconciliation where
  existing : List BacklogItem
  effects : List BacklogEffect := []

/-- One pass of the loop of `reconcile`. -/
def reconcileFinding (closed : List BacklogItem) (progress : Reconciliation) (finding : BacklogFinding) :
    Except Failure Reconciliation := do
  if finding.evidenceStatus.checked then
    let matched := indexBy BacklogItem.fingerprint progress.existing finding.fingerprint
    let priorClosed := indexBy BacklogItem.fingerprint closed finding.fingerprint
    let effectiveFinding :=
      if matched.isNone ∧ priorClosed.isSome ∧ finding.recurrenceOf.isNone then
        { finding with recurrenceOf := priorClosed.map BacklogItem.id }
      else finding
    let target := match matched with
      | some item => item.id
      | none => effectiveFinding.createdItemId
    let first ← match matched with
      | none =>
        let reason := if priorClosed.isSome then "linked recurrence" else "new exact fingerprint"
        backlogEffect .create effectiveFinding target reason
      | some _ => backlogEffect .dedupe finding target "exact fingerprint match"
    let ranked ← backlogEffect .rank finding target "deterministic checked-evidence priority" finding.priority
    let settled ← match finding.evidenceStatus with
      | .checkedBlocked => (backlogEffect .block finding target "checked prerequisite is open").map some
      | .checkedClosable =>
        (backlogEffect .close finding target "fresh checked closure evidence; proposal-only in G1").map some
      | _ => pure none
    return {
      existing := if matched.isSome then progress.existing else progress.existing ++ [{
        id := target
        fingerprint := finding.fingerprint
        title := finding.title
        protectedConsequence := finding.protectedConsequence
        source := finding.source
        rank := finding.priority
        recurrenceOf := effectiveFinding.recurrenceOf }]
      effects := progress.effects ++ [first, ranked] ++ settled.toList }
  else
    return progress

/-- Findings in the order of descending priority and then of identity. -/
def sortedFindings (findings : List BacklogFinding) : List BacklogFinding :=
  findings.insertionSort (fun left right =>
    right.priority < left.priority ∨ (left.priority = right.priority ∧ left.id ≤ right.id))

def reconcile (items : List BacklogItem) (findings : List BacklogFinding) : Except Failure (List BacklogEffect) := do
  let existing := items.filter (fun item => !item.closed)
  let closed := items.filter BacklogItem.closed
  let progress ← (sortedFindings findings).foldlM (reconcileFinding closed) { existing }
  return progress.effects

end

end RatchetingInquiry
