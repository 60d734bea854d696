import Mathlib.Data.List.MinMax
import Mathlib.Data.Prod.Lex
import RatchetingInquiry.Core.Fingerprints

/-! Deterministic bounded obligation scheduling. -/

namespace RatchetingInquiry

def defaultStepBudget : Int := 100

def defaultAttemptsPerKey : Int := 3

/-- How often each attempt key was tried. -/
structure AttemptCounts where
  entries : List (AttemptKey × Int) := []
  keys_distinct : (entries.map Prod.fst).Nodup := by decide

def AttemptCounts.of (counts : AttemptCounts) (key : AttemptKey) : Int :=
  ((indexBy Prod.fst counts.entries key).map Prod.snd).getD 0

/-- The coordinates of an attempt key, in the order that sorts the counts. -/
def AttemptKey.coordinates (key : AttemptKey) : String ×ₗ String ×ₗ String ×ₗ String :=
  toLex (key.obligationFingerprint, toLex (key.contractId, toLex (key.contractVersion, key.bindingRevision)))

section
variable [Fingerprints]

/-- The attempt key names the exact obligation. -/
structure ObligationEntry extends ScheduledObligation where
  fingerprint_named : attemptKey.obligationFingerprint = obligation.fingerprint := by rfl
  binding_named : attemptKey.bindingRevision = obligation.bindingRevision := by rfl

/-- Creation sequence and identity, the stable order of the entries. -/
def ObligationEntry.stableKey (entry : ObligationEntry) : Nat ×ₗ String :=
  toLex (entry.creationSequence, entry.obligation.id)

def sortedEntries (entries : List ObligationEntry) : List ObligationEntry :=
  entries.insertionSort (fun left right => left.stableKey ≤ right.stableKey)

def safetyKinds : List ObligationKind := [.localizeConflict, .dischargeOpenDependency]

/-- Keep the earliest stable occurrence of each exact obligation fingerprint. -/
def deduplicateObligations (entries : List ObligationEntry) : List ObligationEntry :=
  freshBy (fun entry => entry.obligation.fingerprint) [] (sortedEntries entries)

def ObligationEntry.safetyRank (entry : ObligationEntry) : Nat :=
  if entry.obligation.kind ∈ safetyKinds then 0 else 1

def priorityKey (entry : ObligationEntry) : Nat ×ₗ List Int ×ₗ Nat ×ₗ Nat ×ₗ String :=
  toLex (entry.safetyRank, toLex (entry.obligation.priorityVector.map (- ·),
    toLex (entry.dependencyDepth, toLex (entry.creationSequence, entry.obligation.id))))

/-- Construct a plan whose identity covers its complete replayable content. -/
def buildStepPlan (inputFingerprint policyVersion : String) (status : PlanStatus)
    (selected : Option (String × AttemptKey)) (reason : PlanReason) (remainingBudget : Nat)
    (ready_selects : (status = .ready) = (selected.isSome = true) := by simp) : StepPlan where
  id := StepPlanMaterial.planId {
    inputFingerprint := inputFingerprint
    policyVersion := policyVersion
    status := status
    selectedObligationId := selected.map Prod.fst
    selectedAttemptKey := selected.map Prod.snd
    reason := reason
    remainingBudget := remainingBudget }
  inputFingerprint := inputFingerprint
  policyVersion := policyVersion
  status := status
  selectedObligationId := selected.map Prod.fst
  selectedAttemptKey := selected.map Prod.snd
  reason := reason
  remainingBudget := remainingBudget
  ready_selects := by rw [Option.isSome_map, ready_selects]
  selected_together := by rw [Option.isSome_map, Option.isSome_map]

/-- The fingerprint of a canonical form of all inputs. -/
def schedulerInputFingerprint (entries : List ObligationEntry) (completedObligationIds : List String)
    (attemptCounts : AttemptCounts) (stepsUsed stepBudget readyEventCost maxAttemptsPerKey : Int)
    (policyVersion : String) : String :=
  Fingerprints.digest (.schedulerInput {
    entries := (sortedEntries entries).map ObligationEntry.toScheduledObligation
    completedObligationIds := completedObligationIds.dedup.insertionSort (· ≤ ·)
    attemptCounts := attemptCounts.entries.insertionSort (fun left right => left.1.coordinates ≤ right.1.coordinates)
    stepsUsed := stepsUsed
    stepBudget := stepBudget
    readyEventCost := readyEventCost
    maxAttemptsPerKey := maxAttemptsPerKey
    policyVersion := policyVersion })

/-- All parents are completed, and attempts are left. -/
def ObligationEntry.eligible (entry : ObligationEntry) (completedObligationIds : List String)
    (attemptCounts : AttemptCounts) (maxAttemptsPerKey : Int) : Bool :=
  entry.obligation.parentObligationIds ⊆ completedObligationIds && attemptCounts.of entry.attemptKey < maxAttemptsPerKey

/-- Select one ready obligation of the deduplicated entries or end lawfully unknown, within what remains of the
budget. -/
def selectNext (inputFingerprint policyVersion : String) (remaining : Nat) (deduplicated : List ObligationEntry)
    (completedObligationIds : List String) (attemptCounts : AttemptCounts) (readyEventCost maxAttemptsPerKey : Int) :
    StepPlan :=
  let openEntries := deduplicated.filter (fun entry => entry.obligation.status = .opened)
  if remaining = 0 then
    buildStepPlan inputFingerprint policyVersion .unknown none .stepBudgetExhausted 0
  else if openEntries.isEmpty then
    if deduplicated.any (fun entry => entry.obligation.status ≠ .satisfied) then
      buildStepPlan inputFingerprint policyVersion .unknown none .unresolvedNonopenObligation remaining
    else buildStepPlan inputFingerprint policyVersion .satisfied none .noOpenObligation remaining
  else
    match (openEntries.filter (fun entry => entry.eligible completedObligationIds attemptCounts maxAttemptsPerKey)).argmin
        priorityKey with
    | none => buildStepPlan inputFingerprint policyVersion .unknown none .dependenciesOrAttemptsExhausted remaining
    | some selected =>
      if remaining < readyEventCost then
        buildStepPlan inputFingerprint policyVersion .unknown none .insufficientEventBudget remaining
      else
        buildStepPlan inputFingerprint policyVersion .ready (some (selected.obligation.id, selected.attemptKey))
          .deterministicPriority (remaining - readyEventCost).toNat

def planNext (entries : List ObligationEntry) (completedObligationIds : List String) (attemptCounts : AttemptCounts)
    (stepsUsed stepBudget readyEventCost maxAttemptsPerKey : Int) (policyVersion : String) : Except Failure StepPlan := do
  require (¬ (stepsUsed < 0 ∨ stepBudget < 1 ∨ readyEventCost < 1 ∨ maxAttemptsPerKey < 1))
    (.validation "scheduler budgets must be positive and usage nonnegative")
  require (policyVersion ≠ "") (.validation "scheduler policy version is required")
  require (∀ entry ∈ attemptCounts.entries, ¬ entry.2 < 0) (.validation "attempt counts must be nonnegative integers")
  let inputFingerprint := schedulerInputFingerprint entries completedObligationIds attemptCounts stepsUsed stepBudget
    readyEventCost maxAttemptsPerKey policyVersion
  return selectNext inputFingerprint policyVersion (stepBudget - stepsUsed).toNat (deduplicateObligations entries)
    completedObligationIds attemptCounts readyEventCost maxAttemptsPerKey

end

end RatchetingInquiry
