import RatchetingInquiry.Core.Model

/-! Strict domain records of the inquiry kernel: scopes, claims, conflicts, obligations and their
append-only histories. -/

namespace RatchetingInquiry

inductive ClaimRole where
  | observation | characterization | variation | boundary | factor | necessity | sufficiency
  | prerequisite | conflict | residual | localization | generalization | actualization | invariant
  | pattern | interpretation | unknown
deriving DecidableEq

/-- Lifecycle standing only; it carries no truth or warrant judgment. -/
inductive ClaimStatus where
  | provisional | suspended | superseded
deriving DecidableEq

inductive ClaimAssessment where
  | unassessed | supported | contested | refuted | unknown
deriving DecidableEq

/-- A claim record never declares the promoted level: that level is a linked lemma view. -/
inductive RepresentationLevel where
  | l0Opaque | l1Structured | l2Formal
deriving DecidableEq

inductive Polarity where
  | positive | negative | unspecified
deriving DecidableEq

inductive ConflictKind where
  | structuralPolarity | candidateSemantic
deriving DecidableEq

inductive ObligationKind where
  | characterize | sameClassVariation | minimalBoundaryCrossing | proposeFactor
  | necessityCounterexample | sufficiencyCounterexample | prerequisiteBypass | localizeConflict
  | characterizeResidual | dischargeOpenDependency | clarifyReification | discriminateReconstruction
  | separateConsequenceClasses
deriving DecidableEq

inductive ObligationStatus where
  | opened | blocked | satisfied | impossible | unknown
deriving DecidableEq

inductive CandidateKind where
  | questionAnswer | formalization | reconstruction | generatedProbe
deriving DecidableEq

inductive CorrectionKind where
  | supersedes | splitsFrom | mergesFrom | rebinds | refutes | suspends | promotes | reopens
deriving DecidableEq

inductive GuardStanding where
  | standing | invalidated
deriving DecidableEq

structure BoundArgument where
  name : String
  value : JsonValue
deriving DecidableEq

instance : RecordEq BoundArgument where
  same left right := left.name = right.name && RecordEq.same left.value right.value
  same_refl argument := by simp [RecordEq.same_refl]

/-- The exact semantic universe within which a claim may be assessed. -/
@[ext]
structure Scope where
  id : String
  bindingRevision : String
  assumptionIds : List String := []
  applicabilityGuardId : Option String := none
  finiteUniverseHash : Option String := none
  closedWorld : Bool := false
  assumptions_unique : assumptionIds.Nodup := by decide
  closed_world_hashed : closedWorld = true → finiteUniverseHash.isSome := by decide

instance : DecidableEq Scope := fun _ _ => decidable_of_iff' _ Scope.ext_iff

structure Provenance where
  kind : String
  sourceId : String
  sourceRevision : Option String := none
deriving DecidableEq

@[ext]
structure Claim where
  id : String
  role : ClaimRole
  boundArgs : List BoundArgument
  payload : InertPayload
  scope : Scope
  provenance : Provenance
  status : ClaimStatus := .provisional
  assessment : ClaimAssessment := .unassessed
  representationLevel : RepresentationLevel := .l0Opaque
  parentIds : List String := []
  propositionId : Option String := none
  polarity : Polarity := .unspecified
  names_unique : (boundArgs.map BoundArgument.name).Nodup := by first | exact List.nodup_nil | decide
  parents_unique : parentIds.Nodup := by first | exact List.nodup_nil | decide

instance : DecidableEq Claim := fun _ _ => decidable_of_iff' _ Claim.ext_iff

instance : RecordEq Claim where
  same left right :=
    RecordEq.same left.boundArgs right.boundArgs && RecordEq.same left.payload right.payload &&
      { left with boundArgs := right.boundArgs, payload := right.payload, names_unique := right.names_unique } = right
  same_refl claim := by simp [RecordEq.same_refl]

structure Conflict where
  id : String
  claimIds : String × String
  kind : ConflictKind
  scope : Scope
  propositionId : Option String := none
deriving DecidableEq

@[ext]
structure Obligation where
  id : String
  kind : ObligationKind
  carrierId : String
  args : List BoundArgument
  scope : Scope
  bindingRevision : String
  parentObligationIds : List String := []
  priorityVector : List Int := [0]
  status : ObligationStatus := .opened
  binding_matches_scope : bindingRevision = scope.bindingRevision := by rfl
  names_unique : (args.map BoundArgument.name).Nodup := by first | exact List.nodup_nil | decide
  parents_unique : parentObligationIds.Nodup := by first | exact List.nodup_nil | decide

instance : DecidableEq Obligation := fun _ _ => decidable_of_iff' _ Obligation.ext_iff

instance : RecordEq Obligation where
  same left right :=
    RecordEq.same left.args right.args && { left with args := right.args, names_unique := right.names_unique } = right
  same_refl obligation := by simp [RecordEq.same_refl]

/-- An inert candidate that has not acquired semantic or policy authority. -/
structure Candidate where
  id : String
  kind : CandidateKind
  payload : InertPayload
  scope : Scope
  provenance : Provenance
  sourceIds : List String := []
deriving DecidableEq

instance : RecordEq Candidate where
  same left right := RecordEq.same left.payload right.payload && { left with payload := right.payload } = right
  same_refl candidate := by simp [RecordEq.same_refl]

/-- Unresolved remainder preserved as data rather than silently discarded. -/
structure Residual where
  id : String
  carrierId : String
  payload : InertPayload
  scope : Scope
  provenance : Provenance
  sourceObligationIds : List String := []
deriving DecidableEq

instance : RecordEq Residual where
  same left right := RecordEq.same left.payload right.payload && { left with payload := right.payload } = right
  same_refl residual := by simp [RecordEq.same_refl]

/-- An immutable succession relation; it never rewrites its target. -/
structure Correction where
  id : String
  kind : CorrectionKind
  targetId : String
  relatedIds : List String
  scope : Scope
  provenance : Provenance
deriving DecidableEq

/-- Append-only status evidence for an immutable obligation record. -/
structure ObligationDisposition where
  id : String
  obligationId : String
  status : ObligationStatus
  reason : String
  evidenceRefs : List String := []
  predecessorId : Option String := none
deriving DecidableEq

/-- One immutable standing change in a guard's append-only history. -/
structure GuardChange where
  id : String
  conditionId : String
  scopeFingerprint : String
  standing : GuardStanding
  reason : String
  predecessorId : Option String := none
deriving DecidableEq

end RatchetingInquiry
