import RatchetingInquiry.Library.Json

/-! Shared immutable value objects of the event-sourced core: artifact references, inert payloads, the
semantic pins of one inquiry, and the failures its transitions raise. The identifier pattern and the
non-emptiness of texts are modelled only where the core itself fills such a field from an unconstrained one:
every statement holds for arbitrary strings elsewhere. -/

namespace RatchetingInquiry

/-- The pattern of an `Identifier`. -/
def isIdentifier (text : String) : Bool :=
  match text.toList with
  | [] => false
  | first :: rest =>
    first.isAlphanum && rest.length < 240 &&
      rest.all (fun character => character.isAlphanum || character ∈ ['.', '_', ':', '/', '-'])

/-- What the validator of an `Identifier` raises. -/
def patternMismatch : String := "String should match pattern '^[A-Za-z0-9][A-Za-z0-9._:/-]*$'"

/-- A reference to exact bytes in a content-addressed store. -/
structure ArtifactRef where
  digest : String
  size : Nat
  mediaType : Option String := none
  encoding : Option String := none
deriving DecidableEq

/-- A captured native null is distinguished from captured byte material. -/
inductive CapturedPayload where
  | bytes (artifact : ArtifactRef)
  | null
deriving DecidableEq

/-- Inert claim content: a reference to stored bytes or a JSON value. -/
inductive InertPayload where
  | artifact (reference : ArtifactRef)
  | json (value : JsonValue)
deriving DecidableEq

instance : RecordEq InertPayload where
  same
    | .json left, .json right => RecordEq.same left right
    | left, right => decide (left = right)
  same_refl payload := by cases payload <;> simp [RecordEq.same_refl]

/-- Microseconds since the epoch, in UTC. -/
abbrev Timestamp := Nat

/-- Event facts that are supplied to reducers and never generated by them. -/
structure EventMetadata where
  eventId : String
  inquiryId : String
  occurredAt : Timestamp
deriving DecidableEq

/-- Replay-complete semantic pins for one inquiry binding and local scope. -/
@[ext]
structure InquiryContext where
  bindingRevision : String
  carrierSchemaIds : List String
  relationSchemaIds : List String
  consequenceProfileId : String
  protectedHorizonId : String
  admissibleOperationIds : List String := []
  dischargeMechanismIds : List String := []
  scopeId : String
  scopeFingerprint : String
  assumptionIds : List String := []
  guardConditionId : Option String := none
  guardAst : Option ArtifactRef := none
  finiteUniverseHash : Option String := none
  closedWorld : Bool := false
  catalogManifestDigest : String
  schedulerPolicyVersion : String
  warrantPolicyVersion : String
  provenanceRefs : List String
  carriers_pinned : carrierSchemaIds ≠ [] ∧ relationSchemaIds ≠ [] := by decide
  provenance_pinned : provenanceRefs ≠ [] := by decide
  assumptions_unique : assumptionIds.Nodup := by decide
  mechanisms_unique : dischargeMechanismIds.Nodup := by decide
  closed_world_hashed : closedWorld = true → finiteUniverseHash.isSome := by decide
  guard_pinned_together : guardConditionId.isSome = guardAst.isSome := by decide

instance : DecidableEq InquiryContext := fun _ _ => decidable_of_iff' _ InquiryContext.ext_iff

/-- What a rejected command, an unlawful event or an invalid aggregate raises. `validation` is a
`ValueError` or a pydantic `ValidationError`; the other constructors are the typed domain errors. -/
inductive Failure where
  | invalidCommand (reason : String)
  | identityConflict (reason : String)
  | effectLifecycle (reason : String)
  | invalidTransition (reason : String)
  | validation (reason : String)
  | runtime (reason : String)
  | keyError (key : String)
  | attributeError (name : String)
  | indexError (reason : String)
  | permission (reason : String)
  | recoveryCompatibility (reason : String)
deriving DecidableEq

/-- The failures that derive from `DomainError`. -/
def Failure.isDomainError : Failure → Bool
  | .invalidCommand _ | .identityConflict _ | .effectLifecycle _ | .invalidTransition _ => true
  | .validation _ | .runtime _ | .keyError _ | .attributeError _ | .indexError _ | .permission _
  | .recoveryCompatibility _ => false

def Failure.message : Failure → String
  | .invalidCommand reason | .identityConflict reason | .effectLifecycle reason
  | .invalidTransition reason | .validation reason | .runtime reason | .keyError reason
  | .attributeError reason | .indexError reason | .permission reason | .recoveryCompatibility reason => reason

end RatchetingInquiry
