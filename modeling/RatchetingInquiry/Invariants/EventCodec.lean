import RatchetingInquiry.Serialization.Events

/-! When an event is read back as it was written. An inert payload is an artifact reference or any JSON value, and
its JSON does not say which: what looks like a reference is read as one or never is. -/

namespace RatchetingInquiry

section
variable [Pydantic]

/-- The serializer takes the member of the union that the payload is of: a reference for what was a reference,
and plain JSON for a JSON value that can be read as a reference too. -/
def InertPayload.keepsKind : InertPayload → Bool
  | .artifact reference => Pydantic.prefersRecord (JsonModel.dump reference)
  | .json value => !((JsonModel.validate value : Option ArtifactRef).isSome && Pydantic.prefersRecord value)

def ClaimEvent.inertPayloads : ClaimEvent → List InertPayload
  | .claimAdmitted claim _ _ => [claim.payload]
  | .candidateRecorded candidate => [candidate.payload]
  | .residualRecorded residual => [residual.payload]
  | _ => []

def LearningEvent.inertPayloads : LearningEvent → List InertPayload
  | .semanticFieldEvaluationRecorded _ residual => residual.toList.map Residual.payload
  | _ => []

/-- The inert payloads that an event carries. -/
def DomainEvent.inertPayloads (event : DomainEvent) : List InertPayload :=
  match event.body with
  | .claim event => event.inertPayloads
  | .learning event => event.inertPayloads
  | _ => []

def DomainEvent.keepsKinds (event : DomainEvent) : Bool :=
  event.inertPayloads.all InertPayload.keepsKind

theorem InertPayload.readBack_eq_iff (payload : InertPayload) : payload.readBack = payload ↔ payload.keepsKind = true := by
  cases payload with
  | artifact reference =>
    simp only [readBack, resolve, dump, keepsKind, JsonModel.validate_dump]
    by_cases prefers : Pydantic.prefersRecord (JsonModel.dump reference) = true
    · simp [prefers]
    · simp [prefers]
  | json value =>
    simp only [readBack, resolve, dump, keepsKind]
    cases read : (JsonModel.validate value : Option ArtifactRef) with
    | none => simp
    | some reference =>
      by_cases prefers : Pydantic.prefersRecord value = true
      · simp [prefers]
      · simp [prefers]

theorem Claim.readBack_eq_iff (claim : Claim) : claim.readBack = claim ↔ claim.payload.keepsKind = true := by
  rw [← InertPayload.readBack_eq_iff]
  constructor
  · intro same
    exact congrArg Claim.payload same
  · intro same
    unfold Claim.readBack
    rw [same]

theorem Candidate.readBack_eq_iff (candidate : Candidate) :
    candidate.readBack = candidate ↔ candidate.payload.keepsKind = true := by
  rw [← InertPayload.readBack_eq_iff]
  constructor
  · intro same
    exact congrArg Candidate.payload same
  · intro same
    unfold Candidate.readBack
    rw [same]

theorem Residual.readBack_eq_iff (residual : Residual) :
    residual.readBack = residual ↔ residual.payload.keepsKind = true := by
  rw [← InertPayload.readBack_eq_iff]
  constructor
  · intro same
    exact congrArg Residual.payload same
  · intro same
    unfold Residual.readBack
    rw [same]

theorem ClaimEvent.readBack_eq_iff (event : ClaimEvent) :
    event.readBack = event ↔ event.inertPayloads.all InertPayload.keepsKind = true := by
  cases event <;>
    simp [ClaimEvent.readBack, ClaimEvent.inertPayloads, Claim.readBack_eq_iff, Candidate.readBack_eq_iff,
      Residual.readBack_eq_iff]

theorem LearningEvent.readBack_eq_iff (event : LearningEvent) :
    event.readBack = event ↔ event.inertPayloads.all InertPayload.keepsKind = true := by
  cases event with
  | semanticFieldEvaluationRecorded evaluation residual =>
    cases residual <;> simp [LearningEvent.readBack, LearningEvent.inertPayloads, Residual.readBack_eq_iff]
  | _ => simp [LearningEvent.readBack, LearningEvent.inertPayloads]

theorem DomainEvent.readBack_eq_iff (event : DomainEvent) : event.readBack = event ↔ event.keepsKinds = true := by
  obtain ⟨head, body⟩ := event
  cases body with
  | claim event =>
    simp [DomainEvent.readBack, EventBody.readBack, DomainEvent.keepsKinds, DomainEvent.inertPayloads,
      ClaimEvent.readBack_eq_iff]
  | learning event =>
    simp [DomainEvent.readBack, EventBody.readBack, DomainEvent.keepsKinds, DomainEvent.inertPayloads,
      LearningEvent.readBack_eq_iff]
  | _ => simp [DomainEvent.readBack, EventBody.readBack, DomainEvent.keepsKinds, DomainEvent.inertPayloads]

theorem decoded_iff (event : DomainEvent) : decodeEvent (encodeEvent event) = .ok event ↔ event.keepsKinds = true := by
  rw [decodeEvent_encodeEvent, ← DomainEvent.readBack_eq_iff, Except.ok.injEq]

theorem decoded_list {events : List DomainEvent} (kept : ∀ event ∈ events, event.keepsKinds = true) :
    (events.map encodeEvent).mapM decodeEvent = .ok events := by
  induction events with
  | nil => rfl
  | cons event rest ih =>
    have first := (decoded_iff event).mpr (kept event List.mem_cons_self)
    have others := ih (fun other member => kept other (List.mem_cons_of_mem _ member))
    rw [List.map_cons, List.mapM_cons, first, others]
    rfl

/-- An event is read back as it was written exactly when the serializer keeps the kind of each of its inert
payloads. On such events encoding is injective, and a ledger of them replays to the state that was folded. -/
theorem events_read_back [Fingerprints] :
    (∀ event : DomainEvent, decodeEvent (encodeEvent event) = .ok event ↔ event.keepsKinds = true) ∧
      (∀ left right : DomainEvent, left.keepsKinds = true → right.keepsKinds = true →
        encodeEvent left = encodeEvent right → left = right) ∧
      (∀ (events : List DomainEvent) (state : InquiryState), (∀ event ∈ events, event.keepsKinds = true) →
        ((events.map encodeEvent).mapM decodeEvent >>= replay state) = replay state events) := by
  refine ⟨decoded_iff, ?_, ?_⟩
  · intro left right leftKept rightKept same
    have leftRead := (decoded_iff left).mpr leftKept
    have rightRead := (decoded_iff right).mpr rightKept
    rw [same, rightRead] at leftRead
    exact (Except.ok.inj leftRead).symm
  · intro events state kept
    rw [decoded_list kept]
    rfl

end

namespace Worked

def epoch : String := "1970-01-01T00:00:00Z"

/-- A serializer that reads as a reference whatever can be read as one. It writes an instant as the epoch with one
mark for each microsecond after it. -/
scoped instance eagerSerializer : Pydantic where
  isoformat instant := epoch ++ String.ofList (List.replicate instant '+')
  fromIsoformat text := some (text.length - epoch.length)
  fromIsoformat_isoformat instant := by
    have marks : (epoch ++ String.ofList (List.replicate instant '+')).length = epoch.length + instant := by
      rw [String.length_append, String.length_ofList, List.length_replicate]
    rw [marks, Nat.add_sub_cancel_left]
  prefersRecord _ := true

def emptyBytes : ArtifactRef where
  digest := "e3b0c44298fc1c149afbf4c8996fb92427ae41e4649b934ca495991b7852b855"
  size := 0

/-- The answer as a reference to stored bytes. -/
def referenceAnswer : InertPayload := .artifact emptyBytes

/-- The answer as a JSON object with the fields of such a reference. -/
def lookalikeAnswer : InertPayload :=
  .json (.object [("algorithm", .text "sha256"), ("digest", .text emptyBytes.digest), ("encoding", .null),
    ("media_type", .null), ("size", .int 0)])

def admitted (payload : InertPayload) : DomainEvent where
  head := ⟨"event", "inquiry", 0⟩
  body := .claim (.claimAdmitted
    { id := "answer", role := .observation, boundArgs := [], payload, scope, provenance := ⟨"manual", "person", none⟩ }
    [] [])

theorem referenceAnswer_read_back :
    (admitted referenceAnswer).keepsKinds = true ∧
      decodeEvent (encodeEvent (admitted referenceAnswer)) = .ok (admitted referenceAnswer) := by
  have kept : (admitted referenceAnswer).keepsKinds = true := by decide +kernel
  exact ⟨kept, (events_read_back.1 _).mpr kept⟩

/-- Two different events have the same bytes, so that one of the two is not read back, whatever the serializer
takes a look-alike for. -/
theorem lookalike_not_read_back :
    admitted referenceAnswer ≠ admitted lookalikeAnswer ∧
      (∀ [Pydantic], encodeEvent (admitted referenceAnswer) = encodeEvent (admitted lookalikeAnswer)) ∧
      ∀ [Pydantic], ¬ (decodeEvent (encodeEvent (admitted referenceAnswer)) = .ok (admitted referenceAnswer) ∧
        decodeEvent (encodeEvent (admitted lookalikeAnswer)) = .ok (admitted lookalikeAnswer)) := by
  have different : admitted referenceAnswer ≠ admitted lookalikeAnswer := by decide +kernel
  have same : ∀ [Pydantic], encodeEvent (admitted referenceAnswer) = encodeEvent (admitted lookalikeAnswer) := by
    intro _
    rfl
  refine ⟨different, same, ?_⟩
  intro _ both
  have read := both.1
  rw [same, both.2] at read
  exact different (Except.ok.inj read).symm

end Worked

end RatchetingInquiry
