import RatchetingInquiry.Serialization.Memory
import RatchetingInquiry.Serialization.Project

/-! Two comparisons of records that carry JSON: the source's own equality, in which `True`, `1` and `1.0` are
equal, and equality of the canonical encodings, which spell them differently. -/

namespace RatchetingInquiry

theorem same_nil_cons {α : Type} [RecordEq α] (record : α) (rest : List α) :
    RecordEq.same [] (record :: rest) = false := by
  simp [RecordEq.same]

theorem same_cons_nil {α : Type} [RecordEq α] (record : α) (rest : List α) :
    RecordEq.same (record :: rest) [] = false := by
  simp [RecordEq.same]

theorem same_cons {α : Type} [RecordEq α] (first second : α) (left right : List α) :
    RecordEq.same (first :: left) (second :: right) = (RecordEq.same first second && RecordEq.same left right) := by
  simp only [RecordEq.same, List.length_cons, Nat.add_right_cancel_iff, List.zip_cons_cons, List.all_cons]
  cases Decidable.decide (left.length = right.length) <;> simp

theorem same_nil {α : Type} [RecordEq α] : RecordEq.same ([] : List α) [] = true := RecordEq.same_refl _

/-- The fields of an object can be read off the object. -/
theorem Fields.write_eq_iff {α β : Type} (fields : Fields α β) (distinct : fields.names.Nodup)
    {left right : α} : fields.write left = fields.write right ↔ fields.dump left = fields.dump right := by
  refine ⟨fun same => ?_, fun same => by rw [Fields.write, Fields.write, same]⟩
  have sorted : (fields.dump left).insertionSort (fun first second => first.1 ≤ second.1) =
      (fields.dump right).insertionSort (fun first second => first.1 ≤ second.1) := by
    simpa [Fields.write, objectOf] using same
  have listed : ∀ record, fields.dump record = fields.names.map (fun name =>
      (name, (fieldOf ((fields.dump record).insertionSort (fun first second => first.1 ≤ second.1)) name).getD .null)) := by
    intro record
    have named := fields.dump_names record
    rw [← named, List.map_map]
    refine (List.map_id _).symm.trans (List.map_congr_left fun entry member => ?_)
    have read := fieldOf_sorted (by rwa [named]) member
    simp [read]
  rw [listed left, listed right, sorted]

theorem dump_inj {α : Type} [JsonModel α] (left right : α) : JsonModel.dump left = JsonModel.dump right ↔ left = right := by
  constructor
  · intro same
    have back := congrArg (JsonModel.validate (α := α)) same
    simpa only [JsonModel.validate_dump, Option.some.injEq] using back
  · exact congrArg JsonModel.dump

theorem dumpOptional_inj {α : Type} [JsonModel α] (left right : Option α) :
    dumpOptional JsonModel.dump left = dumpOptional JsonModel.dump right ↔ left = right := by
  constructor
  · intro same
    have back := congrArg (validateOptional (JsonModel.validate (α := α))) same
    simpa only [Fields.reads_optional, Option.some.injEq, id] using back
  · exact congrArg (dumpOptional JsonModel.dump)

/-- Records that have a canonical encoding. -/
class Encoded (α : Type) where
  encode : α → JsonValue

instance (priority := low) {α : Type} [JsonModel α] : Encoded α := ⟨JsonModel.dump⟩

/-- A record apart from the JSON in it, and that JSON, place by place. The source compares the places as values, the
encoding as they are written. -/
class CarriesJson (α : Type) [RecordEq α] [Encoded α] where
  bare : α → α
  places : α → List InertPayload
  same_iff : ∀ left right : α, RecordEq.same left right = true ↔
    bare left = bare right ∧ RecordEq.same (places left) (places right) = true
  encode_iff : ∀ left right : α, Encoded.encode left = Encoded.encode right ↔
    bare left = bare right ∧ (places left).map InertPayload.dump = (places right).map InertPayload.dump

section
variable {α : Type} [DecidableEq α] [RecordEq α] [Encoded α] [CarriesJson α]

/-- The records differ in nothing but the spelling of numbers: equal for the source, written differently. -/
def respells (prior record : α) : Bool :=
  Decidable.decide (CarriesJson.bare prior = CarriesJson.bare record) &&
    RecordEq.same (CarriesJson.places prior) (CarriesJson.places record) &&
    Decidable.decide ((CarriesJson.places prior).map InertPayload.dump ≠ (CarriesJson.places record).map InertPayload.dump)

/-- The records are written alike, but where one has an artifact reference the other has its JSON object. -/
def disguises (prior record : α) : Bool :=
  Decidable.decide (CarriesJson.bare prior = CarriesJson.bare record) &&
    Decidable.decide ((CarriesJson.places prior).map InertPayload.dump = (CarriesJson.places record).map InertPayload.dump) &&
    !RecordEq.same (CarriesJson.places prior) (CarriesJson.places record)

/-- Outside these two kinds of pairs the source's equality is equality of the encodings. -/
theorem same_iff_encode_iff (prior record : α) :
    (RecordEq.same prior record = true ↔ Encoded.encode prior = Encoded.encode record) ↔
      respells prior record = false ∧ disguises prior record = false := by
  rw [CarriesJson.same_iff, CarriesJson.encode_iff]
  simp only [respells, disguises]
  by_cases bare : CarriesJson.bare prior = CarriesJson.bare record
  · by_cases written : (CarriesJson.places prior).map InertPayload.dump = (CarriesJson.places record).map InertPayload.dump
    · cases RecordEq.same (CarriesJson.places prior) (CarriesJson.places record) <;> simp [bare, written]
    · cases RecordEq.same (CarriesJson.places prior) (CarriesJson.places record) <;> simp [bare, written]
  · simp [bare]

end

/-- Records without JSON that are written and read back. -/
instance (priority := low) {α : Type} [DecidableEq α] [JsonModel α] : CarriesJson α where
  bare := id
  places _ := []
  same_iff left right := by simp [RecordEq.same]
  encode_iff left right := by
    refine (dump_inj left right).trans ?_
    simp

/-- The JSON of a bound argument is its value. -/
def BoundArgument.bare (argument : BoundArgument) : BoundArgument := { argument with value := .null }

theorem same_arguments (left right : List BoundArgument) :
    RecordEq.same left right = true ↔ left.map BoundArgument.bare = right.map BoundArgument.bare ∧
      RecordEq.same (left.map (fun argument => InertPayload.json argument.value))
        (right.map (fun argument => InertPayload.json argument.value)) = true := by
  induction left generalizing right with
  | nil => cases right <;> simp [same_nil, same_nil_cons]
  | cons first left ih =>
    cases right with
    | nil => simp [same_cons_nil]
    | cons second right =>
      simp only [List.map_cons, same_cons, Bool.and_eq_true, List.cons.injEq, ih]
      simp only [RecordEq.same, BoundArgument.bare, BoundArgument.mk.injEq, Bool.and_eq_true, decide_eq_true_eq]
      tauto

theorem arguments_eq (left right : List BoundArgument) :
    left = right ↔ left.map BoundArgument.bare = right.map BoundArgument.bare ∧
      (left.map (fun argument => InertPayload.json argument.value)).map InertPayload.dump =
        (right.map (fun argument => InertPayload.json argument.value)).map InertPayload.dump := by
  induction left generalizing right with
  | nil => cases right <;> simp
  | cons first left ih =>
    cases right with
    | nil => simp
    | cons second right =>
      simp only [List.map_cons, List.cons.injEq, ih]
      simp only [BoundArgument.bare, InertPayload.dump]
      cases first
      cases second
      simp only [BoundArgument.mk.injEq]
      tauto

theorem bare_names (arguments : List BoundArgument) :
    (arguments.map BoundArgument.bare).map BoundArgument.name = arguments.map BoundArgument.name := by
  simp [BoundArgument.bare]

section
variable [Pydantic]

instance : Encoded Claim := ⟨claimFields.write⟩

instance : CarriesJson Claim where
  bare claim := { claim with
    boundArgs := claim.boundArgs.map BoundArgument.bare, payload := .json .null
    names_unique := by rw [bare_names]; exact claim.names_unique }
  places claim := claim.payload :: claim.boundArgs.map (fun argument => InertPayload.json argument.value)
  same_iff left right := by
    change (RecordEq.same left.boundArgs right.boundArgs && RecordEq.same left.payload right.payload &&
      Decidable.decide (({ left with
        boundArgs := right.boundArgs, payload := right.payload, names_unique := right.names_unique } : Claim) = right)) =
          true ↔ _
    rw [same_cons, Bool.and_eq_true, Bool.and_eq_true, Bool.and_eq_true, same_arguments, decide_eq_true_eq]
    cases left
    cases right
    simp only [Claim.mk.injEq]
    tauto
  encode_iff left right := by
    have written : Encoded.encode left = Encoded.encode right ↔ claimFields.dump left = claimFields.dump right :=
      claimFields.write_eq_iff (of_decide_eq_true rfl)
    rw [written, List.map_cons, List.map_cons, List.cons.injEq]
    simp only [claimFields, Fields.field, Fields.fieldOr, Fields.optional, Fields.payload, Fields.slot, Fields.of,
      List.cons.injEq, Prod.mk.injEq, true_and, and_true, dump_inj, dumpOptional_inj]
    rw [arguments_eq left.boundArgs]
    simp only [Claim.mk.injEq]
    constructor
    · intro same
      simp [same]
    · intro same
      simp [same]

instance : Encoded Candidate := ⟨candidateFields.write⟩

instance : CarriesJson Candidate where
  bare candidate := { candidate with payload := .json .null }
  places candidate := [candidate.payload]
  same_iff left right := by
    change (RecordEq.same left.payload right.payload &&
      Decidable.decide (({ left with payload := right.payload } : Candidate) = right)) = true ↔ _
    rw [same_cons, same_nil, Bool.and_true, Bool.and_eq_true, decide_eq_true_eq]
    cases left
    cases right
    simp only [Candidate.mk.injEq]
    tauto
  encode_iff left right := by
    have written : Encoded.encode left = Encoded.encode right ↔ candidateFields.dump left = candidateFields.dump right :=
      candidateFields.write_eq_iff (of_decide_eq_true rfl)
    rw [written]
    simp only [candidateFields, Fields.field, Fields.fieldOr, Fields.payload, Fields.slot, Fields.of, List.cons.injEq,
      Prod.mk.injEq, true_and, and_true, dump_inj, List.map_cons, List.map_nil, Candidate.mk.injEq]
    tauto

instance : Encoded Residual := ⟨residualFields.write⟩

instance : CarriesJson Residual where
  bare residual := { residual with payload := .json .null }
  places residual := [residual.payload]
  same_iff left right := by
    change (RecordEq.same left.payload right.payload &&
      Decidable.decide (({ left with payload := right.payload } : Residual) = right)) = true ↔ _
    rw [same_cons, same_nil, Bool.and_true, Bool.and_eq_true, decide_eq_true_eq]
    cases left
    cases right
    simp only [Residual.mk.injEq]
    tauto
  encode_iff left right := by
    have written : Encoded.encode left = Encoded.encode right ↔ residualFields.dump left = residualFields.dump right :=
      residualFields.write_eq_iff (of_decide_eq_true rfl)
    rw [written]
    simp only [residualFields, Fields.field, Fields.fieldOr, Fields.payload, Fields.slot, Fields.of, List.cons.injEq,
      Prod.mk.injEq, true_and, and_true, dump_inj, List.map_cons, List.map_nil, Residual.mk.injEq]
    tauto

end

/-- The place of a value that is JSON whatever it holds. -/
theorem same_json (left right : JsonValue) :
    RecordEq.same (InertPayload.json left) (.json right) = RecordEq.same left right := rfl

instance : CarriesJson Obligation where
  bare obligation := { obligation with
    args := obligation.args.map BoundArgument.bare, names_unique := by rw [bare_names]; exact obligation.names_unique }
  places obligation := obligation.args.map (fun argument => InertPayload.json argument.value)
  same_iff left right := by
    change (RecordEq.same left.args right.args &&
      Decidable.decide (({ left with args := right.args, names_unique := right.names_unique } : Obligation) = right)) =
        true ↔ _
    rw [Bool.and_eq_true, same_arguments, decide_eq_true_eq]
    cases left
    cases right
    simp only [Obligation.mk.injEq]
    tauto
  encode_iff left right := by
    refine (dump_inj left right).trans ?_
    have arguments := arguments_eq left.args right.args
    cases left
    cases right
    simp only [Obligation.mk.injEq] at arguments ⊢
    rw [arguments]
    tauto

instance : CarriesJson PredictionSeal where
  bare prediction := { prediction with predictedConsequence := .null, acceptableVariation := .null }
  places prediction := [.json prediction.predictedConsequence, .json prediction.acceptableVariation]
  same_iff left right := by
    change (RecordEq.same left.predictedConsequence right.predictedConsequence &&
      RecordEq.same left.acceptableVariation right.acceptableVariation &&
      Decidable.decide (({ left with
        predictedConsequence := right.predictedConsequence, acceptableVariation := right.acceptableVariation } :
          PredictionSeal) = right)) = true ↔ _
    rw [same_cons, same_cons, same_nil, Bool.and_true, same_json, same_json, Bool.and_eq_true, decide_eq_true_eq]
    cases left
    cases right
    simp only [PredictionSeal.mk.injEq]
    tauto
  encode_iff left right := by
    refine (dump_inj left right).trans ?_
    cases left
    cases right
    simp only [PredictionSeal.mk.injEq, List.map_cons, List.map_nil, List.cons.injEq, InertPayload.dump]
    tauto

instance : CarriesJson ProbeEvent where
  bare event := { event with boundReferents := event.boundReferents.map BoundArgument.bare }
  places event := event.boundReferents.map (fun argument => InertPayload.json argument.value)
  same_iff left right := by
    change (RecordEq.same left.boundReferents right.boundReferents &&
      Decidable.decide (({ left with boundReferents := right.boundReferents } : ProbeEvent) = right)) = true ↔ _
    rw [Bool.and_eq_true, same_arguments, decide_eq_true_eq]
    cases left
    cases right
    simp only [ProbeEvent.mk.injEq]
    tauto
  encode_iff left right := by
    refine (dump_inj left right).trans ?_
    have referents := arguments_eq left.boundReferents right.boundReferents
    cases left
    cases right
    simp only [ProbeEvent.mk.injEq] at referents ⊢
    rw [referents]
    constructor
    · intro same
      simp [same]
    · intro same
      simp [same]

instance : CarriesJson LearnedProbeCandidate where
  bare candidate := { candidate with generatedPayload := .null }
  places candidate := [.json candidate.generatedPayload]
  same_iff left right := by
    change (RecordEq.same left.generatedPayload right.generatedPayload &&
      Decidable.decide (({ left with generatedPayload := right.generatedPayload } : LearnedProbeCandidate) = right)) =
        true ↔ _
    rw [same_cons, same_nil, Bool.and_true, same_json, Bool.and_eq_true, decide_eq_true_eq]
    cases left
    cases right
    simp only [LearnedProbeCandidate.mk.injEq]
    tauto
  encode_iff left right := by
    refine (dump_inj left right).trans ?_
    cases left
    cases right
    simp only [LearnedProbeCandidate.mk.injEq, List.map_cons, List.map_nil, List.cons.injEq, InertPayload.dump]
    tauto

end RatchetingInquiry
