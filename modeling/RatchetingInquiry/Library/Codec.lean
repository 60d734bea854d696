import RatchetingInquiry.Library.Json

/-! Records as JSON objects. A field list says under which names the parts of a record are written and how they
are read back by name; a union writes one more name, which says whose fields the object carries. What a field
list reads of an object that it wrote is what it was given, whatever the order of the fields. -/

namespace RatchetingInquiry

/-- How the values of a type are written and read back. Only a missing value is written as `null`. -/
class JsonModel (α : Type) where
  dump : α → JsonValue
  validate : JsonValue → Option α
  validate_dump : ∀ value, validate (dump value) = some value
  dump_ne_null : ∀ value, dump value ≠ .null

theorem JsonValue.text_ne_null (value : String) : JsonValue.text value ≠ .null := by simp

theorem JsonValue.bool_ne_null (value : Bool) : JsonValue.bool value ≠ .null := by simp

theorem JsonValue.int_ne_null (value : Int) : JsonValue.int value ≠ .null := by simp

instance : JsonModel String where
  dump := .text
  validate := JsonValue.asText
  validate_dump _ := rfl
  dump_ne_null := JsonValue.text_ne_null

instance : JsonModel Bool where
  dump := .bool
  validate
    | .bool value => some value
    | _ => none
  validate_dump _ := rfl
  dump_ne_null := JsonValue.bool_ne_null

instance : JsonModel Int where
  dump := .int
  validate
    | .int value => some value
    | _ => none
  validate_dump _ := rfl
  dump_ne_null := JsonValue.int_ne_null

/-- A natural number is an integer that is checked to be nonnegative. -/
instance : JsonModel Nat where
  dump value := .int value
  validate
    | .int value => if 0 ≤ value then some value.toNat else none
    | _ => none
  validate_dump value := by simp
  dump_ne_null _ := by simp

section
variable {α β γ σ τ : Type}

theorem mapM_reads {write : α → σ} {validate : σ → Option γ} {back : α → γ}
    (reads : ∀ value, validate (write value) = some (back value)) (values : List α) :
    (values.map write).mapM validate = some (values.map back) := by
  induction values with
  | nil => rfl
  | cons value rest ih => simp [reads, ih]

theorem mapM_validate_dump [JsonModel α] (values : List α) :
    (values.map JsonModel.dump).mapM (JsonModel.validate (α := α)) = some values := by
  have reads : ∀ value : α, JsonModel.validate (JsonModel.dump value) = some (id value) := JsonModel.validate_dump
  rw [mapM_reads reads, List.map_id]

instance [JsonModel α] : JsonModel (List α) where
  dump values := .list (values.map JsonModel.dump)
  validate
    | .list items => items.mapM JsonModel.validate
    | _ => none
  validate_dump values := mapM_validate_dump values
  dump_ne_null _ := by simp

instance [JsonModel α] [JsonModel β] : JsonModel (α × β) where
  dump pair := .list [JsonModel.dump pair.1, JsonModel.dump pair.2]
  validate
    | .list [first, second] => do return (← JsonModel.validate first, ← JsonModel.validate second)
    | _ => none
  validate_dump pair := by simp [JsonModel.validate_dump]
  dump_ne_null _ := by simp

/-- The members of an enumeration under the texts that stand for them. -/
@[reducible] def JsonModel.enum [DecidableEq α] (texts : List (α × String))
    (listed : ∀ value, ((texts.find? (fun entry => entry.1 = value)).bind
      (fun entry => texts.find? (fun other => other.2 = entry.2))).map Prod.fst = some value := by
        intro value; cases value <;> rfl) : JsonModel α where
  dump value := .text (((texts.find? (fun entry => entry.1 = value)).map Prod.snd).getD "")
  validate
    | .text text => (texts.find? (fun entry => entry.2 = text)).map Prod.fst
    | _ => none
  validate_dump value := by
    have back := listed value
    cases entry : texts.find? (fun entry => entry.1 = value) with
    | none => simp [entry] at back
    | some written => simpa [entry] using back
  dump_ne_null _ := by simp

/-- The value of an object under a name. -/
def fieldOf (entries : List (String × JsonValue)) (name : String) : Option JsonValue :=
  (entries.find? (fun entry => entry.1 = name)).map Prod.snd

/-- The object of the given fields, with its keys in order. -/
def objectOf (entries : List (String × JsonValue)) : JsonValue :=
  .object (entries.insertionSort (fun left right => left.1 ≤ right.1))

theorem fieldOf_sorted {entries : List (String × JsonValue)} (distinct : (entries.map Prod.fst).Nodup)
    {entry : String × JsonValue} (member : entry ∈ entries) :
    fieldOf (entries.insertionSort (fun left right => left.1 ≤ right.1)) entry.1 = some entry.2 := by
  have sorted := List.perm_insertionSort (fun left right => left.1 ≤ right.1) entries
  have distinctSorted := (sorted.map Prod.fst).nodup_iff.mpr distinct
  unfold fieldOf
  rw [find_of_mem distinctSorted (sorted.mem_iff.mpr member)]
  rfl

def dumpOptional (dump : α → JsonValue) : Option α → JsonValue
  | none => .null
  | some value => dump value

def validateOptional (validate : JsonValue → Option α) : JsonValue → Option (Option α)
  | .null => some none
  | given => (validate given).map some

theorem validateOptional_dumpOptional {dump : α → JsonValue} {validate : JsonValue → Option α} {back : α → α}
    (reads : ∀ value, validate (dump value) = some (back value)) (present : ∀ value, dump value ≠ .null)
    (value : Option α) : validateOptional validate (dumpOptional dump value) = some (value.map back) := by
  cases value with
  | none => rfl
  | some value =>
    have written := present value
    rw [dumpOptional, Option.map_some, validateOptional, reads]
    · rfl
    · exact written

/-- How the parts of an `α` are written under their names and read back by name. `β` is what the parts read so
far give, and `value` what they give when they are those of the record that was written. -/
structure Fields (α β : Type) where
  names : List String
  dump : α → List (String × JsonValue)
  read : (String → Option JsonValue) → Option β
  value : α → β
  dump_names : ∀ record, (dump record).map Prod.fst = names
  read_dump : ∀ record lookup, (∀ entry ∈ dump record, lookup entry.1 = some entry.2) →
    read lookup = some (value record)

namespace Fields

/-- No parts yet: `build` waits for them. -/
def of (build : β) : Fields α β where
  names := []
  dump _ := []
  read _ := some build
  value _ := build
  dump_names _ := rfl
  read_dump _ _ _ := rfl

/-- One more part: its name, its value where the name is missing, how it is written and what is read of that. -/
def slot (before : Fields α (γ → β)) (name : String) (part : α → γ) (missing : Option γ) (write : γ → JsonValue)
    (validate : JsonValue → Option γ) (back : γ → γ) (reads : ∀ value, validate (write value) = some (back value)) :
    Fields α β where
  names := name :: before.names
  dump record := (name, write (part record)) :: before.dump record
  read lookup := do
    let build ← before.read lookup
    let value ← match lookup name with
      | some given => validate given
      | none => missing
    return build value
  value record := before.value record (back (part record))
  dump_names record := by simp [before.dump_names]
  read_dump record lookup agrees := by
    have first : lookup name = some (write (part record)) := agrees _ List.mem_cons_self
    have others := before.read_dump record lookup (fun entry member => agrees entry (List.mem_cons_of_mem _ member))
    simp [first, reads, others]

/-- A part that every object has to carry. -/
def field [JsonModel γ] (before : Fields α (γ → β)) (name : String) (part : α → γ) : Fields α β :=
  before.slot name part none JsonModel.dump JsonModel.validate id JsonModel.validate_dump

/-- A part with a default. -/
def fieldOr [JsonModel γ] (before : Fields α (γ → β)) (name : String) (part : α → γ) (default : γ) : Fields α β :=
  before.slot name part (some default) JsonModel.dump JsonModel.validate id JsonModel.validate_dump

/-- A part that is any JSON value. -/
def json (before : Fields α (JsonValue → β)) (name : String) (part : α → JsonValue) : Fields α β :=
  before.slot name part none id some id (fun _ => rfl)

theorem reads_optional [JsonModel γ] (value : Option γ) :
    validateOptional JsonModel.validate (dumpOptional JsonModel.dump value) = some (id value) := by
  have reads : ∀ part : γ, JsonModel.validate (JsonModel.dump part) = some (id part) := JsonModel.validate_dump
  rw [validateOptional_dumpOptional reads JsonModel.dump_ne_null, Option.map_id]

/-- A part that may be `null`, as it is when the name is missing. -/
def optional [JsonModel γ] (before : Fields α (Option γ → β)) (name : String) (part : α → Option γ) : Fields α β :=
  before.slot name part (some none) (dumpOptional JsonModel.dump) (validateOptional JsonModel.validate) id
    reads_optional

/-- A part that may be `null` but has to be named. -/
def nullable [JsonModel γ] (before : Fields α (Option γ → β)) (name : String) (part : α → Option γ) : Fields α β :=
  before.slot name part none (dumpOptional JsonModel.dump) (validateOptional JsonModel.validate) id reads_optional

/-- A name that always carries the same value; `missing` says whether an object may leave it out. -/
def literal (before : Fields α β) (name : String) (value : JsonValue) (missing : Bool := true) : Fields α β where
  names := name :: before.names
  dump record := (name, value) :: before.dump record
  read lookup :=
    match lookup name with
    | some given => if given = value then before.read lookup else none
    | none => if missing then before.read lookup else none
  value := before.value
  dump_names record := by simp [before.dump_names]
  read_dump record lookup agrees := by
    have first : lookup name = some value := agrees _ List.mem_cons_self
    have others := before.read_dump record lookup (fun entry member => agrees entry (List.mem_cons_of_mem _ member))
    simp [first, others]

/-- The parts of a `γ`, among those of the whole. -/
def group (before : Fields α (γ → β)) (part : α → γ) (fields : Fields γ γ) : Fields α β where
  names := fields.names ++ before.names
  dump record := fields.dump (part record) ++ before.dump record
  read lookup := do
    let build ← before.read lookup
    return build (← fields.read lookup)
  value record := before.value record (fields.value (part record))
  dump_names record := by simp [before.dump_names, fields.dump_names]
  read_dump record lookup agrees := by
    have others := before.read_dump record lookup (fun entry member => agrees entry (List.mem_append_right _ member))
    have own := fields.read_dump (part record) lookup (fun entry member => agrees entry (List.mem_append_left _ member))
    simp [others, own]

/-- A part that lists records, each of which is read back as `back` says. -/
def records (before : Fields α (List γ → β)) (name : String) (part : α → List γ) (write : γ → JsonValue)
    (validate : JsonValue → Option γ) (back : γ → γ) (reads : ∀ value, validate (write value) = some (back value)) :
    Fields α β :=
  before.slot name part (some []) (fun values => .list (values.map write))
    (fun
      | .list items => items.mapM validate
      | _ => none)
    (List.map back) (fun values => mapM_reads reads values)

/-- The object of a record. -/
def write (fields : Fields α β) (record : α) : JsonValue :=
  objectOf (fields.dump record)

/-- What an object gives that carries no other names. -/
def validate (fields : Fields α β) : JsonValue → Option β
  | .object entries =>
    if ∀ entry ∈ entries, entry.1 ∈ fields.names then fields.read (fieldOf entries) else none
  | _ => none

theorem write_ne_null (fields : Fields α β) (record : α) : fields.write record ≠ .null := by
  simp [write, objectOf]

theorem validate_write (fields : Fields α β) (distinct : fields.names.Nodup) (record : α) :
    fields.validate (fields.write record) = some (fields.value record) := by
  have named := fields.dump_names record
  have known : ∀ entry ∈ (fields.dump record).insertionSort (fun left right => left.1 ≤ right.1),
      entry.1 ∈ fields.names := by
    intro entry member
    have written := List.mem_map_of_mem (f := Prod.fst) (List.mem_insertionSort _ |>.mp member)
    rwa [named] at written
  simp only [write, objectOf, validate]
  rw [if_pos known]
  apply fields.read_dump
  intro entry member
  exact fieldOf_sorted (by rwa [named]) member

end Fields

/-- A record that is what its parts give. -/
@[reducible] def JsonModel.record (fields : Fields α α)
    (keeps : ∀ record, fields.value record = record := by intro record; rfl)
    (distinct : fields.names.Nodup := by exact of_decide_eq_true rfl) : JsonModel α where
  dump := fields.write
  validate := fields.validate
  validate_dump record := by rw [fields.validate_write distinct, keeps]
  dump_ne_null := fields.write_ne_null

/-- A record that its parts give if they pass the checks that it makes of them. -/
@[reducible] def JsonModel.checked (fields : Fields α (Option α)) (keeps : ∀ record, fields.value record = some record)
    (distinct : fields.names.Nodup := by exact of_decide_eq_true rfl) : JsonModel α where
  dump := fields.write
  validate given := (fields.validate given).join
  validate_dump record := by rw [fields.validate_write distinct, keeps, Option.join_some]
  dump_ne_null := fields.write_ne_null

/-- The objects that a union writes under one tag: which values are written so, and the fields of these. -/
structure Member (σ : Type) where
  tag : String
  names : List String
  dump : σ → Option (List (String × JsonValue))
  read : (String → Option JsonValue) → Option σ

/-- The member whose values carry a `τ`, from which the parts that were read may fail to give a value. -/
def Member.checked (tag : String) (fields : Fields τ (Option σ)) (part : σ → Option τ) : Member σ where
  tag
  names := fields.names
  dump value := (part value).map fields.dump
  read lookup := (fields.read lookup).join

/-- The member whose values carry a `τ`. -/
def Member.of (tag : String) (fields : Fields τ σ) (part : σ → Option τ) : Member σ where
  tag
  names := fields.names
  dump value := (part value).map fields.dump
  read := fields.read

/-- The member whose values carry one record under one name. -/
def Member.single [JsonModel τ] (tag name : String) (build : τ → σ) (part : σ → Option τ) : Member σ :=
  .of tag (Fields.of build |>.field name id) part

/-- A member of a union within a union. -/
def Member.within (member : Member σ) (inject : σ → τ) (part : τ → Option σ) : Member τ where
  tag := member.tag
  names := member.names
  dump value := (part value).bind member.dump
  read lookup := (member.read lookup).map inject

/-- The member writes the value, and reads what it wrote as `back`. -/
def Member.Reads (member : Member σ) (value back : σ) : Prop :=
  ∃ entries, member.dump value = some entries ∧ entries.map Prod.fst = member.names ∧
    ∀ lookup, (∀ entry ∈ entries, lookup entry.1 = some entry.2) → member.read lookup = some back

theorem Member.checked_reads {tag : String} {fields : Fields τ (Option σ)} {part : σ → Option τ} {value back : σ}
    {carried : τ} (carries : part value = some carried) (gives : fields.value carried = some back) :
    (Member.checked tag fields part).Reads value back := by
  refine ⟨fields.dump carried, ?_, fields.dump_names carried, ?_⟩
  · simp [Member.checked, carries]
  · intro lookup agrees
    simp [Member.checked, fields.read_dump carried lookup agrees, gives]

theorem Member.of_reads {tag : String} {fields : Fields τ σ} {part : σ → Option τ} {value back : σ} {carried : τ}
    (carries : part value = some carried) (gives : fields.value carried = back) :
    (Member.of tag fields part).Reads value back := by
  refine ⟨fields.dump carried, ?_, fields.dump_names carried, ?_⟩
  · simp [Member.of, carries]
  · intro lookup agrees
    rw [← gives]
    exact fields.read_dump carried lookup agrees

theorem Member.within_reads {member : Member σ} {inject : σ → τ} {part : τ → Option σ} {whole after : τ}
    {value back : σ} (carries : part whole = some value) (reads : member.Reads value back)
    (gives : inject back = after) : (member.within inject part).Reads whole after := by
  obtain ⟨entries, dumped, named, readBack⟩ := reads
  refine ⟨entries, ?_, named, ?_⟩
  · simp [Member.within, carries, dumped]
  · intro lookup agrees
    simp [Member.within, readBack lookup agrees, gives]

/-- The member with the tag writes the value and reads it as `back`. -/
def Covers (members : List (Member σ)) (tag : String) (value back : σ) : Prop :=
  ∃ member, members.find? (fun member => member.tag = tag) = some member ∧ member.Reads value back

/-- The members of a part of a union, among all members, when no two have the same tag. -/
theorem Covers.within {members : List (Member σ)} {all : List (Member τ)} {tag : String} {value back : σ}
    (covers : Covers members tag value back) (distinct : (all.map Member.tag).Nodup) (inject : σ → τ)
    (part : τ → Option σ) {whole : τ} (listed : ∀ member ∈ members, member.within inject part ∈ all)
    (carries : part whole = some value) : Covers all tag whole (inject back) := by
  obtain ⟨member, tagged, reads⟩ := covers
  have sameTag : member.tag = tag := by simpa using List.find?_some tagged
  have among := listed member (List.mem_of_find?_eq_some tagged)
  refine ⟨member.within inject part, ?_, Member.within_reads carries reads rfl⟩
  rw [← sameTag]
  exact find_of_mem distinct among

/-- A union: the name of the tag, the parts that all its objects carry, and the members. -/
structure Union (α β σ : Type) where
  tagName : String
  common : Fields α β
  members : List (Member σ)

namespace Union

def names (union : Union α β σ) (member : Member σ) : List String :=
  union.tagName :: (union.common.names ++ member.names)

/-- The object of a value under its tag. -/
def write (union : Union α β σ) (tag : String) (record : α) (value : σ) : JsonValue :=
  objectOf ((union.tagName, .text tag) :: (union.common.dump record ++
    (((union.members.find? (fun member => member.tag = tag)).bind (fun member => member.dump value)).getD [])))

/-- What an object gives: the tag says whose fields it carries. -/
def validate (union : Union α β σ) : JsonValue → Option (β × σ)
  | .object entries => do
    let tag ← (fieldOf entries union.tagName).bind JsonValue.asText
    let member ← union.members.find? (fun member => member.tag = tag)
    if ∀ entry ∈ entries, entry.1 ∈ union.names member then
      return (← union.common.read (fieldOf entries), ← member.read (fieldOf entries))
    else none
  | _ => none

theorem write_ne_null (union : Union α β σ) (tag : String) (record : α) (value : σ) :
    union.write tag record value ≠ .null := by
  simp [write, objectOf]

/-- The object that a union writes: its names are those of the member, and what it carries is found by name. -/
theorem write_eq {union : Union α β σ} {tag : String} {value back : σ} (covers : Covers union.members tag value back)
    (distinct : ∀ member ∈ union.members, (union.names member).Nodup) (record : α) :
    ∃ member written, union.members.find? (fun member => member.tag = tag) = some member ∧
      union.write tag record value = .object written ∧ (∀ entry ∈ written, entry.1 ∈ union.names member) ∧
      fieldOf written union.tagName = some (.text tag) ∧
      (∀ entry ∈ union.common.dump record, fieldOf written entry.1 = some entry.2) ∧
      member.read (fieldOf written) = some back := by
  obtain ⟨member, tagged, entries, dumped, named, readBack⟩ := covers
  let carried := (union.tagName, JsonValue.text tag) :: (union.common.dump record ++ entries)
  have carriedNames : carried.map Prod.fst = union.names member := by
    simp [carried, names, union.common.dump_names, named]
  have distinctNames : (carried.map Prod.fst).Nodup := by
    rw [carriedNames]
    exact distinct member (List.mem_of_find?_eq_some tagged)
  have finds := fun entry (member : entry ∈ carried) => fieldOf_sorted distinctNames member
  refine ⟨member, carried.insertionSort (fun left right => left.1 ≤ right.1), tagged, ?_, ?_, ?_, ?_, ?_⟩
  · simp [write, objectOf, carried, tagged, dumped]
  · intro entry found
    have listed := List.mem_map_of_mem (f := Prod.fst) (List.mem_insertionSort _ |>.mp found)
    rwa [carriedNames] at listed
  · exact finds (union.tagName, .text tag) List.mem_cons_self
  · intro entry found
    exact finds entry (List.mem_cons_of_mem _ (List.mem_append_left _ found))
  · exact readBack _ (fun entry found => finds entry (List.mem_cons_of_mem _ (List.mem_append_right _ found)))

theorem validate_write {union : Union α β σ} {tag : String} {value back : σ}
    (covers : Covers union.members tag value back) (distinct : ∀ member ∈ union.members, (union.names member).Nodup)
    (record : α) : union.validate (union.write tag record value) = some (union.common.value record, back) := by
  obtain ⟨member, written, tagged, writes, known, tagFound, commonFound, memberRead⟩ := write_eq covers distinct record
  have commonRead := union.common.read_dump record _ commonFound
  rw [writes]
  simp only [validate, tagFound, JsonValue.asText, Option.bind_some, tagged, commonRead, memberRead, bind, pure]
  exact if_pos known

end Union

/-- A record that carries one value of a union, whose tag says which. -/
@[reducible] def JsonModel.union (union : Union α (σ → α) σ) (tag : σ → String) (part : α → σ)
    (covers : ∀ value, Covers union.members (tag value) value value)
    (keeps : ∀ record, union.common.value record (part record) = record := by intro record; rfl)
    (distinct : ∀ member ∈ union.members, (union.names member).Nodup := by exact of_decide_eq_true rfl) : JsonModel α where
  dump record := union.write (tag (part record)) record (part record)
  validate given := (union.validate given).map (fun parts => parts.1 parts.2)
  validate_dump record := by
    rw [Union.validate_write (covers (part record)) distinct]
    exact congrArg some (keeps record)
  dump_ne_null _ := union.write_ne_null _ _ _

end

end RatchetingInquiry
