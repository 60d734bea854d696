import Mathlib.Data.NNRat.Defs
import RatchetingInquiry.Library.Index

/-! JSON values, and the equality of records that carry them. -/

namespace RatchetingInquiry

/-- A JSON value. A float is finite: its sign and its exact magnitude. An object lists its fields in
key order, which the source does not observe. -/
inductive JsonValue where
  | null
  | bool (value : Bool)
  | int (value : Int)
  | float (negative : Bool) (magnitude : ℚ≥0)
  | text (value : String)
  | list (items : List JsonValue)
  | object (fields : List (String × JsonValue))

mutual
def JsonValue.decEq : (left right : JsonValue) → Decidable (left = right)
  | .null, .null => isTrue rfl
  | .bool a, .bool b => decidable_of_iff (a = b) (by simp)
  | .int a, .int b => decidable_of_iff (a = b) (by simp)
  | .float m a, .float n b => decidable_of_iff (m = n ∧ a = b) (by simp)
  | .text a, .text b => decidable_of_iff (a = b) (by simp)
  | .list a, .list b =>
    match JsonValue.decEqList a b with
    | isTrue same => isTrue (by rw [same])
    | isFalse different => isFalse (by simpa using different)
  | .object a, .object b =>
    match JsonValue.decEqFields a b with
    | isTrue same => isTrue (by rw [same])
    | isFalse different => isFalse (by simpa using different)
  | .null, .bool _ | .null, .int _ | .null, .float _ _ | .null, .text _ | .null, .list _ | .null, .object _
  | .bool _, .null | .bool _, .int _ | .bool _, .float _ _ | .bool _, .text _ | .bool _, .list _ | .bool _, .object _
  | .int _, .null | .int _, .bool _ | .int _, .float _ _ | .int _, .text _ | .int _, .list _ | .int _, .object _
  | .float _ _, .null | .float _ _, .bool _ | .float _ _, .int _ | .float _ _, .text _ | .float _ _, .list _ | .float _ _, .object _
  | .text _, .null | .text _, .bool _ | .text _, .int _ | .text _, .float _ _ | .text _, .list _ | .text _, .object _
  | .list _, .null | .list _, .bool _ | .list _, .int _ | .list _, .float _ _ | .list _, .text _ | .list _, .object _
  | .object _, .null | .object _, .bool _ | .object _, .int _ | .object _, .float _ _ | .object _, .text _
  | .object _, .list _ => isFalse (by simp)

def JsonValue.decEqList : (left right : List JsonValue) → Decidable (left = right)
  | [], [] => isTrue rfl
  | [], _ :: _ => isFalse (by simp)
  | _ :: _, [] => isFalse (by simp)
  | a :: as, b :: bs =>
    match JsonValue.decEq a b, JsonValue.decEqList as bs with
    | isTrue head, isTrue tail => isTrue (by rw [head, tail])
    | isFalse head, _ => isFalse (by simp [head])
    | _, isFalse tail => isFalse (by simp [tail])

def JsonValue.decEqFields : (left right : List (String × JsonValue)) → Decidable (left = right)
  | [], [] => isTrue rfl
  | [], _ :: _ => isFalse (by simp)
  | _ :: _, [] => isFalse (by simp)
  | (m, a) :: as, (n, b) :: bs =>
    match instDecidableEqString m n, JsonValue.decEq a b, JsonValue.decEqFields as bs with
    | isTrue name, isTrue head, isTrue tail => isTrue (by rw [name, head, tail])
    | isFalse name, _, _ => isFalse (by simp [name])
    | _, isFalse head, _ => isFalse (by simp [head])
    | _, _, isFalse tail => isFalse (by simp [tail])
end

instance : DecidableEq JsonValue := JsonValue.decEq

/-- The text of a JSON string, `none` for every other value. -/
def JsonValue.asText : JsonValue → Option String
  | .text value => some value
  | _ => none

mutual
/-- The number that a boolean, an integer and an integral float share, in every place of a value. -/
def JsonValue.numeric : JsonValue → JsonValue
  | .bool value => .int (if value then 1 else 0)
  | .float negative magnitude =>
    if magnitude.den = 1 then .int (if negative then -magnitude.num else magnitude.num)
    else .float negative magnitude
  | .list items => .list (JsonValue.numericList items)
  | .object fields => .object (JsonValue.numericFields fields)
  | value => value

def JsonValue.numericList : List JsonValue → List JsonValue
  | [] => []
  | item :: rest => item.numeric :: JsonValue.numericList rest

def JsonValue.numericFields : List (String × JsonValue) → List (String × JsonValue)
  | [] => []
  | (name, value) :: rest => (name, value.numeric) :: JsonValue.numericFields rest
end

/-- Equality of records as the source's `==` computes it. It is reflexive, and coarser than `=` on
records that carry JSON, where `True`, `1` and `1.0` are equal. -/
class RecordEq (α : Type) where
  same : α → α → Bool
  same_refl : ∀ record, same record record = true

instance (priority := low) recordEqOfDecidableEq {α : Type} [DecidableEq α] : RecordEq α where
  same left right := decide (left = right)
  same_refl := by simp

instance : RecordEq JsonValue where
  same left right := decide (left.numeric = right.numeric)
  same_refl := by simp

instance {α : Type} [RecordEq α] : RecordEq (List α) where
  same left right := left.length = right.length && (left.zip right).all (fun pair => RecordEq.same pair.1 pair.2)
  same_refl records := by
    simp only [decide_true, Bool.true_and]
    induction records with
    | nil => rfl
    | cons record rest ih => simp [RecordEq.same_refl, ih]

end RatchetingInquiry
