import Mathlib.Data.List.Basic

/-! Base64 text: three bytes are written as four digits of the alphabet, and what is short of three bytes is padded.
Reading takes back what was written, and reads nothing else that is not a text of four-digit groups. -/

namespace RatchetingInquiry

namespace Base64

def alphabet : List Char := "ABCDEFGHIJKLMNOPQRSTUVWXYZabcdefghijklmnopqrstuvwxyz0123456789+/".toList

/-- The digit of a sextet. -/
def digit (sextet : Nat) : Char := alphabet.getD sextet '='

/-- The sextet of a digit. -/
def sextet (char : Char) : Option Nat :=
  if char ∈ alphabet then some (alphabet.idxOf char) else none

def encode : List UInt8 → List Char
  | [] => []
  | [a] => [digit (a.toNat / 4), digit (a.toNat % 4 * 16), '=', '=']
  | [a, b] => [digit (a.toNat / 4), digit (a.toNat % 4 * 16 + b.toNat / 16), digit (b.toNat % 16 * 4), '=']
  | a :: b :: c :: rest =>
    digit (a.toNat / 4) :: digit (a.toNat % 4 * 16 + b.toNat / 16) :: digit (b.toNat % 16 * 4 + c.toNat / 64) ::
      digit (c.toNat % 64) :: encode rest

/-- The bytes of a text, which has no other characters than digits and the padding of its last group. -/
def decode : List Char → Option (List UInt8)
  | [] => some []
  | first :: second :: third :: fourth :: rest =>
    if fourth = '=' then
      if rest = [] then
        if third = '=' then do
          let x ← sextet first
          let y ← sextet second
          return [UInt8.ofNat (x * 4 + y / 16)]
        else do
          let x ← sextet first
          let y ← sextet second
          let z ← sextet third
          return [UInt8.ofNat (x * 4 + y / 16), UInt8.ofNat (y % 16 * 16 + z / 4)]
      else none
    else do
      let x ← sextet first
      let y ← sextet second
      let z ← sextet third
      let w ← sextet fourth
      let bytes ← decode rest
      return UInt8.ofNat (x * 4 + y / 16) :: UInt8.ofNat (y % 16 * 16 + z / 4) :: UInt8.ofNat (z % 4 * 64 + w) :: bytes
  | _ => none

/-- The alphabet is distinct, and it is ASCII without the padding. -/
theorem alphabet_digits : (∀ value < 64, sextet (digit value) = some value) ∧ (∀ value < 64, digit value ≠ '=') ∧
    alphabet.all (fun char => char.toNat < 128) = true := by
  decide +kernel

theorem sextet_digit {value : Nat} (small : value < 64) : sextet (digit value) = some value :=
  alphabet_digits.1 value small

theorem digit_ne_padding {value : Nat} (small : value < 64) : digit value ≠ '=' := alphabet_digits.2.1 value small

theorem ofNat_toNat {byte : UInt8} {value : Nat} (same : value = byte.toNat) : UInt8.ofNat value = byte := by
  rw [same]
  exact UInt8.ofNat_toNat

/-- What was written is read back. -/
theorem decode_encode (bytes : List UInt8) : decode (encode bytes) = some bytes := by
  induction bytes using encode.induct with
  | case1 => rfl
  | case2 a =>
    have bounded := a.toNat_lt
    have first : a.toNat / 4 < 64 := by omega
    have second : a.toNat % 4 * 16 < 64 := by omega
    have whole : UInt8.ofNat (a.toNat / 4 * 4 + a.toNat % 4 * 16 / 16) = a := ofNat_toNat (by omega)
    simp only [encode, decode, if_true, sextet_digit first, sextet_digit second, Option.bind_eq_bind, Option.bind_some,
      whole]
    rfl
  | case3 a b =>
    have boundedA := a.toNat_lt
    have boundedB := b.toNat_lt
    have first : a.toNat / 4 < 64 := by omega
    have second : a.toNat % 4 * 16 + b.toNat / 16 < 64 := by omega
    have third : b.toNat % 16 * 4 < 64 := by omega
    have wholeA : UInt8.ofNat (a.toNat / 4 * 4 + (a.toNat % 4 * 16 + b.toNat / 16) / 16) = a := ofNat_toNat (by omega)
    have wholeB : UInt8.ofNat ((a.toNat % 4 * 16 + b.toNat / 16) % 16 * 16 + b.toNat % 16 * 4 / 4) = b :=
      ofNat_toNat (by omega)
    simp only [encode, decode, if_true, if_neg (digit_ne_padding third), sextet_digit first, sextet_digit second,
      sextet_digit third, Option.bind_eq_bind, Option.bind_some, wholeA, wholeB]
    rfl
  | case4 a b c rest ih =>
    have boundedA := a.toNat_lt
    have boundedB := b.toNat_lt
    have boundedC := c.toNat_lt
    have first : a.toNat / 4 < 64 := by omega
    have second : a.toNat % 4 * 16 + b.toNat / 16 < 64 := by omega
    have third : b.toNat % 16 * 4 + c.toNat / 64 < 64 := by omega
    have fourth : c.toNat % 64 < 64 := by omega
    have wholeA : UInt8.ofNat (a.toNat / 4 * 4 + (a.toNat % 4 * 16 + b.toNat / 16) / 16) = a := ofNat_toNat (by omega)
    have wholeB : UInt8.ofNat ((a.toNat % 4 * 16 + b.toNat / 16) % 16 * 16 +
        (b.toNat % 16 * 4 + c.toNat / 64) / 4) = b := ofNat_toNat (by omega)
    have wholeC : UInt8.ofNat ((b.toNat % 16 * 4 + c.toNat / 64) % 4 * 64 + c.toNat % 64) = c := ofNat_toNat (by omega)
    simp only [encode, decode, if_neg (digit_ne_padding fourth), sextet_digit first, sextet_digit second,
      sextet_digit third, sextet_digit fourth, Option.bind_eq_bind, Option.bind_some, wholeA, wholeB, wholeC, ih]
    rfl

theorem digit_ascii (value : Nat) : (digit value).toNat < 128 := by
  obtain ⟨-, -, listed⟩ := alphabet_digits
  rw [digit, List.getD_eq_getElem?_getD]
  cases found : alphabet[value]? with
  | none => decide
  | some char => simpa using List.all_eq_true.mp listed char (List.mem_of_getElem? found)

/-- Nothing but ASCII is written. -/
theorem encode_ascii (bytes : List UInt8) : ∀ char ∈ encode bytes, char.toNat < 128 := by
  induction bytes using encode.induct with
  | case1 => simp [encode]
  | case2 a => simp [encode, digit_ascii]
  | case3 a b => simp [encode, digit_ascii]
  | case4 a b c rest ih =>
    rw [encode]
    simp only [List.forall_mem_cons, digit_ascii, true_and]
    exact ih

end Base64

end RatchetingInquiry
