import Mathlib.Data.NNRat.Floor
import Mathlib.Data.NNRat.Lemmas
import RatchetingInquiry.Library.JsonText
import RatchetingInquiry.Persistence.Artifacts

/-! The bytes of canonical JSON themselves: UTF-8 of the text without blanks, with the names of every object in order.
Reading them gives the value back, so that equal bytes are equal values. -/

namespace RatchetingInquiry

open JsonText

theorem fromUTF8_toUTF8 (text : String) : String.fromUTF8? text.toUTF8 = some text := by
  unfold String.fromUTF8?
  exact dif_pos text.isValidUTF8

section
variable [FloatText]

/-- `canonical_json_bytes` of a JSON value. -/
def canonicalJsonBytes (value : JsonValue) : ByteArray := (String.ofList (spell (asDict value))).toUTF8

/-- `json.loads` of UTF-8 bytes, `none` where it raises. What it gives is no value where there is `NaN`, an infinity or
half of a surrogate pair in it, of which there are no canonical bytes. -/
def jsonLoads (data : ByteArray) : Option (Option JsonValue) := do
  let text ← String.fromUTF8? data
  JsonText.read text.toList

theorem jsonLoads_canonicalJsonBytes {value : JsonValue} (spellable : Spellable value) :
    jsonLoads (canonicalJsonBytes value) = some (some (asDict value)) := by
  have read := read_spell (spellable_asDict spellable)
  have settled := asDict_of_dictionary (dictionary_asDict value)
  unfold jsonLoads canonicalJsonBytes
  rw [fromUTF8_toUTF8]
  simp only [Option.bind_eq_bind, Option.bind_some, String.toList_ofList, read, settled]

/-- The canonical bytes of a value load as the value with its names in order, equal bytes are equal values up to that
order, and whatever text a value was loaded from, its canonical bytes load as the same value. -/
theorem canonicalJsonBytes_exact :
    (∀ value, Spellable value → jsonLoads (canonicalJsonBytes value) = some (some (asDict value))) ∧
    (∀ left right, Spellable left → Spellable right →
      (canonicalJsonBytes left = canonicalJsonBytes right ↔ asDict left = asDict right)) ∧
    ∀ data value, jsonLoads data = some (some value) → jsonLoads (canonicalJsonBytes value) = some (some value) := by
  refine ⟨fun value => jsonLoads_canonicalJsonBytes, ?_, ?_⟩
  · intro left right spellableLeft spellableRight
    constructor
    · intro same
      have loaded := jsonLoads_canonicalJsonBytes spellableLeft
      rw [same, jsonLoads_canonicalJsonBytes spellableRight] at loaded
      exact (Option.some.inj (Option.some.inj loaded)).symm
    · intro same
      rw [canonicalJsonBytes, same, canonicalJsonBytes]
  · intro data value loaded
    unfold jsonLoads at loaded
    simp only [Option.bind_eq_bind, Option.bind_eq_some_iff] at loaded
    obtain ⟨text, -, found⟩ := loaded
    have loadable := read_loadable found
    rw [jsonLoads_canonicalJsonBytes loadable.spellable, asDict_of_dictionary loadable.dictionary]

end

namespace WorkedText

/-- The text of a float that is a number of halves, and not beyond the digits that it shows. -/
def halvesText (magnitude : ℚ≥0) : List Char :=
  Nat.toDigits 10 ⌊magnitude⌋₊ ++ '.' :: (if magnitude = ⌊magnitude⌋₊ then ['0'] else ['5'])

def readHalves (whole more : List Char) : Option ℚ≥0 :=
  if Nat.ofDigitChars 10 whole 0 < 10 ^ 15 then
    if more = ['.', '0'] then some (Nat.ofDigitChars 10 whole 0)
    else if more = ['.', '5'] then some (Nat.ofDigitChars 10 whole 0 + 1 / 2)
    else none
  else none

/-- A number of halves within the bound. -/
def IsHalves (magnitude : ℚ≥0) : Prop :=
  ∃ whole : Nat, whole < 10 ^ 15 ∧ (magnitude = whole ∨ magnitude = whole + 1 / 2)

theorem isHalves_of_read {whole more : List Char} {magnitude : ℚ≥0} (read : readHalves whole more = some magnitude) :
    IsHalves magnitude := by
  unfold readHalves at read
  split at read
  next small =>
    split at read
    next => exact ⟨_, small, .inl (Option.some.inj read).symm⟩
    next =>
      split at read
      next => exact ⟨_, small, .inr (Option.some.inj read).symm⟩
      next => cases read
  next => cases read

/-- The digits of a number of halves, which are read as that number. -/
theorem halvesText_of_isHalves {magnitude : ℚ≥0} (halves : IsHalves magnitude) : ∃ (whole : Nat) (digit : Char),
    digit.isDigit = true ∧ halvesText magnitude = Nat.toDigits 10 whole ++ '.' :: [digit] ∧
      readHalves (Nat.toDigits 10 whole) ['.', digit] = some magnitude := by
  obtain ⟨whole, small, same⟩ := halves
  have read : Nat.ofDigitChars 10 (Nat.toDigits 10 whole) 0 = whole := Nat.ofDigitChars_ten_toDigits
  have above : (whole : ℚ≥0) < whole + 1 / 2 := lt_add_of_pos_right _ (by norm_num)
  unfold halvesText readHalves
  rcases same with rfl | rfl
  · refine ⟨whole, '0', by decide, ?_, ?_⟩
    · rw [Nat.floor_natCast, if_pos rfl]
    · rw [read, if_pos small]
      rfl
  · have floor : ⌊(whole : ℚ≥0) + 1 / 2⌋₊ = whole := by
      rw [Nat.floor_eq_iff (by positivity)]
      exact ⟨above.le, by gcongr; norm_num⟩
    refine ⟨whole, '5', by decide, ?_, ?_⟩
    · rw [floor, if_neg above.ne']
    · rw [read, if_pos small]
      rfl

/-- The floats that are numbers of halves, as they are written and read. -/
scoped instance halves : FloatText where
  Representable := IsHalves
  spell negative magnitude := (if negative then ['-'] else []) ++ halvesText magnitude
  read negative whole more := (readHalves whole more).map (fun magnitude => (negative, magnitude))
  read_representable := by
    intro negative whole more value read
    obtain ⟨magnitude, found, rfl⟩ := Option.map_eq_some_iff.mp read
    exact isHalves_of_read found
  spelled := by
    intro negative magnitude representable
    obtain ⟨whole, digit, isDigit, text, read⟩ := halvesText_of_isHalves representable
    obtain ⟨first, others, begins, spelled⟩ := decimal_begins negative whole [digit]
    refine ⟨first, others, Nat.toDigits 10 whole, ['.', digit], by rw [text, spelled], begins, Nat.toDigits_ne_nil,
      List.cons_ne_nil _ _, by rw [read]; rfl, ?_⟩
    intro rest delimited
    rw [← spelled]
    exact scanNumber_decimal negative whole (List.cons_ne_nil _ _) (List.forall_mem_singleton.mpr isDigit) delimited

/-- An object with its names out of order, and characters that are escaped or take several bytes. -/
def unordered : JsonValue := .object [("b", .list [.int (-10), .text "\u00e9\n\x22"]), ("a", .float true (1 / 2))]

theorem unordered_spellable : Spellable unordered := by
  have half : IsHalves (1 / 2) := ⟨0, by norm_num, .inr (by norm_num)⟩
  apply Spellable.object
  intro field member
  rcases List.mem_pair.mp member with rfl | rfl
  · apply Spellable.list
    intro item listed
    rcases List.mem_pair.mp listed with rfl | rfl
    · exact .int _
    · exact .text _
  · exact .float true (1 / 2) half

/-- The text has its names in order, and loads as the object with its names in order. -/
theorem unordered_reloads : asDict unordered ≠ unordered ∧
    String.ofList (spell (asDict unordered)) = "\x7b\x22a\x22:-0.5,\x22b\x22:[-10,\x22\u00e9\\n\\\x22\x22]\x7d" ∧
    jsonLoads (canonicalJsonBytes unordered) = some (some (asDict unordered)) :=
  ⟨by decide +kernel, by decide +kernel, canonicalJsonBytes_exact.1 unordered unordered_spellable⟩

end WorkedText

namespace Worked

/-- A text for each float, of which a digest that tells all values apart can be made: the numerator before the point, and
the denominator behind it. Python writes floats otherwise. -/
scoped instance fractions : FloatText where
  Representable _ := True
  spell negative magnitude :=
    (if negative then ['-'] else []) ++ (Nat.toDigits 10 magnitude.num ++ '.' :: Nat.toDigits 10 magnitude.den)
  read negative whole more := some (negative, Nat.ofDigitChars 10 whole 0 / Nat.ofDigitChars 10 more.tail 0)
  read_representable _ _ _ _ _ := trivial
  spelled negative magnitude _ := by
    obtain ⟨first, others, begins, spelled⟩ := decimal_begins negative magnitude.num (Nat.toDigits 10 magnitude.den)
    refine ⟨first, others, Nat.toDigits 10 magnitude.num, '.' :: Nat.toDigits 10 magnitude.den, spelled, begins,
      Nat.toDigits_ne_nil, List.cons_ne_nil _ _, ?_, ?_⟩
    · rw [List.tail_cons, Nat.ofDigitChars_ten_toDigits, Nat.ofDigitChars_ten_toDigits, NNRat.num_div_den]
    · intro rest delimited
      rw [← spelled]
      exact scanNumber_decimal negative magnitude.num Nat.toDigits_ne_nil (isDigit_toDigits _) delimited

theorem spellable_fractions (value : JsonValue) : Spellable value := by
  induction value using placeInduction with
  | null => exact .null
  | bool value => exact .bool value
  | int value => exact .int value
  | float negative magnitude => exact .float negative magnitude trivial
  | text value => exact .text value
  | list items ih => exact .list items ih
  | object fields ih => exact .object fields ih

mutual
/-- A value in which lists stand for the objects, so that no name gets lost. -/
def flat : JsonValue → JsonValue
  | .list items => .list (.null :: flatItems items)
  | .object fields => .list (.bool true :: flatFields fields)
  | value => value

def flatItems : List JsonValue → List JsonValue
  | [] => []
  | item :: rest => flat item :: flatItems rest

def flatFields : List (String × JsonValue) → List JsonValue
  | [] => []
  | (name, value) :: rest => .text name :: flat value :: flatFields rest
end

theorem flatItems_injective {items others : List JsonValue}
    (each : ∀ item ∈ items, ∀ other, flat item = flat other → item = other)
    (same : flatItems items = flatItems others) : items = others := by
  induction items generalizing others with
  | nil =>
    cases others with
    | nil => rfl
    | cons other others => exact nomatch same
  | cons item items ih =>
    cases others with
    | nil => exact nomatch same
    | cons other others =>
      obtain ⟨first, rest⟩ := List.cons.inj same
      rw [each item List.mem_cons_self other first,
        ih (fun item member => each item (List.mem_cons_of_mem _ member)) rest]

theorem flatFields_injective {fields others : List (String × JsonValue)}
    (each : ∀ field ∈ fields, ∀ other, flat field.2 = flat other → field.2 = other)
    (same : flatFields fields = flatFields others) : fields = others := by
  induction fields generalizing others with
  | nil =>
    cases others with
    | nil => rfl
    | cons other others => exact nomatch same
  | cons field fields ih =>
    cases others with
    | nil => exact nomatch same
    | cons other others =>
      obtain ⟨name, rest⟩ := List.cons.inj same
      obtain ⟨value, rest⟩ := List.cons.inj rest
      have names : field.1 = other.1 := JsonValue.text.inj name
      have values := each field List.mem_cons_self other.2 value
      rw [Prod.ext names values, ih (fun item member => each item (List.mem_cons_of_mem _ member)) rest]

theorem flat_injective : Function.Injective flat := by
  intro value
  induction value using placeInduction with
  | list items ih =>
    intro other same
    cases other with
    | list others =>
      have items := (List.cons.inj (JsonValue.list.inj same)).2
      rw [flatItems_injective (fun item member other one => ih item member one) items]
    | object others => exact nomatch (List.cons.inj (JsonValue.list.inj same)).1
    | _ => exact nomatch same
  | object fields ih =>
    intro other same
    cases other with
    | list others => exact nomatch (List.cons.inj (JsonValue.list.inj same)).1
    | object others =>
      have fields := (List.cons.inj (JsonValue.list.inj same)).2
      rw [flatFields_injective (fun field member other one => ih field member one) fields]
    | _ => exact nomatch same
  | _ =>
    intro other same
    cases other with
    | list others => exact nomatch same
    | object others => exact nomatch same
    | _ => exact same

/-- There are no objects left. -/
theorem asDict_flat (value : JsonValue) : asDict (flat value) = flat value := by
  induction value using placeInduction with
  | list items ih =>
    have settled : asDictItems (flatItems items) = flatItems items := by
      induction items with
      | nil => rfl
      | cons item rest later =>
        rw [flatItems, asDictItems, ih item List.mem_cons_self,
          later (fun other member => ih other (List.mem_cons_of_mem _ member))]
    rw [flat, asDict, asDictItems, settled]
    rfl
  | object fields ih =>
    have settled : asDictItems (flatFields fields) = flatFields fields := by
      induction fields with
      | nil => rfl
      | cons field rest later =>
        rw [flatFields, asDictItems, asDictItems, ih field List.mem_cons_self,
          later (fun other member => ih other (List.mem_cons_of_mem _ member))]
        rfl
    rw [flat, asDict, asDictItems, settled]
    rfl
  | _ => rfl

/-- A stand-in for a digest that tells all contents apart: the text of a value itself, and other bytes in reverse. -/
def exactDigest : StoredBytes → String
  | .text spelling value => String.ofList (spell (.list [.int spelling, flat value]))
  | .other content => String.ofList ('o' :: content.toList.reverse)

theorem exactDigest_injective : Function.Injective exactDigest := by
  intro first second same
  cases first with
  | text spelling value =>
    cases second with
    | text otherSpelling other =>
      have texts := spell_dicts (spellable_fractions _) (spellable_fractions _) (String.ofList_injective same)
      simp only [asDict, asDictItems, asDict_flat, JsonValue.list.injEq, List.cons.injEq, JsonValue.int.injEq,
        Int.natCast_inj, and_true] at texts
      rw [texts.1, flat_injective texts.2]
    | other content =>
      have texts := String.ofList_injective same
      cases texts
  | other content =>
    cases second with
    | text spelling value =>
      have texts := String.ofList_injective same
      cases texts
    | other otherContent =>
      have texts := List.cons.inj (String.ofList_injective same)
      rw [String.toList_injective (List.reverse_injective texts.2)]

end Worked

namespace WorkedApart

/-- Digests that tell all contents apart, which are as long as their contents. -/
scoped instance exactBytes : ByteFacts where
  length data := (Worked.exactDigest data).utf8ByteSize
  sha256 := Worked.exactDigest

end WorkedApart

end RatchetingInquiry
