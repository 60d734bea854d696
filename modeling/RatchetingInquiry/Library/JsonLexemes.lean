import Mathlib.Data.NNRat.Defs
import RatchetingInquiry.Library.Json

/-! The numbers and strings of JSON texts: how they are spelled, a reader that admits every escape and every number that
the grammar has, and that the reader takes back what was spelled. Numbers may be read that no finite float holds, and
strings with half of a surrogate pair, of which there are no values. How a float is spelled is a parameter. -/

namespace RatchetingInquiry

namespace JsonText

def quote : Char := '\x22'

def backslash : Char := '\x5c'

def openBrace : Char := '\x7b'

def closeBrace : Char := '\x7d'

def isBlank (char : Char) : Bool := char = ' ' || char = '\t' || char = '\n' || char = '\x0d'

def skipBlanks (text : List Char) : List Char := text.dropWhile isBlank

/-! Numbers. -/

/-- The digits of the whole part, which begins with a zero only where it is zero. -/
def wholePart : List Char → List Char × List Char
  | [] => ([], [])
  | first :: rest => 
    if first = '0' then (['0'], rest)
    else ((first :: rest).takeWhile Char.isDigit, (first :: rest).dropWhile Char.isDigit)

/-- A fraction, if there is one. -/
def fractionPart : List Char → List Char × List Char
  | [] => ([], [])
  | first :: rest =>
    if first = '.' ∧ rest.takeWhile Char.isDigit ≠ [] then
      ('.' :: rest.takeWhile Char.isDigit, rest.dropWhile Char.isDigit)
    else ([], first :: rest)

/-- The sign of an exponent, if it has one. -/
def exponentSign : List Char → List Char × List Char
  | [] => ([], [])
  | first :: rest => if first = '+' ∨ first = '-' then ([first], rest) else ([], first :: rest)

/-- An exponent, if there is one. -/
def exponentPart : List Char → List Char × List Char
  | [] => ([], [])
  | first :: rest =>
    let (sign, digits) := exponentSign rest
    if (first = 'e' ∨ first = 'E') ∧ digits.takeWhile Char.isDigit ≠ [] then
      (first :: sign ++ digits.takeWhile Char.isDigit, digits.dropWhile Char.isDigit)
    else ([], first :: rest)

/-- The sign, the whole part, and what makes a number a float, of a text that begins with a number. -/
def scanNumber (text : List Char) : (Bool × List Char × List Char) × List Char :=
  let negative := text.head? = some '-'
  let (whole, afterWhole) := wholePart (if negative then text.tail else text)
  let (fraction, afterFraction) := fractionPart afterWhole
  let (exponent, rest) := exponentPart afterFraction
  ((negative, whole, fraction ++ exponent), rest)

/-- What can follow a number: no character that would go on with it. -/
def Delimited (rest : List Char) : Prop :=
  ∀ char ∈ rest.head?, char.isDigit = false ∧ char ≠ '.' ∧ char ≠ 'e' ∧ char ≠ 'E'

def spellInt : Int → List Char
  | .ofNat value => Nat.toDigits 10 value
  | .negSucc value => '-' :: Nat.toDigits 10 (value + 1)

theorem takeWhile_digits {digits rest : List Char} (digit : ∀ char ∈ digits, char.isDigit = true)
    (ends : ∀ char ∈ rest.head?, char.isDigit = false) :
    (digits ++ rest).takeWhile Char.isDigit = digits ∧ (digits ++ rest).dropWhile Char.isDigit = rest := by
  have stops : rest.takeWhile Char.isDigit = [] ∧ rest.dropWhile Char.isDigit = rest := by
    cases rest with
    | nil => exact ⟨rfl, rfl⟩
    | cons first rest =>
      have other := ends first rfl
      constructor
      · rw [List.takeWhile_cons, other]
        rfl
      · rw [List.dropWhile_cons, other]
        rfl
  rw [List.takeWhile_append_of_pos digit, List.dropWhile_append_of_pos digit, stops.1, stops.2, List.append_nil]
  exact ⟨rfl, rfl⟩

theorem toDigits_first (value : Nat) (positive : 0 < value) : ∃ first others,
    Nat.toDigits 10 value = first :: others ∧ first ≠ '0' := by
  induction value using Nat.strongRecOn with
  | ind value ih =>
    by_cases small : value < 10
    · refine ⟨value.digitChar, [], Nat.toDigits_of_lt_base small, ?_⟩
      have nonzero : ∀ digit < 10, 0 < digit → digit.digitChar ≠ '0' := by decide
      exact nonzero value small positive
    · obtain ⟨first, others, digits, nonzero⟩ := ih (value / 10) (by omega) (by omega)
      refine ⟨first, others ++ [(value % 10).digitChar], ?_, nonzero⟩
      rw [Nat.toDigits_of_base_le (by omega) (by omega), digits, List.cons_append]

theorem isDigit_toDigits (value : Nat) : ∀ char ∈ Nat.toDigits 10 value, char.isDigit = true := by
  intro char member
  exact Nat.isDigit_of_mem_toDigits (by omega) (by omega) member

theorem toDigits_begins (value : Nat) : ∃ first others, Nat.toDigits 10 value = first :: others ∧
    first.isDigit = true := by
  cases digits : Nat.toDigits 10 value with
  | nil => exact absurd digits Nat.toDigits_ne_nil
  | cons first others => exact ⟨first, others, rfl, isDigit_toDigits value first (digits ▸ List.mem_cons_self)⟩

theorem wholePart_toDigits (value : Nat) {rest : List Char} (ends : ∀ char ∈ rest.head?, char.isDigit = false) :
    wholePart (Nat.toDigits 10 value ++ rest) = (Nat.toDigits 10 value, rest) := by
  rcases Nat.eq_zero_or_pos value with rfl | positive
  · rfl
  · obtain ⟨first, others, digits, nonzero⟩ := toDigits_first value positive
    obtain ⟨taken, left⟩ := takeWhile_digits (isDigit_toDigits value) ends
    rw [digits] at taken left ⊢
    rw [List.cons_append] at taken left ⊢
    rw [wholePart, if_neg nonzero, taken, left]

theorem fractionPart_delimited {rest : List Char} (delimited : Delimited rest) : fractionPart rest = ([], rest) := by
  cases rest with
  | nil => rfl
  | cons first rest =>
    have plain : first ≠ '.' := (delimited first rfl).2.1
    simp only [fractionPart, plain, false_and, if_false]

theorem exponentPart_delimited {rest : List Char} (delimited : Delimited rest) : exponentPart rest = ([], rest) := by
  cases rest with
  | nil => rfl
  | cons first rest =>
    unfold exponentPart
    have plain : ¬ (first = 'e' ∨ first = 'E') := not_or.mpr (delimited first rfl).2.2
    simp only [plain, false_and, if_false]

theorem scanNumber_toDigits (value : Nat) {rest : List Char} (delimited : Delimited rest) :
    scanNumber (Nat.toDigits 10 value ++ rest) = ((false, Nat.toDigits 10 value, []), rest) ∧
    scanNumber ('-' :: Nat.toDigits 10 value ++ rest) = ((true, Nat.toDigits 10 value, []), rest) := by
  obtain ⟨first, others, digits, digit⟩ := toDigits_begins value
  have unsigned : (Nat.toDigits 10 value ++ rest).head? ≠ some '-' := by
    intro signed
    rw [digits, List.cons_append, List.head?_cons, Option.some.injEq] at signed
    rw [signed] at digit
    exact absurd digit (by decide)
  have ends : ∀ char ∈ rest.head?, char.isDigit = false := fun char first => (delimited char first).1
  constructor
  · simp only [scanNumber, unsigned, decide_false, if_false, wholePart_toDigits value ends,
      fractionPart_delimited delimited, exponentPart_delimited delimited, List.append_nil]
  · simp only [scanNumber, List.cons_append, List.head?_cons, decide_true, if_true, List.tail_cons,
      wholePart_toDigits value ends, fractionPart_delimited delimited, exponentPart_delimited delimited,
      List.append_nil]

theorem decimal_begins (negative : Bool) (value : Nat) (digits : List Char) : ∃ first others,
    (first = '-' ∨ first.isDigit = true) ∧
      (if negative then ['-'] else []) ++ (Nat.toDigits 10 value ++ '.' :: digits) = first :: others := by
  obtain ⟨first, others, spelled, digit⟩ := toDigits_begins value
  cases negative with
  | true => exact ⟨'-', _, .inl rfl, rfl⟩
  | false => exact ⟨first, others ++ '.' :: digits, .inr digit, by rw [spelled]; rfl⟩

/-- The scan of digits before a point and behind it. -/
theorem scanNumber_decimal (negative : Bool) (value : Nat) {digits rest : List Char} (some_ : digits ≠ [])
    (digit : ∀ char ∈ digits, char.isDigit = true) (delimited : Delimited rest) :
    scanNumber ((if negative then ['-'] else []) ++ (Nat.toDigits 10 value ++ '.' :: digits) ++ rest) =
      ((negative, Nat.toDigits 10 value, '.' :: digits), rest) := by
  have ends : ∀ char ∈ rest.head?, char.isDigit = false := fun char first => (delimited char first).1
  obtain ⟨taken, left⟩ := takeWhile_digits digit ends
  have whole : wholePart ((Nat.toDigits 10 value ++ '.' :: digits) ++ rest) =
      (Nat.toDigits 10 value, '.' :: (digits ++ rest)) := by
    rw [List.append_assoc]
    exact wholePart_toDigits value (by simp)
  have fraction : fractionPart ('.' :: (digits ++ rest)) = ('.' :: digits, rest) := by
    rw [fractionPart, if_pos ⟨rfl, by rw [taken]; exact some_⟩, taken, left]
  cases negative with
  | true =>
    simp only [if_true, List.cons_append, List.nil_append, scanNumber, List.head?_cons, decide_true, List.tail_cons,
      whole, fraction, exponentPart_delimited delimited, List.append_nil]
  | false =>
    obtain ⟨first, others, text, isDigit⟩ := toDigits_begins value
    have unsigned : ((Nat.toDigits 10 value ++ '.' :: digits) ++ rest).head? ≠ some '-' := by
      intro signed
      rw [text, List.cons_append, List.cons_append, List.head?_cons, Option.some.injEq] at signed
      rw [signed] at isDigit
      exact absurd isDigit (by decide)
    simp only [Bool.false_eq_true, if_false, List.nil_append, scanNumber, unsigned, decide_false, whole, fraction,
      exponentPart_delimited delimited, List.append_nil]

/-- How floats are spelled and read: the text of a float is a number that is no integer, and is read as that float. A
number beyond all floats is read as infinite, which is none of them. -/
class FloatText where
  Representable : ℚ≥0 → Prop
  spell : Bool → ℚ≥0 → List Char
  read : Bool → List Char → List Char → Option (Bool × ℚ≥0)
  read_representable : ∀ negative whole more value, read negative whole more = some value → Representable value.2
  spelled : ∀ negative magnitude, Representable magnitude → ∃ first others whole more,
    spell negative magnitude = first :: others ∧ (first = '-' ∨ first.isDigit = true) ∧ whole ≠ [] ∧ more ≠ [] ∧
    read negative whole more = some (negative, magnitude) ∧
    ∀ rest, Delimited rest → scanNumber (first :: others ++ rest) = ((negative, whole, more), rest)

section
variable [FloatText]

/-- The number that a text begins with: an integer, a finite float, or an infinite one, of which there is no value. -/
def readNumber (text : List Char) : Option (Option JsonValue × List Char) :=
  let ((negative, whole, more), rest) := scanNumber text
  if whole = [] then none
  else if more = [] then
    let magnitude : Int := Nat.ofDigitChars 10 whole 0
    some (some (.int (if negative then -magnitude else magnitude)), rest)
  else some ((FloatText.read negative whole more).map (fun value => .float value.1 value.2), rest)

theorem readNumber_spellInt (value : Int) {rest : List Char} (delimited : Delimited rest) :
    readNumber (spellInt value ++ rest) = some (some (.int value), rest) := by
  cases value with
  | ofNat value =>
    rw [spellInt, readNumber, (scanNumber_toDigits value delimited).1]
    simp only [Nat.toDigits_ne_nil, if_false, if_true, Nat.ofDigitChars_ten_toDigits, Bool.false_eq_true]
    rfl
  | negSucc value =>
    rw [spellInt, readNumber, (scanNumber_toDigits (value + 1) delimited).2]
    simp only [Nat.toDigits_ne_nil, if_false, if_true, Nat.ofDigitChars_ten_toDigits]
    rfl

theorem readNumber_spellFloat (negative : Bool) {magnitude : ℚ≥0} (representable : FloatText.Representable magnitude)
    {rest : List Char} (delimited : Delimited rest) :
    readNumber (FloatText.spell negative magnitude ++ rest) = some (some (.float negative magnitude), rest) := by
  obtain ⟨first, others, whole, more, spelled, -, wholeDigits, isFloat, reads, scanned⟩ :=
    FloatText.spelled negative magnitude representable
  rw [readNumber, spelled, scanned rest delimited]
  simp only [wholeDigits, isFloat, if_false, reads, Option.map_some]

end

/-! Strings. -/

def hexDigits : List Char := "0123456789abcdef".toList

def hexDigit (value : Nat) : Char := hexDigits.getD value '0'

def hexValue (char : Char) : Option Nat :=
  if char.toLower ∈ hexDigits then some (hexDigits.idxOf char.toLower) else none

def readHex : List Char → Option (Nat × List Char)
  | a :: b :: c :: d :: rest => do
    let a ← hexValue a
    let b ← hexValue b
    let c ← hexValue c
    let d ← hexValue d
    return (((a * 16 + b) * 16 + c) * 16 + d, rest)
  | _ => none

/-- The code that a backslash stands for with one character. -/
def simpleEscapes : List (Char × Nat) :=
  [(quote, 0x22), (backslash, 0x5c), ('/', 0x2f), ('b', 0x8), ('f', 0xc), ('n', 0xa), ('r', 0xd), ('t', 0x9)]

/-- The code of an escape in four digits, or of two that are a surrogate pair. -/
def readUnicode (text : List Char) : Option (Nat × List Char) := do
  let (code, rest) ← readHex text
  if (0xd800 ≤ code ∧ code ≤ 0xdbff) ∧ rest.take 2 = [backslash, 'u'] then do
    let (low, after) ← readHex (rest.drop 2)
    if 0xdc00 ≤ low ∧ low ≤ 0xdfff then return (0x10000 + (code - 0xd800) * 0x400 + (low - 0xdc00), after)
    else return (code, rest)
  else return (code, rest)

def readEscape : List Char → Option (Nat × List Char)
  | [] => none
  | first :: rest =>
    if first = 'u' then readUnicode rest
    else (simpleEscapes.lookup first).map (fun code => (code, rest))

/-- The codes up to the closing quote. Control characters are refused. -/
def readString : Nat → List Char → Option (List Nat × List Char)
  | 0, _ => none
  | _, [] => none
  | fuel + 1, first :: rest =>
    if first = quote then some ([], rest)
    else if first = backslash then do
      let (code, rest) ← readEscape rest
      let (others, rest) ← readString fuel rest
      return (code :: others, rest)
    else if first.toNat < 32 then none
    else do
      let (others, rest) ← readString fuel rest
      return (first.toNat :: others, rest)

def codesOf (text : String) : List Nat := text.toList.map Char.toNat

/-- The text of codes, where none of them is half of a surrogate pair. -/
def textOf (codes : List Nat) : Option String :=
  if ∀ code ∈ codes, code.isValidChar then some (String.ofList (codes.map Char.ofNat)) else none

theorem textOf_codesOf (text : String) : textOf (codesOf text) = some text := by
  have valid : ∀ code ∈ codesOf text, code.isValidChar := by
    intro code member
    obtain ⟨char, -, rfl⟩ := List.mem_map.mp member
    exact char.valid
  have back : (codesOf text).map Char.ofNat = text.toList := by
    rw [codesOf, List.map_map]
    refine (List.map_congr_left ?_).trans (List.map_id _)
    exact fun char _ => Char.ofNat_toNat char
  rw [textOf, if_pos valid, back, String.ofList_toList]

theorem codesOf_textOf {codes : List Nat} {text : String} (spelled : textOf codes = some text) :
    codes = codesOf text := by
  unfold textOf at spelled
  split at spelled
  next valid =>
    rw [← Option.some.inj spelled, codesOf, String.toList_ofList, List.map_map]
    refine ((List.map_congr_left ?_).trans (List.map_id _)).symm
    intro code member
    have char : Char.ofNat code = Char.ofNatAux code (valid code member) := dif_pos (valid code member)
    rw [Function.comp_apply, char]
    rfl
  next => cases spelled

theorem codesOf_injective : Function.Injective codesOf := by
  intro left right same
  have texts := congrArg textOf same
  rw [textOf_codesOf, textOf_codesOf] at texts
  exact Option.some.inj texts

def escapeChar (char : Char) : List Char :=
  if char = quote then [backslash, quote]
  else if char = backslash then [backslash, backslash]
  else if char = '\n' then [backslash, 'n']
  else if char = '\x0d' then [backslash, 'r']
  else if char = '\t' then [backslash, 't']
  else if char = '\x0c' then [backslash, 'f']
  else if char = '\x08' then [backslash, 'b']
  else if char.toNat < 32 then
    [backslash, 'u', '0', '0', hexDigit (char.toNat / 16), hexDigit (char.toNat % 16)]
  else [char]

def spellString (text : String) : List Char := quote :: text.toList.flatMap escapeChar ++ [quote]

theorem hexValue_hexDigit {value : Nat} (small : value < 16) : hexValue (hexDigit value) = some value := by
  have all : ∀ value < 16, hexValue (hexDigit value) = some value := by decide
  exact all value small

theorem readEscape_control {char : Char} (control : char.toNat < 32) {rest : List Char} :
    readEscape (['u', '0', '0', hexDigit (char.toNat / 16), hexDigit (char.toNat % 16)] ++ rest) =
      some (char.toNat, rest) := by
  have high : hexValue (hexDigit (char.toNat / 16)) = some (char.toNat / 16) := hexValue_hexDigit (by omega)
  have low : hexValue (hexDigit (char.toNat % 16)) = some (char.toNat % 16) := hexValue_hexDigit (by omega)
  have zero : hexValue '0' = some 0 := by decide
  have code : char.toNat / 16 * 16 + char.toNat % 16 = char.toNat := by omega
  have plain : ¬ (0xd800 ≤ char.toNat ∧ char.toNat ≤ 0xdbff) := by omega
  simp [readEscape, readUnicode, readHex, high, low, zero, code, plain]

/-- Each character costs the reader one step, whatever stands for it. -/
theorem readString_escapeChar (fuel : Nat) (char : Char) (rest : List Char) :
    readString (fuel + 1) (escapeChar char ++ rest) =
      (readString fuel rest).map (fun read => (char.toNat :: read.1, read.2)) := by
  have escaped : ∀ code, readEscape (code ++ rest) = some (char.toNat, rest) →
      readString (fuel + 1) (backslash :: code ++ rest) =
        (readString fuel rest).map (fun read => (char.toNat :: read.1, read.2)) := by
    intro code reads
    rw [List.cons_append, readString, if_neg (by decide), if_pos rfl, reads]
    simp only [Option.bind_eq_bind, Option.bind_some]
    cases readString fuel rest <;> rfl
  by_cases quoted : char = quote
  · subst quoted
    exact escaped [quote] rfl
  by_cases slash : char = backslash
  · subst slash
    exact escaped [backslash] rfl
  by_cases newline : char = '\n'
  · subst newline
    exact escaped ['n'] rfl
  by_cases carriage : char = '\x0d'
  · subst carriage
    exact escaped ['r'] rfl
  by_cases tab : char = '\t'
  · subst tab
    exact escaped ['t'] rfl
  by_cases feed : char = '\x0c'
  · subst feed
    exact escaped ['f'] rfl
  by_cases backspace : char = '\x08'
  · subst backspace
    exact escaped ['b'] rfl
  rw [escapeChar, if_neg quoted, if_neg slash, if_neg newline, if_neg carriage, if_neg tab, if_neg feed,
    if_neg backspace]
  by_cases control : char.toNat < 32
  · rw [if_pos control]
    exact escaped ['u', '0', '0', hexDigit (char.toNat / 16), hexDigit (char.toNat % 16)] (readEscape_control control)
  · rw [if_neg control, List.singleton_append, readString, if_neg quoted, if_neg slash, if_neg control]
    cases readString fuel rest <;> rfl

theorem readString_spelled (text : List Char) {fuel : Nat} (enough : text.length < fuel) (rest : List Char) :
    readString fuel (text.flatMap escapeChar ++ quote :: rest) = some (text.map Char.toNat, rest) := by
  induction text generalizing fuel with
  | nil =>
    obtain ⟨fuel, rfl⟩ : ∃ less, fuel = less + 1 := ⟨fuel - 1, by simp only [List.length_nil] at enough; omega⟩
    rfl
  | cons char text ih =>
    rw [List.length_cons] at enough
    obtain ⟨fuel, rfl⟩ : ∃ less, fuel = less + 1 := ⟨fuel - 1, by omega⟩
    rw [List.flatMap_cons, List.append_assoc, readString_escapeChar, ih (by omega), Option.map_some,
      List.map_cons]

theorem length_flatMap_escapeChar (text : List Char) : text.length ≤ (text.flatMap escapeChar).length := by
  induction text with
  | nil => exact Nat.le_refl 0
  | cons char text ih =>
    have written : 1 ≤ (escapeChar char).length := by
      unfold escapeChar
      split_ifs <;> simp
    rw [List.flatMap_cons, List.length_append, List.length_cons]
    omega

/-- A string is read with as many steps as there are characters behind its opening quote. -/
theorem readString_spellString (text : String) (rest : List Char) : ∃ spelled,
    spellString text ++ rest = quote :: spelled ∧ readString spelled.length spelled = some (codesOf text, rest) := by
  refine ⟨text.toList.flatMap escapeChar ++ quote :: rest, ?_, ?_⟩
  · rw [spellString, List.append_assoc]
    rfl
  · apply readString_spelled
    have written := length_flatMap_escapeChar text.toList
    rw [List.length_append, List.length_cons]
    omega

end JsonText

end RatchetingInquiry
