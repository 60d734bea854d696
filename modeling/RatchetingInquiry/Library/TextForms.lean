import Mathlib.Data.List.Infix

/-! Text as Python's `str` takes it apart and compares it: lower case, the parts around a separator, and the spellings
of an integer in base sixteen. -/

namespace RatchetingInquiry

/-- The lower case of a character. Of those beyond ASCII only the Kelvin sign and the capital I with a dot have an ASCII
letter in theirs; the others are left alone, which no comparison with ASCII text tells. -/
def lowerChar (char : Char) : List Char :=
  if char = '\u212a' then ['k'] else if char = '\u0130' then ['i', '\u0307'] else [char.toLower]

def lower (text : List Char) : List Char := text.flatMap lowerChar

/-- `str.rpartition`: what lies before and behind the last occurrence of a separator. -/
def rpartition (separator : List Char) : List Char → Option (List Char × List Char)
  | [] => none
  | first :: rest =>
    match rpartition separator rest with
    | some (front, back) => some (first :: front, back)
    | none => if separator <+: first :: rest then some ([], (first :: rest).drop separator.length) else none

/-- The parts around a separator make up the text. -/
theorem rpartition_eq_some {separator text front back : List Char}
    (parted : rpartition separator text = some (front, back)) : text = front ++ separator ++ back := by
  induction text generalizing front with
  | nil => cases parted
  | cons first rest ih =>
    unfold rpartition at parted
    split at parted
    next later found_ =>
      cases parted
      rw [ih found_, List.cons_append, List.cons_append]
    next =>
      split at parted
      next lead =>
        cases parted
        exact List.prefix_append_drop lead
      next => cases parted

/-- The zeros of Unicode 15, each of which is followed by its nine digits. -/
def decimalZeros : List Nat := [
  0x30, 0x660, 0x6f0, 0x7c0, 0x966, 0x9e6, 0xa66, 0xae6, 0xb66, 0xbe6, 0xc66, 0xce6, 0xd66, 0xde6, 0xe50, 0xed0, 0xf20,
  0x1040, 0x1090, 0x17e0, 0x1810, 0x1946, 0x19d0, 0x1a80, 0x1a90, 0x1b50, 0x1bb0, 0x1c40, 0x1c50, 0xa620, 0xa8d0,
  0xa900, 0xa9d0, 0xa9f0, 0xaa50, 0xabf0, 0xff10, 0x104a0, 0x10d30, 0x11066, 0x110f0, 0x11136, 0x111d0, 0x112f0,
  0x11450, 0x114d0, 0x11650, 0x116c0, 0x11730, 0x118e0, 0x11950, 0x11c50, 0x11d50, 0x11da0, 0x11f50, 0x16a60, 0x16ac0,
  0x16b50, 0x1d7ce, 0x1d7d8, 0x1d7e2, 0x1d7ec, 0x1d7f6, 0x1e140, 0x1e2f0, 0x1e4f0, 0x1e950, 0x1fbf0]

/-- The white space of Unicode beyond ASCII. -/
def wideSpaces : List Nat := [
  0x85, 0xa0, 0x1680, 0x2000, 0x2001, 0x2002, 0x2003, 0x2004, 0x2005, 0x2006, 0x2007, 0x2008, 0x2009, 0x200a, 0x2028,
  0x2029, 0x202f, 0x205f, 0x3000]

/-- White space and decimal digits as those of ASCII. -/
def asciiForm (char : Char) : Char :=
  if char.toNat < 128 then char
  else if char.toNat ∈ wideSpaces then ' '
  else
    match decimalZeros.find? (fun first => first ≤ char.toNat ∧ char.toNat < first + 10) with
    | some first => Char.ofNat (0x30 + (char.toNat - first))
    | none => char

/-- The white space that a number may stand in. -/
def isNumberSpace (char : Char) : Bool := char = ' ' || (0x9 ≤ char.toNat && char.toNat ≤ 0xd)

def isHexDigit (char : Char) : Bool :=
  char.isDigit || ('a' ≤ char && char ≤ 'f') || ('A' ≤ char && char ≤ 'F')

/-- Digits with single underscores between them, after a digit or not. -/
def hexDigitsFrom : Bool → List Char → Bool
  | digit, [] => digit
  | digit, char :: rest =>
    if char = '_' then digit && hexDigitsFrom false rest else isHexDigit char && hexDigitsFrom true rest

/-- What may follow the sign of a number. -/
def isUnsignedHex : List Char → Bool
  | '0' :: 'x' :: '_' :: rest => hexDigitsFrom false rest
  | '0' :: 'X' :: '_' :: rest => hexDigitsFrom false rest
  | '0' :: 'x' :: rest => hexDigitsFrom false rest
  | '0' :: 'X' :: rest => hexDigitsFrom false rest
  | digits => hexDigitsFrom false digits

/-- `int(text, 16)` raises nothing. -/
def isHexInteger (text : List Char) : Bool :=
  match (((text.map asciiForm).dropWhile isNumberSpace).reverse.dropWhile isNumberSpace).reverse with
  | '+' :: rest => isUnsignedHex rest
  | '-' :: rest => isUnsignedHex rest
  | unsigned => isUnsignedHex unsigned

end RatchetingInquiry
