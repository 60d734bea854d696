import RatchetingInquiry.Library.Canonical
import RatchetingInquiry.Library.Codec
import RatchetingInquiry.Library.JsonLexemes

/-! JSON values as texts: the spelling without blanks, and a reader that admits blanks. Whatever is spelled is read back
as it was, so that the spelling determines the value. Objects as dictionaries, in one order of their names. -/

namespace RatchetingInquiry

namespace JsonText

theorem skipBlanks_cons {first : Char} (printed : isBlank first = false) (rest : List Char) :
    skipBlanks (first :: rest) = first :: rest := by
  rw [skipBlanks, List.dropWhile_cons, printed]
  rfl

theorem delimited_cons {first : Char} (ends : first.isDigit = false ∧ first ≠ '.' ∧ first ≠ 'e' ∧ first ≠ 'E')
    (rest : List Char) : Delimited (first :: rest) := by
  intro char member
  rw [List.head?_cons, Option.mem_some_iff] at member
  subst member
  exact ends

theorem spellInt_begins (value : Int) : ∃ first rest, spellInt value = first :: rest ∧
    (first = '-' ∨ first.isDigit = true) := by
  cases value with
  | ofNat value =>
    obtain ⟨first, others, digits, digit⟩ := toDigits_begins value
    exact ⟨first, others, digits, .inr digit⟩
  | negSucc value => exact ⟨'-', Nat.toDigits 10 (value + 1), rfl, .inl rfl⟩

/-- A number begins unlike everything that does not. -/
theorem number_begins {first char : Char} (begins : first = '-' ∨ first.isDigit = true)
    (other : char ≠ '-' ∧ char.isDigit = false) : first ≠ char := by
  intro same
  subst same
  rcases begins with sign | digit
  · exact other.1 sign
  · exact absurd digit (by rw [other.2]; decide)

theorem not_blank {first : Char} (space : first ≠ ' ') (tab : first ≠ '\t') (newline : first ≠ '\n')
    (carriage : first ≠ '\x0d') : isBlank first = false := by
  simp [isBlank, space, tab, newline, carriage]

/-! Objects as dictionaries: the last value of each name, and the names in order. -/

section
variable {κ α : Type} [DecidableEq κ]

/-- The fields whose name no later field has. -/
def lastOfEach : List (κ × α) → List (κ × α)
  | [] => []
  | field :: rest => if field.1 ∈ rest.map Prod.fst then lastOfEach rest else field :: lastOfEach rest

theorem lastOfEach_sublist (fields : List (κ × α)) : (lastOfEach fields).Sublist fields := by
  induction fields with
  | nil => exact List.Sublist.refl []
  | cons field fields ih =>
    unfold lastOfEach
    split
    next => exact ih.cons field
    next => exact ih.cons_cons field

theorem lastOfEach_nodup (fields : List (κ × α)) : ((lastOfEach fields).map Prod.fst).Nodup := by
  induction fields with
  | nil => exact List.nodup_nil
  | cons field fields ih =>
    unfold lastOfEach
    split
    next => exact ih
    next last =>
      rw [List.map_cons, List.nodup_cons]
      exact ⟨fun later => last (((lastOfEach_sublist fields).map Prod.fst).subset later), ih⟩

theorem lastOfEach_of_nodup {fields : List (κ × α)} (distinct : (fields.map Prod.fst).Nodup) :
    lastOfEach fields = fields := by
  induction fields with
  | nil => rfl
  | cons field fields ih =>
    rw [List.map_cons, List.nodup_cons] at distinct
    rw [lastOfEach, if_neg distinct.1, ih distinct.2]

/-- Names may be spelled, and values replaced. -/
theorem lastOfEach_map {ι β : Type} [DecidableEq ι] {spelled : κ → ι} (apart : Function.Injective spelled)
    (change : α → β) (fields : List (κ × α)) :
    lastOfEach (fields.map (fun field => (spelled field.1, change field.2))) =
      (lastOfEach fields).map (fun field => (spelled field.1, change field.2)) := by
  induction fields with
  | nil => rfl
  | cons field fields ih =>
    have names : (fields.map (fun field => (spelled field.1, change field.2))).map Prod.fst =
        (fields.map Prod.fst).map spelled := by
      rw [List.map_map, List.map_map]
      rfl
    rw [List.map_cons, lastOfEach, lastOfEach, ih]
    by_cases later : field.1 ∈ fields.map Prod.fst
    · rw [if_pos later, names, if_pos (List.mem_map_of_mem later)]
    · have listed : ¬ spelled field.1 ∈ (fields.map Prod.fst).map spelled :=
        fun there => later ((List.mem_map_of_injective apart).mp there)
      rw [if_neg later, names, if_neg listed, List.map_cons]

end

mutual
/-- The value with a dictionary in place of each object. -/
def asDict : JsonValue → JsonValue
  | .list items => .list (asDictItems items)
  | .object fields => objectOf (lastOfEach (asDictFields fields))
  | value => value

def asDictItems : List JsonValue → List JsonValue
  | [] => []
  | item :: rest => asDict item :: asDictItems rest

def asDictFields : List (String × JsonValue) → List (String × JsonValue)
  | [] => []
  | (name, value) :: rest => (name, asDict value) :: asDictFields rest
end

/-- A value whose objects list their names in order, each once. -/
inductive Dictionary : JsonValue → Prop where
  | null : Dictionary .null
  | bool (value : Bool) : Dictionary (.bool value)
  | int (value : Int) : Dictionary (.int value)
  | float (negative : Bool) (magnitude : ℚ≥0) : Dictionary (.float negative magnitude)
  | text (value : String) : Dictionary (.text value)
  | list (items : List JsonValue) (each : ∀ item ∈ items, Dictionary item) : Dictionary (.list items)
  | object (fields : List (String × JsonValue)) (ordered : (fields.map Prod.fst).Pairwise (· < ·))
      (each : ∀ field ∈ fields, Dictionary field.2) : Dictionary (.object fields)

theorem asDictItems_eq_map (items : List JsonValue) : asDictItems items = items.map asDict := by
  induction items with
  | nil => rfl
  | cons item items ih => rw [asDictItems, ih, List.map_cons]

theorem asDictFields_eq_map (fields : List (String × JsonValue)) :
    asDictFields fields = fields.map (fun field => (field.1, asDict field.2)) := by
  induction fields with
  | nil => rfl
  | cons field fields ih => rw [asDictFields, ih, List.map_cons]

/-- A nested induction: lists and objects under the assumption for everything in them. -/
theorem placeInduction {motive : JsonValue → Prop} (null : motive .null) (bool : ∀ value, motive (.bool value))
    (int : ∀ value, motive (.int value)) (float : ∀ negative magnitude, motive (.float negative magnitude))
    (text : ∀ value, motive (.text value)) (list : ∀ items, (∀ item ∈ items, motive item) → motive (.list items))
    (object : ∀ fields, (∀ field ∈ fields, motive field.2) → motive (.object fields)) (value : JsonValue) :
    motive value := by
  refine @JsonValue.rec motive (fun items => ∀ item ∈ items, motive item)
    (fun fields => ∀ field ∈ fields, motive field.2) (fun field => motive field.2) null bool int float text list object
    (by simp) ?_ (by simp) ?_ (fun name value one => one) value
  · intro first rest one others item member
    rcases List.mem_cons.mp member with rfl | later
    · exact one
    · exact others item later
  · intro first rest one others field member
    rcases List.mem_cons.mp member with rfl | later
    · exact one
    · exact others field later

/-- Putting a value's objects in order and dropping repeated names leaves a dictionary everywhere. -/
theorem dictionary_asDict (value : JsonValue) : Dictionary (asDict value) := by
  induction value using placeInduction with
  | null => exact .null
  | bool value => exact .bool value
  | int value => exact .int value
  | float negative magnitude => exact .float negative magnitude
  | text value => exact .text value
  | list items ih =>
    rw [asDict, asDictItems_eq_map]
    apply Dictionary.list
    intro item member
    obtain ⟨given, there, rfl⟩ := List.mem_map.mp member
    exact ih given there
  | object fields ih =>
    rw [asDict, asDictFields_eq_map, objectOf]
    have distinct := lastOfEach_nodup (fields.map (fun field => (field.1, asDict field.2)))
    apply Dictionary.object
    · exact List.pairwise_map.mpr (insertionSort_ascending distinct)
    · intro field member
      have kept := (lastOfEach_sublist _).subset ((List.mem_insertionSort _).mp member)
      obtain ⟨given, there, rfl⟩ := List.mem_map.mp kept
      exact ih given there

theorem asDict_of_dictionary {value : JsonValue} (dictionary : Dictionary value) : asDict value = value := by
  induction dictionary with
  | null => rfl
  | bool value => rfl
  | int value => rfl
  | float negative magnitude => rfl
  | text value => rfl
  | list items each ih =>
    have unchanged : items.map asDict = items := (List.map_congr_left ih).trans (List.map_id' items)
    rw [asDict, asDictItems_eq_map, unchanged]
  | object fields ordered each ih =>
    have unchanged : fields.map (fun field => (field.1, asDict field.2)) = fields := by
      refine (List.map_congr_left ?_).trans (List.map_id' fields)
      intro field member
      exact Prod.ext rfl (ih field member)
    have total : Std.Total (fun left right : String × JsonValue => left.1 ≤ right.1) :=
      ⟨fun left right => le_total left.1 right.1⟩
    have trans : IsTrans (String × JsonValue) (fun left right => left.1 ≤ right.1) :=
      ⟨fun _ _ _ first second => le_trans first second⟩
    have sorted : fields.Pairwise (fun left right => left.1 ≤ right.1) :=
      (List.pairwise_map.mp ordered).imp (fun below => le_of_lt below)
    rw [asDict, asDictFields_eq_map, unchanged, lastOfEach_of_nodup (ordered.imp ne_of_lt), objectOf,
      List.Pairwise.insertionSort_eq sorted]

section
variable [FloatText]

mutual
/-- The text of a value, without blanks. -/
def spell : JsonValue → List Char
  | .null => "null".toList
  | .bool value => if value then "true".toList else "false".toList
  | .int value => spellInt value
  | .float negative magnitude => FloatText.spell negative magnitude
  | .text value => spellString value
  | .list items => '[' :: spellItems items
  | .object fields => openBrace :: spellFields fields

/-- The items of a list, up to its end. -/
def spellItems : List JsonValue → List Char
  | [] => [']']
  | item :: rest => spell item ++ spellLaterItems rest

def spellLaterItems : List JsonValue → List Char
  | [] => [']']
  | item :: rest => ',' :: spell item ++ spellLaterItems rest

/-- The fields of an object, up to its end. -/
def spellFields : List (String × JsonValue) → List Char
  | [] => [closeBrace]
  | (name, value) :: rest => spellString name ++ ':' :: spell value ++ spellLaterFields rest

def spellLaterFields : List (String × JsonValue) → List Char
  | [] => [closeBrace]
  | (name, value) :: rest => ',' :: spellString name ++ ':' :: spell value ++ spellLaterFields rest
end

/-- The list of the items, if each of them is a value. -/
def closeList (items : List (Option JsonValue)) : Option JsonValue := (items.mapM id).map .list

/-- A field, if its name is a text and its value is one. -/
def closeField (field : List Nat × Option JsonValue) : Option (String × JsonValue) := do
  return (← textOf field.1, ← field.2)

/-- The object of the last field of each name, if all of them are fields. -/
def closeObject (fields : List (List Nat × Option JsonValue)) : Option JsonValue :=
  ((lastOfEach fields).mapM closeField).map objectOf

mutual
/-- What a text begins with, and the text behind it. What is read is a value unless there is a number in it that no
finite float holds, or half of a surrogate pair. -/
def readValue : Nat → List Char → Option (Option JsonValue × List Char)
  | 0, _ => none
  | _, [] => none
  | fuel + 1, first :: rest =>
    if first = quote then (readString rest.length rest).map (fun read => ((textOf read.1).map .text, read.2))
    else if first = '[' then
      if (skipBlanks rest).head? = some ']' then some (some (.list []), (skipBlanks rest).tail)
      else (readItems fuel (skipBlanks rest)).map (fun read => (closeList read.1, read.2))
    else if first = openBrace then
      if (skipBlanks rest).head? = some closeBrace then some (some (.object []), (skipBlanks rest).tail)
      else (readFields fuel (skipBlanks rest)).map (fun read => (closeObject read.1, read.2))
    else if "null".toList.isPrefixOf (first :: rest) then some (some .null, (first :: rest).drop 4)
    else if "true".toList.isPrefixOf (first :: rest) then some (some (.bool true), (first :: rest).drop 4)
    else if "false".toList.isPrefixOf (first :: rest) then some (some (.bool false), (first :: rest).drop 5)
    else if "NaN".toList.isPrefixOf (first :: rest) then some (none, (first :: rest).drop 3)
    else if "Infinity".toList.isPrefixOf (first :: rest) then some (none, (first :: rest).drop 8)
    else if "-Infinity".toList.isPrefixOf (first :: rest) then some (none, (first :: rest).drop 9)
    else readNumber (first :: rest)

/-- The items up to the end of a list. -/
def readItems : Nat → List Char → Option (List (Option JsonValue) × List Char)
  | 0, _ => none
  | fuel + 1, text => do
    let (item, rest) ← readValue fuel text
    let rest := skipBlanks rest
    if rest.head? = some ']' then return ([item], rest.tail)
    else if rest.head? = some ',' then do
      let (items, rest) ← readItems fuel (skipBlanks rest.tail)
      return (item :: items, rest)
    else none

/-- The fields up to the end of an object. -/
def readFields : Nat → List Char → Option (List (List Nat × Option JsonValue) × List Char)
  | 0, _ => none
  | fuel + 1, text =>
    if text.head? = some quote then do
      let (name, rest) ← readString text.tail.length text.tail
      let rest := skipBlanks rest
      if rest.head? = some ':' then do
        let (value, rest) ← readValue fuel (skipBlanks rest.tail)
        let rest := skipBlanks rest
        if rest.head? = some closeBrace then return ([(name, value)], rest.tail)
        else if rest.head? = some ',' then do
          let (fields, rest) ← readFields fuel (skipBlanks rest.tail)
          return ((name, value) :: fields, rest)
        else none
      else none
    else none
end

/-- What a whole text gives. Each character costs at most two steps: one into a list or an object, one along it. -/
def read (text : List Char) : Option (Option JsonValue) := do
  let (value, rest) ← readValue (2 * text.length + 1) (skipBlanks text)
  if skipBlanks rest = [] then return value else none

/-! Values are read as they were spelled, with their objects as dictionaries. -/

/-- A value whose floats have a text. -/
inductive Spellable : JsonValue → Prop where
  | null : Spellable .null
  | bool (value : Bool) : Spellable (.bool value)
  | int (value : Int) : Spellable (.int value)
  | float (negative : Bool) (magnitude : ℚ≥0) (representable : FloatText.Representable magnitude) :
      Spellable (.float negative magnitude)
  | text (value : String) : Spellable (.text value)
  | list (items : List JsonValue) (each : ∀ item ∈ items, Spellable item) : Spellable (.list items)
  | object (fields : List (String × JsonValue)) (each : ∀ field ∈ fields, Spellable field.2) :
      Spellable (.object fields)

/-- The text of a value is read in two steps for each of its characters, whatever can follow it. -/
def ReadsBack (value : JsonValue) : Prop := ∀ fuel rest, 2 * (spell value).length ≤ fuel → Delimited rest →
  readValue fuel (spell value ++ rest) = some (some (asDict value), rest)

/-- A text begins with a character that is not blank and ends no list or object. -/
theorem spell_begins {value : JsonValue} (spellable : Spellable value) : ∃ first rest, spell value = first :: rest ∧
    isBlank first = false ∧ first ≠ ']' ∧ first ≠ closeBrace := by
  have number : ∀ first, first = '-' ∨ first.isDigit = true →
      isBlank first = false ∧ first ≠ ']' ∧ first ≠ closeBrace := by
    intro first begins
    refine ⟨not_blank ?_ ?_ ?_ ?_, ?_, ?_⟩
    all_goals exact number_begins begins (by decide)
  cases spellable with
  | null => exact ⟨'n', _, rfl, by decide, by decide, by decide⟩
  | bool value => cases value <;> exact ⟨_, _, rfl, by decide, by decide, by decide⟩
  | int value =>
    obtain ⟨first, rest, spelled, begins⟩ := spellInt_begins value
    exact ⟨first, rest, spelled, number first begins⟩
  | float negative magnitude representable =>
    obtain ⟨first, rest, -, -, spelled, begins, -⟩ := FloatText.spelled negative magnitude representable
    exact ⟨first, rest, spelled, number first begins⟩
  | text value => exact ⟨quote, _, rfl, by decide, by decide, by decide⟩
  | list items each => exact ⟨'[', _, rfl, by decide, by decide, by decide⟩
  | object fields each => exact ⟨openBrace, _, rfl, by decide, by decide, by decide⟩

theorem readValue_number {first : Char} (begins : first = '-' ∨ first.isDigit = true) (fuel : Nat) {rest : List Char}
    {number : Option JsonValue × List Char} (read : readNumber (first :: rest) = some number) :
    readValue (fuel + 1) (first :: rest) = some number := by
  have quoted : first ≠ quote := number_begins begins (by decide)
  have bracket : first ≠ '[' := number_begins begins (by decide)
  have brace : first ≠ openBrace := number_begins begins (by decide)
  have literal : ∀ char others, char ≠ '-' ∧ char.isDigit = false →
      ¬ (char :: others).isPrefixOf (first :: rest) = true := by
    intro char others other same
    rw [List.isPrefixOf_cons_cons, Bool.and_eq_true, beq_iff_eq] at same
    exact number_begins begins other same.1.symm
  have null : ¬ "null".toList.isPrefixOf (first :: rest) = true := literal 'n' "ull".toList (by decide)
  have yes : ¬ "true".toList.isPrefixOf (first :: rest) = true := literal 't' "rue".toList (by decide)
  have no : ¬ "false".toList.isPrefixOf (first :: rest) = true := literal 'f' "alse".toList (by decide)
  have nan : ¬ "NaN".toList.isPrefixOf (first :: rest) = true := literal 'N' "aN".toList (by decide)
  have infinity : ¬ "Infinity".toList.isPrefixOf (first :: rest) = true := literal 'I' "nfinity".toList (by decide)
  -- The word for the negative infinity is no number.
  have negative : ¬ "-Infinity".toList.isPrefixOf (first :: rest) = true := by
    intro word
    obtain ⟨behind, same⟩ := List.isPrefixOf_iff_prefix.mp word
    have none_ : readNumber ("-Infinity".toList ++ behind) = none := rfl
    rw [same, read] at none_
    cases none_
  rw [readValue, if_neg quoted, if_neg bracket, if_neg brace, if_neg null, if_neg yes, if_neg no, if_neg nan,
    if_neg infinity, if_neg negative, read]

theorem readItems_last {fuel : Nat} {text rest : List Char} {item : Option JsonValue}
    (read : readValue fuel text = some (item, ']' :: rest)) : readItems (fuel + 1) text = some ([item], rest) := by
  rw [readItems, read]
  rfl

theorem readItems_next {fuel : Nat} {text next : List Char} {item : Option JsonValue}
    (read : readValue fuel text = some (item, ',' :: next)) : readItems (fuel + 1) text =
      (readItems fuel (skipBlanks next)).map (fun read => (item :: read.1, read.2)) := by
  have comma : skipBlanks (',' :: next) = ',' :: next := skipBlanks_cons (by decide) next
  rw [readItems, read]
  simp only [Option.bind_eq_bind, Option.bind_some, comma, List.head?_cons, List.tail_cons]
  rw [if_neg (by decide), if_pos trivial]
  cases readItems fuel (skipBlanks next) <;> rfl

/-- A name and its colon are passed. -/
theorem readFields_name (fuel : Nat) (name : String) {text : List Char} (unblank : skipBlanks text = text) :
    readFields (fuel + 1) (spellString name ++ ':' :: text) = (do
      let (value, rest) ← readValue fuel text
      let rest := skipBlanks rest
      if rest.head? = some closeBrace then return ([(codesOf name, value)], rest.tail)
      else if rest.head? = some ',' then do
        let (fields, rest) ← readFields fuel (skipBlanks rest.tail)
        return ((codesOf name, value) :: fields, rest)
      else none) := by
  obtain ⟨spelled, begins, named⟩ := readString_spellString name (':' :: text)
  have colon : skipBlanks (':' :: text) = ':' :: text := skipBlanks_cons (by decide) text
  rw [begins, readFields, List.head?_cons, if_pos rfl, List.tail_cons, named]
  simp only [Option.bind_eq_bind, Option.bind_some, colon, List.head?_cons, List.tail_cons, unblank]
  rw [if_pos trivial]

theorem readFields_last {fuel : Nat} {text rest : List Char} {name : String} {value : Option JsonValue}
    (read : readValue fuel text = some (value, closeBrace :: rest)) (unblank : skipBlanks text = text) :
    readFields (fuel + 1) (spellString name ++ ':' :: text) = some ([(codesOf name, value)], rest) := by
  rw [readFields_name fuel name unblank, read]
  rfl

theorem readFields_next {fuel : Nat} {text next : List Char} {name : String} {value : Option JsonValue}
    (read : readValue fuel text = some (value, ',' :: next)) (unblank : skipBlanks text = text) :
    readFields (fuel + 1) (spellString name ++ ':' :: text) =
      (readFields fuel (skipBlanks next)).map (fun read => ((codesOf name, value) :: read.1, read.2)) := by
  have comma : skipBlanks (',' :: next) = ',' :: next := skipBlanks_cons (by decide) next
  rw [readFields_name fuel name unblank, read]
  simp only [Option.bind_eq_bind, Option.bind_some, comma, List.head?_cons, List.tail_cons]
  rw [if_neg (by decide), if_pos trivial]
  cases readFields fuel (skipBlanks next) <;> rfl

theorem unblank_spell {value : JsonValue} (spellable : Spellable value) (rest : List Char) :
    skipBlanks (spell value ++ rest) = spell value ++ rest := by
  obtain ⟨first, others, spelled, printed, -⟩ := spell_begins spellable
  rw [spelled]
  exact skipBlanks_cons printed _

/-- What follows an item is read in two steps for each character. -/
theorem readItems_spelled {item : JsonValue} {items : List JsonValue} (each : ∀ other ∈ item :: items,
    Spellable other ∧ ReadsBack other) (fuel : Nat)
    (enough : 2 * (spell item ++ spellLaterItems items).length < fuel) (rest : List Char) :
    readItems fuel (spell item ++ (spellLaterItems items ++ rest)) =
      some ((item :: items).map (fun other => some (asDict other)), rest) := by
  induction items generalizing item fuel with
  | nil =>
    obtain ⟨fuel, rfl⟩ : ∃ less, fuel = less + 1 := ⟨fuel - 1, by omega⟩
    rw [List.length_append] at enough
    have read := (each item List.mem_cons_self).2 fuel (']' :: rest) (by omega) (delimited_cons (by decide) rest)
    exact readItems_last read
  | cons next items ih =>
    obtain ⟨fuel, rfl⟩ : ∃ less, fuel = less + 1 := ⟨fuel - 1, by omega⟩
    rw [spellLaterItems, List.cons_append, List.length_append, List.length_cons] at enough
    have tail : ∀ other ∈ next :: items, Spellable other ∧ ReadsBack other :=
      fun other member => each other (List.mem_cons_of_mem _ member)
    have read := (each item List.mem_cons_self).2 fuel (',' :: (spell next ++ (spellLaterItems items ++ rest)))
      (by omega) (delimited_cons (by decide) _)
    rw [spellLaterItems, List.cons_append, List.cons_append, List.append_assoc, readItems_next read,
      unblank_spell (tail next List.mem_cons_self).1, ih tail fuel (by omega)]
    rfl

/-- What follows a field is read in two steps for each character. -/
theorem readFields_spelled {name : String} {value : JsonValue} {fields : List (String × JsonValue)}
    (each : ∀ other ∈ (name, value) :: fields, Spellable other.2 ∧ ReadsBack other.2) (fuel : Nat)
    (enough : 2 * (spellString name ++ ':' :: (spell value ++ spellLaterFields fields)).length < fuel)
    (rest : List Char) :
    readFields fuel (spellString name ++ ':' :: (spell value ++ (spellLaterFields fields ++ rest))) =
      some (((name, value) :: fields).map (fun field => (codesOf field.1, some (asDict field.2))), rest) := by
  induction fields generalizing name value fuel with
  | nil =>
    obtain ⟨fuel, rfl⟩ : ∃ less, fuel = less + 1 := ⟨fuel - 1, by omega⟩
    rw [List.length_append, List.length_cons, List.length_append] at enough
    obtain ⟨spellable, readsBack⟩ := each (name, value) List.mem_cons_self
    exact readFields_last (readsBack fuel (closeBrace :: rest) (by dsimp only; omega) (delimited_cons (by decide) rest))
      (unblank_spell spellable _)
  | cons next fields ih =>
    obtain ⟨fuel, rfl⟩ : ∃ less, fuel = less + 1 := ⟨fuel - 1, by omega⟩
    obtain ⟨spellable, readsBack⟩ := each (name, value) List.mem_cons_self
    obtain ⟨nextName, nextValue⟩ := next
    have listed : spellLaterFields ((nextName, nextValue) :: fields) =
        ',' :: (spellString nextName ++ ':' :: (spell nextValue ++ spellLaterFields fields)) := by
      rw [spellLaterFields, List.cons_append, List.cons_append, List.append_assoc, List.cons_append]
    have tail : ∀ other ∈ (nextName, nextValue) :: fields, Spellable other.2 ∧ ReadsBack other.2 :=
      fun other member => each other (List.mem_cons_of_mem _ member)
    rw [listed, List.length_append, List.length_cons, List.length_append, List.length_cons] at enough
    have read := readsBack fuel
      (',' :: (spellString nextName ++ ':' :: (spell nextValue ++ (spellLaterFields fields ++ rest))))
      (by dsimp only; omega) (delimited_cons (by decide) _)
    have printed : skipBlanks (spellString nextName ++ ':' :: (spell nextValue ++ (spellLaterFields fields ++ rest))) =
        spellString nextName ++ ':' :: (spell nextValue ++ (spellLaterFields fields ++ rest)) :=
      skipBlanks_cons (by decide) _
    rw [listed, List.cons_append, List.append_assoc, List.cons_append, List.append_assoc,
      readFields_next read (unblank_spell spellable _), printed, ih tail fuel (by omega)]
    rfl

omit [FloatText] in
theorem closeList_dicts (items : List JsonValue) :
    closeList (items.map (fun item => some (asDict item))) = some (asDict (.list items)) := by
  have given : ∀ item, id (some (asDict item)) = some (asDict item) := fun _ => rfl
  rw [closeList, mapM_reads given, Option.map_some, asDict, asDictItems_eq_map]

omit [FloatText] in
theorem closeObject_dicts (fields : List (String × JsonValue)) :
    closeObject (fields.map (fun field => (codesOf field.1, some (asDict field.2)))) =
      some (asDict (.object fields)) := by
  have closes : ∀ field : String × JsonValue,
      closeField (codesOf field.1, some (asDict field.2)) = some (field.1, asDict field.2) := by
    intro field
    rw [closeField, textOf_codesOf]
    rfl
  have spelled := lastOfEach_map codesOf_injective (fun value => some (asDict value)) fields
  have kept := lastOfEach_map Function.injective_id asDict fields
  rw [closeObject, spelled, mapM_reads closes, Option.map_some, asDict, asDictFields_eq_map]
  exact congrArg (fun fields => some (objectOf fields)) kept.symm

/-- There is a first step, because no text is empty. -/
theorem readsBack_of_step {value : JsonValue} (spellable : Spellable value)
    (step : ∀ fuel rest, 2 * (spell value).length ≤ fuel + 1 → Delimited rest →
      readValue (fuel + 1) (spell value ++ rest) = some (some (asDict value), rest)) : ReadsBack value := by
  intro fuel rest enough delimited
  obtain ⟨first, others, spelled, -⟩ := spell_begins spellable
  obtain ⟨fuel, rfl⟩ : ∃ less, fuel = less + 1 := ⟨fuel - 1, by rw [spelled, List.length_cons] at enough; omega⟩
  exact step fuel rest enough delimited

/-- Every value is read back from its text. -/
theorem readsBack_spellable {value : JsonValue} (spellable : Spellable value) : ReadsBack value := by
  induction spellable with
  | null => exact readsBack_of_step .null (fun fuel rest enough delimited => rfl)
  | bool value =>
    apply readsBack_of_step (.bool value)
    intro fuel rest enough delimited
    cases value <;> rfl
  | int value =>
    apply readsBack_of_step (.int value)
    intro fuel rest enough delimited
    obtain ⟨first, others, spelled, begins⟩ := spellInt_begins value
    have read := readNumber_spellInt value delimited
    rw [spelled] at read
    rw [spell, spelled]
    exact readValue_number begins fuel read
  | float negative magnitude representable =>
    apply readsBack_of_step (.float negative magnitude representable)
    intro fuel rest enough delimited
    obtain ⟨first, others, -, -, spelled, begins, -⟩ := FloatText.spelled negative magnitude representable
    have read := readNumber_spellFloat negative representable delimited
    rw [spelled] at read
    rw [spell, spelled]
    exact readValue_number begins fuel read
  | text value =>
    apply readsBack_of_step (.text value)
    intro fuel rest enough delimited
    obtain ⟨spelled, begins, read⟩ := readString_spellString value rest
    rw [spell, begins, readValue, if_pos rfl, read, Option.map_some, textOf_codesOf]
    rfl
  | list items each ih =>
    apply readsBack_of_step (.list items each)
    intro fuel rest enough delimited
    cases items with
    | nil => rfl
    | cons item items =>
      obtain ⟨first, others, spelled, printed, goesOn, -⟩ := spell_begins (each item List.mem_cons_self)
      have unblank := unblank_spell (each item List.mem_cons_self) (spellLaterItems items ++ rest)
      have read := readItems_spelled (fun other member => ⟨each other member, ih other member⟩) fuel
        (by rw [spell, spellItems, List.length_cons] at enough; omega) rest
      rw [spell, spellItems, List.cons_append, List.append_assoc, readValue, if_neg (by decide), if_pos rfl, unblank,
        if_neg (by rw [spelled]; simpa using goesOn), read, Option.map_some, closeList_dicts]
  | object fields each ih =>
    apply readsBack_of_step (.object fields each)
    intro fuel rest enough delimited
    cases fields with
    | nil => rfl
    | cons field fields =>
      obtain ⟨name, value⟩ := field
      have listed : spell (.object ((name, value) :: fields)) =
          openBrace :: (spellString name ++ ':' :: (spell value ++ spellLaterFields fields)) := by
        rw [spell, spellFields, List.append_assoc, List.cons_append]
      have unblank : skipBlanks (spellString name ++ ':' :: (spell value ++ (spellLaterFields fields ++ rest))) =
          spellString name ++ ':' :: (spell value ++ (spellLaterFields fields ++ rest)) := skipBlanks_cons (by decide) _
      have quoted : (spellString name ++ ':' :: (spell value ++ (spellLaterFields fields ++ rest))).head? =
          some quote := rfl
      have read := readFields_spelled (fun other member => ⟨each other member, ih other member⟩) fuel
        (by rw [listed, List.length_cons] at enough; omega) rest
      rw [listed, List.cons_append, List.append_assoc, List.cons_append, List.append_assoc, readValue,
        if_neg (by decide), if_neg (by decide), if_pos rfl, unblank, if_neg (by rw [quoted]; decide), read,
        Option.map_some, closeObject_dicts]

theorem read_spell {value : JsonValue} (spellable : Spellable value) :
    read (spell value) = some (some (asDict value)) := by
  have unblank := unblank_spell spellable []
  have back := readsBack_spellable spellable (2 * (spell value).length + 1) [] (by omega)
    (fun char none => nomatch none)
  rw [List.append_nil] at unblank back
  rw [read, unblank, back]
  rfl

/-! Only spellable values are read, with their objects as dictionaries. -/

/-- What can be loaded as a value. -/
structure Loadable (value : JsonValue) : Prop where
  spellable : Spellable value
  dictionary : Dictionary value

/-- What the readers of values, items and fields return with the given fuel can be loaded. -/
structure ReadsLoadable (fuel : Nat) : Prop where
  value : ∀ text value rest, readValue fuel text = some (some value, rest) → Loadable value
  items : ∀ text items rest, readItems fuel text = some (items, rest) → ∀ item, some item ∈ items → Loadable item
  fields : ∀ text fields rest, readFields fuel text = some (fields, rest) →
    ∀ name value, (name, some value) ∈ fields → Loadable value

omit [FloatText] in
/-- What a loop over options gives comes from its items. -/
theorem of_mapM_eq_some {α β : Type} {step : α → Option β} {items : List α} {results : List β}
    (all : items.mapM step = some results) :
    (∀ result ∈ results, ∃ item ∈ items, step item = some result) ∧
    ∀ {γ : Type} (before : α → γ) (after : β → γ),
      (∀ item result, step item = some result → before item = after result) → items.map before = results.map after := by
  induction items generalizing results with
  | nil =>
    obtain rfl := Option.some.inj all
    exact ⟨fun _ none => (nomatch none), fun _ _ _ => rfl⟩
  | cons item rest ih =>
    rw [List.mapM_cons] at all
    simp only [Option.bind_eq_bind, Option.bind_eq_some_iff, pure, Option.some.injEq] at all
    obtain ⟨first, made, others, later, rfl⟩ := all
    obtain ⟨sources, images⟩ := ih later
    constructor
    · intro result member
      rcases List.mem_cons.mp member with rfl | member
      · exact ⟨item, List.mem_cons_self, made⟩
      · obtain ⟨source, listed, same⟩ := sources result member
        exact ⟨source, List.mem_cons_of_mem _ listed, same⟩
    · intro γ before after agree
      rw [List.map_cons, List.map_cons, agree item first made, images before after agree]

theorem closeList_loadable {items : List (Option JsonValue)} {value : JsonValue} (closed : closeList items = some value)
    (each : ∀ item, some item ∈ items → Loadable item) : Loadable value := by
  unfold closeList at closed
  rw [Option.map_eq_some_iff] at closed
  obtain ⟨values, all, rfl⟩ := closed
  have loadable : ∀ item ∈ values, Loadable item := by
    intro item member
    obtain ⟨given, listed, same⟩ := (of_mapM_eq_some all).1 item member
    exact each item (same ▸ listed)
  exact ⟨.list _ (fun item member => (loadable item member).spellable),
    .list _ (fun item member => (loadable item member).dictionary)⟩

theorem closeObject_loadable {fields : List (List Nat × Option JsonValue)} {value : JsonValue}
    (closed : closeObject fields = some value)
    (each : ∀ name value, (name, some value) ∈ fields → Loadable value) : Loadable value := by
  unfold closeObject at closed
  rw [Option.map_eq_some_iff] at closed
  obtain ⟨kept, all, rfl⟩ := closed
  obtain ⟨sources, images⟩ := of_mapM_eq_some all
  have loadable : ∀ field ∈ kept, Loadable field.2 := by
    intro field member
    obtain ⟨given, listed, same⟩ := sources field member
    unfold closeField at same
    simp only [Option.bind_eq_bind, Option.bind_eq_some_iff, pure, Option.some.injEq] at same
    obtain ⟨name, -, value, held, rfl⟩ := same
    refine each given.1 value ?_
    rw [← held]
    exact (lastOfEach_sublist fields).subset listed
  have names := images Prod.fst (fun field => codesOf field.1) (by
    intro given field same
    unfold closeField at same
    simp only [Option.bind_eq_bind, Option.bind_eq_some_iff, pure, Option.some.injEq] at same
    obtain ⟨name, spelled, value, -, rfl⟩ := same
    exact codesOf_textOf spelled)
  have distinct : (kept.map Prod.fst).Nodup := by
    have codes := lastOfEach_nodup fields
    have twice : kept.map (fun field => codesOf field.1) = (kept.map Prod.fst).map codesOf := by
      rw [List.map_map]
      rfl
    rw [names, twice] at codes
    exact codes.of_map
  refine ⟨.object _ ?_, .object _ ?_ ?_⟩
  · exact fun field member => (loadable field ((List.mem_insertionSort _).mp member)).spellable
  · exact List.pairwise_map.mpr (insertionSort_ascending distinct)
  · exact fun field member => (loadable field ((List.mem_insertionSort _).mp member)).dictionary

theorem loadable_of_map {α : Type} {found : Option α} {built : α → Option JsonValue × List Char} {value : JsonValue}
    {rest : List Char} (each : ∀ one, found = some one → (built one).1 = some value → Loadable value)
    (read : found.map built = some (some value, rest)) : Loadable value := by
  rw [Option.map_eq_some_iff] at read
  obtain ⟨one, hit, same⟩ := read
  exact each one hit (congrArg Prod.fst same)

theorem loadable_of_some {built value : JsonValue} {behind rest : List Char} (loadable : Loadable built)
    (read : some (some built, behind) = some (some value, rest)) : Loadable value := by
  rw [Option.some.injEq, Prod.mk.injEq, Option.some.injEq] at read
  exact read.1 ▸ loadable

theorem readNumber_loadable {text rest : List Char} {value : JsonValue}
    (read : readNumber text = some (some value, rest)) : Loadable value := by
  unfold readNumber at read
  dsimp only at read
  split at read
  next => exact absurd read (by simp)
  next =>
    split at read
    next => exact loadable_of_some ⟨.int _, .int _⟩ read
    next =>
      rw [Option.some.injEq, Prod.mk.injEq, Option.map_eq_some_iff] at read
      obtain ⟨⟨float, hit, rfl⟩, -⟩ := read
      exact ⟨.float _ _ (FloatText.read_representable _ _ _ _ hit), .float _ _⟩

/-- The words for floats that are no numbers give no value. -/
theorem loadable_of_constant {text : List Char} {value : JsonValue} {rest : List Char}
    (read : (if "NaN".toList.isPrefixOf text then some (none, text.drop 3)
      else if "Infinity".toList.isPrefixOf text then some (none, text.drop 8)
      else if "-Infinity".toList.isPrefixOf text then some (none, text.drop 9)
      else readNumber text) = some (some value, rest)) : Loadable value := by
  split_ifs at read
  · cases read
  · cases read
  · cases read
  · exact readNumber_loadable read

theorem reads_loadable (fuel : Nat) : ReadsLoadable fuel := by
  induction fuel with
  | zero =>
    constructor
    all_goals intro text value rest read; exact absurd read (by simp [readValue, readItems, readFields])
  | succ fuel ih =>
    constructor
    · intro text value rest read
      cases text with
      | nil => exact absurd read (by simp [readValue])
      | cons first tail =>
        rw [readValue] at read
        split at read
        next =>
          refine loadable_of_map ?_ read
          intro one hit same
          obtain ⟨text, -, rfl⟩ := Option.map_eq_some_iff.mp same
          exact ⟨.text _, .text _⟩
        next =>
          split at read
          next =>
            split at read
            next =>
              exact loadable_of_some ⟨.list [] (fun item none => nomatch none),
                .list [] (fun item none => nomatch none)⟩ read
            next => exact loadable_of_map (fun one hit same => closeList_loadable same (ih.items _ _ one.2 hit)) read
          next =>
            split at read
            next =>
              split at read
              next =>
                exact loadable_of_some ⟨.object [] (fun field none => nomatch none),
                  .object [] List.Pairwise.nil (fun field none => nomatch none)⟩ read
              next =>
                exact loadable_of_map (fun one hit same => closeObject_loadable same (ih.fields _ _ one.2 hit)) read
            next =>
              split at read
              next => exact loadable_of_some ⟨.null, .null⟩ read
              next =>
                split at read
                next => exact loadable_of_some ⟨.bool true, .bool true⟩ read
                next =>
                  split at read
                  next => exact loadable_of_some ⟨.bool false, .bool false⟩ read
                  next => exact loadable_of_constant read
    · intro text items rest read
      rw [readItems] at read
      simp only [Option.bind_eq_bind, Option.bind_eq_some_iff] at read
      obtain ⟨item, first, read⟩ := read
      have loadable : ∀ value, item.1 = some value → Loadable value := by
        intro value same
        exact ih.value text value item.2 (first.trans (congrArg some (Prod.ext same rfl)))
      split at read
      next =>
        simp only [pure, Option.some.injEq, Prod.mk.injEq] at read
        rw [← read.1]
        intro other member
        exact loadable other (List.mem_singleton.mp member).symm
      next =>
        split at read
        next =>
          simp only [Option.bind_eq_some_iff, pure, Option.some.injEq, Prod.mk.injEq] at read
          obtain ⟨later, others, same, -⟩ := read
          rw [← same]
          intro other member
          rcases List.mem_cons.mp member with here | member
          · exact loadable other here.symm
          · exact ih.items _ _ later.2 others other member
        next => exact absurd read (by simp)
    · intro text fields rest read
      rw [readFields] at read
      split at read
      next =>
        simp only [Option.bind_eq_bind, Option.bind_eq_some_iff] at read
        obtain ⟨name, -, read⟩ := read
        split at read
        next =>
          simp only [Option.bind_eq_some_iff] at read
          obtain ⟨given, first, read⟩ := read
          have loadable : ∀ value, given.1 = some value → Loadable value := by
            intro value same
            exact ih.value _ value given.2 (first.trans (congrArg some (Prod.ext same rfl)))
          split at read
          next =>
            simp only [pure, Option.some.injEq, Prod.mk.injEq] at read
            rw [← read.1]
            intro called value member
            exact loadable value (Prod.mk.inj (List.mem_singleton.mp member)).2.symm
          next =>
            split at read
            next =>
              simp only [Option.bind_eq_some_iff, pure, Option.some.injEq, Prod.mk.injEq] at read
              obtain ⟨later, others, same, -⟩ := read
              rw [← same]
              intro called value member
              rcases List.mem_cons.mp member with here | member
              · exact loadable value (Prod.mk.inj here).2.symm
              · exact ih.fields _ _ later.2 others called value member
            next => exact absurd read (by simp)
        next => exact absurd read (by simp)
      next => exact absurd read (by simp)

theorem read_loadable {text : List Char} {value : JsonValue} (found : read text = some (some value)) :
    Loadable value := by
  unfold read at found
  simp only [Option.bind_eq_bind, Option.bind_eq_some_iff] at found
  obtain ⟨whole, first, found⟩ := found
  split at found
  next =>
    have same := Option.some.inj found
    exact (reads_loadable _).value _ value whole.2 (first.trans (congrArg some (Prod.ext same rfl)))
  next => cases found

/-- Equal texts are equal values, up to the order of names and to names that a later field has. -/
theorem spell_dicts {left right : JsonValue} (spellableLeft : Spellable left) (spellableRight : Spellable right)
    (same : spell left = spell right) : asDict left = asDict right := by
  have back := read_spell spellableLeft
  rw [same, read_spell spellableRight] at back
  exact (Option.some.inj (Option.some.inj back)).symm

theorem spellable_asDict {value : JsonValue} (spellable : Spellable value) : Spellable (asDict value) := by
  induction spellable with
  | null => exact .null
  | bool value => exact .bool value
  | int value => exact .int value
  | float negative magnitude representable => exact .float negative magnitude representable
  | text value => exact .text value
  | list items each ih =>
    rw [asDict, asDictItems_eq_map]
    apply Spellable.list
    intro item member
    obtain ⟨given, there, rfl⟩ := List.mem_map.mp member
    exact ih given there
  | object fields each ih =>
    rw [asDict, asDictFields_eq_map, objectOf]
    apply Spellable.object
    intro field member
    have kept := (lastOfEach_sublist _).subset ((List.mem_insertionSort _).mp member)
    obtain ⟨given, there, rfl⟩ := List.mem_map.mp kept
    exact ih given there

end

end JsonText

end RatchetingInquiry
