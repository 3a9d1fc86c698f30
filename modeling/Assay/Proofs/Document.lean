import Assay.Tally.Reading
import Mathlib

/-!
# A document loses nothing

The grammar of JSON, for values with whole numbers, as far as the printer needs it. What is
printed is in the grammar, and the reader takes each text of the grammar for the value that it
spells. So the document of a tally is read back as this tally, with its outcome, and two tallies
never share a document.
-/

namespace Assay

namespace Json

/-! ## The grammar -/

def Blank (chars : List Char) : Prop :=
  ∀ char ∈ chars, isBlank char = true

/-- Digits of a whole number, without leading zeros. -/
structure Digits (digits : List Char) : Prop where
  digit : ∀ digit ∈ digits, digit.isDigit = true
  nonempty : digits ≠ []
  lead : 1 < digits.length → digits.head? ≠ some '0'

/-- Characters between quotes, and the text that they spell. -/
inductive Inside : List Char → List Char → Prop where
  | nil : Inside [] []
  | plain {char chars text} (shown : 0x20 ≤ char.toNat) (quote : char ≠ '"')
      (escape : char ≠ '\\') (rest : Inside chars text) : Inside (char :: chars) (char :: text)
  | letter {letter char chars text} (means : unescape? letter = some char)
      (rest : Inside chars text) : Inside ('\\' :: letter :: chars) (char :: text)
  | code {first second third fourth chars text} {a b c d : Nat}
      (digits : [first, second, third, fourth].map hexValue? = [some a, some b, some c, some d])
      (single : a * 4096 + b * 256 + c * 16 + d < 0xD800) (rest : Inside chars text) :
      Inside ('\\' :: 'u' :: first :: second :: third :: fourth :: chars)
        (Char.ofNat (a * 4096 + b * 256 + c * 16 + d) :: text)

inductive Part where
  | value (value : Json)
  | items (items : List Json)
  | fields (fields : List (String × Json))

/-- Characters that spell a value, or what stands between the brackets of an array or an object
that is not empty. -/
inductive Spelled : Part → List Char → Prop where
  | null : Spelled (.value .null) "null".toList
  | isTrue : Spelled (.value (.bool true)) "true".toList
  | isFalse : Spelled (.value (.bool false)) "false".toList
  | natural {digits} (number : Digits digits) :
      Spelled (.value (.number (Nat.ofDigitChars 10 digits 0))) digits
  | negative {digits} (number : Digits digits) :
      Spelled (.value (.number (-(Nat.ofDigitChars 10 digits 0 : Int)))) ('-' :: digits)
  | string {text chars} (inside : Inside chars text) :
      Spelled (.value (.string (String.ofList text))) ('"' :: chars ++ ['"'])
  | noItems {blanks} (blank : Blank blanks) :
      Spelled (.value (.array [])) ('[' :: blanks ++ [']'])
  | array {items chars} (inside : Spelled (.items items) chars) :
      Spelled (.value (.array items)) ('[' :: chars ++ [']'])
  | noFields {blanks} (blank : Blank blanks) :
      Spelled (.value (.object [])) ('\x7b' :: blanks ++ ['\x7d'])
  | object {fields chars} (inside : Spelled (.fields fields) chars) :
      Spelled (.value (.object fields)) ('\x7b' :: chars ++ ['\x7d'])
  | lastItem {item chars before after} (blank : Blank before) (value : Spelled (.value item) chars)
      (blank' : Blank after) : Spelled (.items [item]) (before ++ chars ++ after)
  | item {item items chars rest before after} (blank : Blank before)
      (value : Spelled (.value item) chars) (blank' : Blank after)
      (later : Spelled (.items items) rest) :
      Spelled (.items (item :: items)) (before ++ chars ++ after ++ ',' :: rest)
  | lastField {key item name chars before between after} (blank : Blank before)
      (inside : Inside name key) (blank' : Blank between) (value : Spelled (.value item) chars)
      (blank'' : Blank after) :
      Spelled (.fields [(String.ofList key, item)])
        (before ++ '"' :: name ++ '"' :: ':' :: between ++ chars ++ after)
  | field {key item fields name chars rest before between after} (blank : Blank before)
      (inside : Inside name key) (blank' : Blank between) (value : Spelled (.value item) chars)
      (blank'' : Blank after) (later : Spelled (.fields fields) rest) :
      Spelled (.fields ((String.ofList key, item) :: fields))
        (before ++ '"' :: name ++ '"' :: ':' :: between ++ chars ++ after ++ ',' :: rest)

/-! ## Reading what is in the grammar -/

variable {char sign : Char} {blanks digits chars text before after rest : List Char} {value : Json}

theorem skipBlanks_append (blank : Blank blanks) (chars : List Char) :
    skipBlanks (blanks ++ chars) = skipBlanks chars :=
  List.dropWhile_append_of_pos blank

theorem skipBlanks_cons (shown : isBlank char = false) (chars : List Char) :
    skipBlanks (char :: chars) = char :: chars := by
  simp [skipBlanks, shown]

theorem skipBlanks_sign (blank : Blank blanks) (shown : isBlank sign = false) (rest : List Char) :
    skipBlanks (blanks ++ sign :: rest) = sign :: rest := by
  rw [skipBlanks_append blank, skipBlanks_cons shown]

/-- What follows a number, so that it is not longer. -/
def Ends (rest : List Char) : Prop :=
  ∀ char ∈ rest.head?, char.isDigit = false

theorem digitsOnto_eq (number : Nat) (digits : List Char) :
    digitsOnto number digits = Nat.ofDigitChars 10 digits number := by
  simp only [digitsOnto, Nat.ofDigitChars_eq_foldl, Nat.mul_comm]
  rfl

theorem Digits.readNat_append (number : Digits digits) (ends : Ends rest) :
    readNat (digits ++ rest) = some (Nat.ofDigitChars 10 digits 0, rest) := by
  have taken : (digits ++ rest).takeWhile Char.isDigit = digits := by
    rw [List.takeWhile_append_of_pos number.digit]
    cases rest with
    | nil => simp
    | cons char rest => simp [ends char rfl]
  have left : (digits ++ rest).dropWhile Char.isDigit = rest := by
    rw [List.dropWhile_append_of_pos number.digit]
    cases rest with
    | nil => simp
    | cons char rest => simp [ends char rfl]
  unfold readNat
  simp only [taken, left]
  split
  next => exact absurd rfl number.nonempty
  next => exact absurd rfl (number.lead (by simp))
  next => rw [digitsOnto_eq]

theorem Digits.head (number : Digits digits) :
    ∃ digit rest, digits = digit :: rest ∧ digit.isDigit = true := by
  obtain ⟨digit, rest, rfl⟩ := List.exists_cons_of_ne_nil number.nonempty
  exact ⟨digit, rest, rfl, number.digit digit List.mem_cons_self⟩

theorem Inside.readTextOnto (inside : Inside chars text) (rest : List Char) :
    ∀ (fuel : Nat) (read : List Char), chars.length ≤ fuel →
      Json.readTextOnto fuel read (chars ++ '"' :: rest) =
        some (String.ofList (read.reverse ++ text), rest) := by
  induction inside with
  | nil =>
    intro fuel read _
    simp [Json.readTextOnto]
  | @plain char chars text shown quote escape inside ih =>
    intro fuel read room
    obtain ⟨fuel, rfl⟩ := Nat.exists_eq_add_one.mpr (Nat.lt_of_lt_of_le (by simp) room)
    have printed : ¬char.toNat < 0x20 := Nat.not_lt.mpr shown
    rw [List.cons_append, Json.readTextOnto]
    · simp [escape, printed, ih fuel (char :: read) (by simpa using room)]
    · simpa using quote
    · simp [escape]
    · simp [escape]
  | @letter letter char chars text means inside ih =>
    intro fuel read room
    obtain ⟨fuel, rfl⟩ := Nat.exists_eq_add_one.mpr (Nat.lt_of_lt_of_le (by simp) room)
    have named : letter ≠ 'u' := by
      rintro rfl
      cases means
    rw [List.cons_append, List.cons_append, Json.readTextOnto]
    · simp [means, ih fuel (char :: read) (by simp at room; omega)]
    · simpa using named
  | @code first second third fourth chars text a b c d digits single inside ih =>
    intro fuel read room
    obtain ⟨fuel, rfl⟩ := Nat.exists_eq_add_one.mpr (Nat.lt_of_lt_of_le (by simp) room)
    simp only [List.map_cons, List.map_nil, List.cons.injEq, and_true] at digits
    have high : ¬0xD800 ≤ a * 4096 + b * 256 + c * 16 + d := Nat.not_le.mpr single
    have low : ¬0xDC00 ≤ a * 4096 + b * 256 + c * 16 + d := by omega
    simp [Json.readTextOnto, readCode, readUnit, digits, high, low,
      ih fuel (_ :: read) (by simp at room; omega)]

theorem Inside.readText (inside : Inside chars text) (rest : List Char) :
    Json.readText (chars ++ '"' :: rest) = some (String.ofList text, rest) :=
  inside.readTextOnto rest _ [] (by simp)

theorem isBlank_of_isDigit (digit : char.isDigit = true) : isBlank char = false := by
  simp only [isBlank, Bool.or_eq_false_iff, decide_eq_false_iff_not]
  refine ⟨⟨⟨?_, ?_⟩, ?_⟩, ?_⟩ <;>
  · rintro rfl
    cases digit

theorem Spelled.head (spelled : Spelled (.value value) chars) :
    ∃ char rest, chars = char :: rest ∧ isBlank char = false ∧ char ≠ ']' ∧ char ≠ '\x7d' := by
  cases spelled with
  | natural number =>
    obtain ⟨digit, rest, rfl, isDigit⟩ := number.head
    refine ⟨digit, rest, rfl, isBlank_of_isDigit isDigit, ?_, ?_⟩ <;>
    · rintro rfl
      cases isDigit
  | _ => exact ⟨_, _, rfl, by decide, by decide, by decide⟩

/-- What reading has to do with characters that spell a part. A value ends where no digit
follows, and the fuel is enough for every bracket and comma. -/
def Part.Reads : Part → List Char → Prop
  | .value whole, chars => ∀ (fuel : Nat) (rest : List Char), 2 * chars.length ≤ fuel + 1 →
      Ends rest → readValue fuel (chars ++ rest) = some (whole, rest)
  | .items inner, chars => ∀ (fuel : Nat) (rest : List Char), 2 * chars.length ≤ fuel →
      readItems fuel (chars ++ ']' :: rest) = some (inner, rest)
  | .fields inner, chars => ∀ (fuel : Nat) (rest : List Char), 2 * chars.length ≤ fuel →
      readFields fuel (chars ++ '\x7d' :: rest) = some (inner, rest)

theorem readValue_blanks (blank : Blank blanks) (fuel : Nat) (chars : List Char) :
    readValue fuel (blanks ++ chars) = readValue fuel chars := by
  cases fuel with
  | zero => simp [readValue]
  | succ fuel => simp only [readValue, skipBlanks_append blank]

theorem Digits.readValue (number : Digits digits) (ends : Ends rest) (fuel : Nat) :
    Json.readValue (fuel + 1) (digits ++ rest) =
      some (.number (Nat.ofDigitChars 10 digits 0), rest) := by
  obtain ⟨digit, later, split, isDigit⟩ := number.head
  have shown : skipBlanks (digits ++ rest) = digits ++ rest := by
    rw [split, List.cons_append, skipBlanks_cons (isBlank_of_isDigit isDigit)]
  have first : ∀ {char chars}, digits ++ rest = char :: chars → char.isDigit = true := by
    intro char chars same
    rw [split, List.cons_append, List.cons.injEq] at same
    exact same.1 ▸ isDigit
  unfold Json.readValue
  rw [shown]
  split
  iterate 7 (next same => cases first same)
  rw [number.readNat_append ends]
  rfl

theorem ends_blanks (blank : Blank blanks) (other : char.isDigit = false) (rest : List Char) :
    Ends (blanks ++ char :: rest) := by
  cases blanks with
  | nil => simpa [Ends] using other
  | cons first blanks =>
    have notDigit : first.isDigit = false := by
      refine Bool.eq_false_iff.mpr fun digit => ?_
      cases (isBlank_of_isDigit digit).symm.trans (blank first List.mem_cons_self)
    simpa [Ends] using notDigit

theorem Part.Reads.readValue {item : Json} (reads : (Part.value item).Reads chars)
    (blank : Blank before) (blank' : Blank after) (other : sign.isDigit = false) (rest : List Char)
    (fuel : Nat) (room : 2 * chars.length ≤ fuel + 1) :
    Json.readValue fuel (before ++ chars ++ after ++ sign :: rest) =
      some (item, after ++ sign :: rest) := by
  rw [List.append_assoc, List.append_assoc, readValue_blanks blank]
  exact reads fuel _ room (ends_blanks blank' other rest)

theorem Spelled.skipBlanks_eq (blank : Blank before) (spelled : Spelled (.value value) chars)
    (rest : List Char) :
    ∃ char later, skipBlanks (before ++ chars ++ rest) = char :: later ∧ char ≠ ']' ∧
      char ≠ '\x7d' := by
  obtain ⟨char, later, rfl, shown, other⟩ := spelled.head
  refine ⟨char, later ++ rest, ?_, other⟩
  rw [List.append_assoc, skipBlanks_append blank, List.cons_append, skipBlanks_cons shown]

theorem Spelled.items_begin {items : List Json} (spelled : Spelled (.items items) chars)
    (rest : List Char) : ∃ char later, skipBlanks (chars ++ rest) = char :: later ∧ char ≠ ']' := by
  cases spelled with
  | lastItem blank value blank' =>
    obtain ⟨char, later, begun, other, -⟩ := value.skipBlanks_eq blank (_ ++ rest)
    exact ⟨char, later, by rw [List.append_assoc, begun], other⟩
  | item blank value blank' later =>
    obtain ⟨char, more, begun, other, -⟩ := value.skipBlanks_eq blank (_ ++ (_ ++ rest))
    exact ⟨char, more, by rw [List.append_assoc, List.append_assoc, begun], other⟩

theorem Spelled.fields_begin {fields : List (String × Json)}
    (spelled : Spelled (.fields fields) chars) (rest : List Char) :
    ∃ later, skipBlanks (chars ++ rest) = '"' :: later := by
  cases spelled with
  | lastField blank =>
    simp only [List.append_assoc, skipBlanks_append blank]
    exact ⟨_, skipBlanks_cons (by decide) _⟩
  | field blank =>
    simp only [List.append_assoc, skipBlanks_append blank]
    exact ⟨_, skipBlanks_cons (by decide) _⟩

theorem readValue_array {items : List Json} (spelled : Spelled (.items items) chars) {fuel : Nat}
    (read : readItems fuel (chars ++ ']' :: rest) = some (items, rest)) :
    readValue (fuel + 1) ('[' :: chars ++ ']' :: rest) = some (.array items, rest) := by
  obtain ⟨char, later, begun, other⟩ := spelled.items_begin (']' :: rest)
  rw [readValue, List.cons_append, skipBlanks_cons (by decide)]
  simp only [begun, read]
  split
  next same => exact absurd (List.cons.inj same).1 other
  next => rfl

theorem readValue_object {fields : List (String × Json)} (spelled : Spelled (.fields fields) chars)
    {fuel : Nat} (read : readFields fuel (chars ++ '\x7d' :: rest) = some (fields, rest)) :
    readValue (fuel + 1) ('\x7b' :: chars ++ '\x7d' :: rest) = some (.object fields, rest) := by
  obtain ⟨later, begun⟩ := spelled.fields_begin ('\x7d' :: rest)
  rw [readValue, List.cons_append, skipBlanks_cons (by decide)]
  simp only [begun, read]
  rfl

/-- The reader takes characters for the part that they spell. -/
theorem Spelled.reads {part : Part} (spelled : Spelled part chars) : part.Reads chars := by
  induction spelled with
  | null | isTrue | isFalse =>
    intro fuel rest room _
    obtain ⟨fuel, rfl⟩ := Nat.exists_eq_add_one.mpr (show 0 < fuel by simp at room; omega)
    simp [readValue, skipBlanks, isBlank]
  | natural number =>
    intro fuel rest room ends
    have size := List.length_pos_iff.mpr number.nonempty
    obtain ⟨fuel, rfl⟩ := Nat.exists_eq_add_one.mpr (show 0 < fuel by omega)
    exact number.readValue ends fuel
  | negative number =>
    intro fuel rest room ends
    have size := List.length_pos_iff.mpr number.nonempty
    obtain ⟨fuel, rfl⟩ := Nat.exists_eq_add_one.mpr (show 0 < fuel by simp at room; omega)
    rw [List.cons_append, readValue, skipBlanks_cons (by decide)]
    simp only [number.readNat_append ends]
    rfl
  | string inside =>
    intro fuel rest room _
    obtain ⟨fuel, rfl⟩ := Nat.exists_eq_add_one.mpr (show 0 < fuel by simp at room; omega)
    rw [List.cons_append, List.cons_append, List.append_assoc, readValue,
      skipBlanks_cons (by decide)]
    simp only [List.singleton_append, inside.readText]
    rfl
  | noItems blank =>
    intro fuel rest room _
    obtain ⟨fuel, rfl⟩ := Nat.exists_eq_add_one.mpr (show 0 < fuel by simp at room; omega)
    rw [List.append_assoc, List.cons_append, readValue, skipBlanks_cons (by decide)]
    simp only [List.singleton_append, skipBlanks_sign blank (show isBlank ']' = false by decide)]
  | array inside ih =>
    intro fuel rest room _
    obtain ⟨fuel, rfl⟩ := Nat.exists_eq_add_one.mpr (show 0 < fuel by simp at room; omega)
    rw [List.append_assoc]
    exact readValue_array inside (ih fuel rest (by simp at room; omega))
  | noFields blank =>
    intro fuel rest room _
    obtain ⟨fuel, rfl⟩ := Nat.exists_eq_add_one.mpr (show 0 < fuel by simp at room; omega)
    rw [List.append_assoc, List.cons_append, readValue, skipBlanks_cons (by decide)]
    simp only [List.singleton_append,
      skipBlanks_sign blank (show isBlank '\x7d' = false by decide)]
  | object inside ih =>
    intro fuel rest room _
    obtain ⟨fuel, rfl⟩ := Nat.exists_eq_add_one.mpr (show 0 < fuel by simp at room; omega)
    rw [List.append_assoc]
    exact readValue_object inside (ih fuel rest (by simp at room; omega))
  | lastItem blank value blank' ih =>
    intro fuel rest room
    obtain ⟨char, later, rfl, -⟩ := value.head
    obtain ⟨fuel, rfl⟩ := Nat.exists_eq_add_one.mpr (show 0 < fuel by simp at room; omega)
    rw [readItems, ih.readValue blank blank' (by decide) rest fuel (by simp at room ⊢; omega)]
    simp only [skipBlanks_sign blank' (show isBlank ']' = false by decide)]
  | item blank value blank' later ih ih' =>
    intro fuel rest room
    obtain ⟨fuel, rfl⟩ := Nat.exists_eq_add_one.mpr (show 0 < fuel by simp at room; omega)
    rw [List.append_assoc, List.cons_append, readItems,
      ih.readValue blank blank' (by decide) _ fuel (by simp at room ⊢; omega)]
    simp only [skipBlanks_sign blank' (show isBlank ',' = false by decide),
      ih' fuel rest (by simp at room; omega)]
    rfl
  | lastField blank inside blank' value blank'' ih =>
    intro fuel rest room
    obtain ⟨fuel, rfl⟩ := Nat.exists_eq_add_one.mpr (show 0 < fuel by simp at room; omega)
    have read := ih.readValue blank' blank'' (show '\x7d'.isDigit = false by decide) rest fuel
      (by simp at room ⊢; omega)
    simp only [List.append_assoc, List.cons_append] at read ⊢
    rw [readFields, skipBlanks_sign blank (by decide)]
    simp only [inside.readText, skipBlanks_cons (show isBlank ':' = false by decide), read,
      skipBlanks_sign blank'' (show isBlank '\x7d' = false by decide)]
  | @field _ _ _ _ _ more _ _ _ blank inside blank' value blank'' later ih ih' =>
    intro fuel rest room
    obtain ⟨fuel, rfl⟩ := Nat.exists_eq_add_one.mpr (show 0 < fuel by simp at room; omega)
    have read := ih.readValue blank' blank'' (show ','.isDigit = false by decide)
      (more ++ '\x7d' :: rest) fuel (by simp at room ⊢; omega)
    simp only [List.append_assoc, List.cons_append] at read ⊢
    rw [readFields, skipBlanks_sign blank (by decide)]
    simp only [inside.readText, skipBlanks_cons (show isBlank ':' = false by decide), read,
      skipBlanks_sign blank'' (show isBlank ',' = false by decide),
      ih' fuel rest (by simp at room; omega)]
    rfl

/-- A text that spells a value is read as this value. -/
theorem parse?_of_spelled {text : String} (spelled : Spelled (.value value) text.toList) :
    parse? text = some value := by
  have read := spelled.reads (2 * text.toList.length + 1) [] (by omega) (by simp [Ends])
  rw [List.append_nil] at read
  simp [parse?, read, skipBlanks]

/-! ## What is printed is in the grammar -/

theorem hexValue?_hexDigit : ∀ n < 16, hexValue? (hexDigit n) = some n := by
  decide

theorem inside_escapeChar (char : Char) (rest : Inside chars text) :
    Inside (escapeChar char ++ chars) (char :: text) := by
  unfold escapeChar
  split_ifs with quote escape backspace feed line carriage tab control
  iterate 7
    · subst_vars
      exact .letter rfl rest
  · have high := hexValue?_hexDigit (char.toNat / 16) (by omega)
    have low := hexValue?_hexDigit (char.toNat % 16) (by omega)
    have sum : 0 * 4096 + 0 * 256 + char.toNat / 16 * 16 + char.toNat % 16 = char.toNat := by omega
    have spelled := @Inside.code '0' '0' (hexDigit (char.toNat / 16)) (hexDigit (char.toNat % 16))
      chars text 0 0 (char.toNat / 16) (char.toNat % 16) (by simp [high, low]; decide)
      (by omega) rest
    rwa [sum, Char.ofNat_toNat] at spelled
  · exact .plain (Nat.not_lt.mp control) quote escape rest

theorem inside_escaped (text : List Char) : Inside (text.flatMap escapeChar) text := by
  induction text with
  | nil => exact .nil
  | cons char text ih => exact inside_escapeChar char ih

theorem head?_toDigits_ne_zero {n : Nat} (positive : 0 < n) :
    (Nat.toDigits 10 n).head? ≠ some '0' := by
  induction n using Nat.strongRecOn with
  | ind n ih =>
    by_cases small : n < 10
    · rw [Nat.toDigits_of_lt_base small]
      simpa using Nat.ne_of_gt positive
    · rw [Nat.toDigits_of_base_le (by decide) (by omega), List.head?_append,
        Option.or_of_isSome (by simp [Nat.toDigits_ne_nil])]
      exact ih (n / 10) (by omega) (by omega)

theorem digits_toDigits (n : Nat) : Digits (Nat.toDigits 10 n) where
  digit _ member := Nat.isDigit_of_mem_toDigits (by decide) (by decide) member
  nonempty := Nat.toDigits_ne_nil
  lead long := by
    cases n with
    | zero => simp at long
    | succ n => exact head?_toDigits_ne_zero (Nat.succ_pos n)

theorem spelled_number (value : Int) :
    Spelled (.value (.number value)) (toString value).toList := by
  cases value with
  | ofNat n =>
    have spelled := Spelled.natural (digits_toDigits n)
    rw [Nat.ofDigitChars_ten_toDigits] at spelled
    simpa [Int.repr] using spelled
  | negSucc n =>
    have spelled := Spelled.negative (digits_toDigits (n + 1))
    rw [Nat.ofDigitChars_ten_toDigits, Int.neg_ofNat_succ] at spelled
    simpa [Int.repr] using spelled

theorem blank_newline (depth : Nat) : Blank (newline depth) := by
  intro char member
  rcases List.mem_cons.mp member with rfl | space
  · decide
  · rw [List.eq_of_mem_replicate space]
    decide

mutual

theorem spelled_renderAt (depth : Nat) :
    ∀ value : Json, Spelled (.value value) (renderAt depth value)
  | .null => .null
  | .bool true => .isTrue
  | .bool false => .isFalse
  | .number value => spelled_number value
  | .string value => by
      have spelled := Spelled.string (inside_escaped value.toList)
      rwa [String.ofList_toList] at spelled
  | .array [] => @Spelled.noItems [] (by simp [Blank])
  | .array (item :: items) => by
      have inside := spelled_renderItems (depth + 1) (item :: items) (by simp) (blank_newline depth)
      simpa [renderAt, renderItems] using inside.array
  | .object [] => @Spelled.noFields [] (by simp [Blank])
  | .object (field :: fields) => by
      have inside := spelled_renderFields (depth + 1) (field :: fields) (by simp)
        (blank_newline depth)
      simpa [renderAt, renderFields] using inside.object

theorem spelled_renderItems (depth : Nat) :
    ∀ items : List Json, items ≠ [] → ∀ {after : List Char}, Blank after →
      Spelled (.items items) ((renderItems depth items).tail ++ after)
  | [], nonempty, _, _ => absurd rfl nonempty
  | [item], _, _, blank => by
      simpa [renderItems] using
        Spelled.lastItem (blank_newline depth) (spelled_renderAt depth item) blank
  | item :: next :: items, _, _, blank => by
      have later := spelled_renderItems depth (next :: items) (by simp) blank
      have nothing : Blank [] := by simp [Blank]
      simpa [renderItems] using
        Spelled.item (blank_newline depth) (spelled_renderAt depth item) nothing later

theorem spelled_renderFields (depth : Nat) :
    ∀ fields : List (String × Json), fields ≠ [] → ∀ {after : List Char}, Blank after →
      Spelled (.fields fields) ((renderFields depth fields).tail ++ after)
  | [], nonempty, _, _ => absurd rfl nonempty
  | [(key, value)], _, _, blank => by
      have space : Blank [' '] := by simp [Blank, isBlank]
      simpa [renderFields, quoted] using
        Spelled.lastField (blank_newline depth) (inside_escaped key.toList) space
          (spelled_renderAt depth value) blank
  | (key, value) :: next :: fields, _, _, blank => by
      have later := spelled_renderFields depth (next :: fields) (by simp) blank
      have space : Blank [' '] := by simp [Blank, isBlank]
      have nothing : Blank [] := by simp [Blank]
      simpa [renderFields, quoted] using
        Spelled.field (blank_newline depth) (inside_escaped key.toList) space
          (spelled_renderAt depth value) nothing later

end

theorem spelled_render (value : Json) : Spelled (.value value) value.render.toList := by
  rw [render, String.toList_ofList]
  exact spelled_renderAt 0 value

theorem parse?_render (value : Json) : parse? value.render = some value :=
  parse?_of_spelled (spelled_render value)

end Json

/-! ## The document of a tally -/

theorem mapM_map_eq_some {α β : Type} {write : α → β} {read : β → Option α}
    (inverse : ∀ item, read (write item) = some item) (items : List α) :
    (items.map write).mapM read = some items := by
  induction items with
  | nil => rfl
  | cons item items ih => simp [List.mapM_cons, inverse, ih]

theorem SuiteOutcome.ofTag?_tag (outcome : SuiteOutcome) : ofTag? outcome.tag = some outcome := by
  cases outcome <;> rfl

theorem FailureKind.ofJson?_toJson (kind : FailureKind) : ofJson? kind.toJson = some kind := by
  cases kind with
  | crashed exitCode => cases exitCode <;> rfl
  | timedOut stage => cases stage <;> rfl
  | _ => rfl

theorem CategoryTally.ofJson?_toJson (category : CategoryTally) :
    ofJson? category.toJson = some category := by
  rfl

theorem FailedCase.ofJson?_toJson (case : FailedCase) : ofJson? case.toJson = some case := by
  obtain ⟨id, kind, observed, expected, truncated⟩ := case
  cases truncated <;>
    simp [ofJson?, toJson, Json.field?, List.lookup, Json.text?, Json.isSet,
      kind.ofJson?_toJson]

theorem Tally.ofJson?_toJson (tally : Tally) :
    ofJson? tally.toJson = some (tally.outcome, tally) := by
  simp [ofJson?, toJson, Json.field?, List.lookup, Json.text?, Json.nat?, Json.items?,
    SuiteOutcome.ofTag?_tag, mapM_map_eq_some CategoryTally.ofJson?_toJson,
    mapM_map_eq_some FailedCase.ofJson?_toJson]

/-- The document of a tally is a JSON text from which its outcome and all of the tally are read
back. So a document stands for one tally only. -/
theorem Tally.document_loses_nothing (tally : Tally) :
    Json.Spelled (.value tally.toJson) tally.document.toList ∧
      Tally.ofDocument? tally.document = some (tally.outcome, tally) ∧
      ∀ other : Tally, other.document = tally.document ↔ other = tally := by
  have read : ∀ tally : Tally,
      Tally.ofDocument? tally.document = some (tally.outcome, tally) := fun tally => by
    rw [ofDocument?, document, Json.parse?_render, Option.bind_some, ofJson?_toJson]
  refine ⟨Json.spelled_render _, read tally, fun other => ⟨fun same => ?_, congrArg _⟩⟩
  have both := (read other).symm.trans (same ▸ read tally)
  exact (Prod.mk.inj (Option.some.inj both)).2

end Assay
