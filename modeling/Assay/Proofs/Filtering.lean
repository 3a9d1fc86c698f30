import Assay.Discovery
import Mathlib.Data.List.Forall2
import Mathlib.Data.List.Infix
import Mathlib.Data.List.TakeWhile

/-!
# Filtering by name

A filter compares names and its own text in lower case. The lower case of a character is its own
matter, except for a capital sigma, whose form depends on the letters around it. A filter that
settles the form of each of its sigmas keeps all fixtures with its text in their names. Any other
filter drops one.
-/

namespace Assay

namespace Text.Case

variable {before chars : List Char}

/-! ## Lower case within a text -/

/-- The lower case of characters that stand between others. Those before are in reverse. -/
def lowerWithin (before : List Char) (after : List Char) : List Char → List Char
  | [] => []
  | c :: rest =>
    (if c = 'Σ' then [lowerSigma before (rest ++ after)] else lowerChar c) ++
      lowerWithin (c :: before) after rest

theorem lowerChars_append (before first second : List Char) :
    lowerChars before (first ++ second) =
      lowerWithin before second first ++ lowerChars (first.reverse ++ before) second := by
  induction first generalizing before with
  | nil => rfl
  | cons c first ih => simp [lowerChars, lowerWithin, ih]

theorem lowerWithin_nil (before chars : List Char) :
    lowerWithin before [] chars = lowerChars before chars := by
  simpa [lowerChars] using (lowerChars_append before chars []).symm

theorem length_lowerWithin (before after outer later chars : List Char) :
    (lowerWithin before after chars).length = (lowerWithin outer later chars).length := by
  induction chars generalizing before outer with
  | nil => rfl
  | cons c chars ih =>
    rw [lowerWithin, lowerWithin, List.length_append, List.length_append, ih (c :: before)]
    split <;> rfl

/-! ## What decides the form of a sigma -/

/-- Characters that leave it open whether a letter comes first. -/
def isOpen (chars : List Char) : Bool :=
  chars.all fun c => inRanges ignorableRanges c.toNat

theorem startsCased_append (chars more : List Char) :
    startsCased (chars ++ more) = if isOpen chars then startsCased more else startsCased chars := by
  unfold startsCased isOpen
  rw [List.dropWhile_append]
  cases rest : chars.dropWhile fun c => inRanges ignorableRanges c.toNat with
  | nil =>
    have ignored := List.dropWhile_eq_nil_iff.mp rest
    rw [if_pos (List.all_eq_true.mpr ignored)]
    rfl
  | cons c rest =>
    have other : chars.all (fun c => inRanges ignorableRanges c.toNat) = false := by
      rw [← Bool.not_eq_true, List.all_eq_true, ← List.dropWhile_eq_nil_iff]
      simp [rest]
    simp [other]

theorem startsCased_of_isOpen (undecided : isOpen chars = true) : startsCased chars = false := by
  have last := startsCased_append chars []
  rwa [List.append_nil, if_pos undecided] at last

/-- Whether every sigma has the same form in all texts around the characters. A sigma is final
after a letter and not before one. -/
def isSettled (before : List Char) : List Char → Bool
  | [] => true
  | c :: rest =>
    (c != 'Σ' ||
      ((!isOpen before || startsCased rest) && (!startsCased before || !isOpen rest))) &&
      isSettled (c :: before) rest

theorem isSettled_of_not_mem (none : 'Σ' ∉ chars) (before : List Char) :
    isSettled before chars = true := by
  induction chars generalizing before with
  | nil => rfl
  | cons c chars ih =>
    rw [List.mem_cons, not_or] at none
    simp [isSettled, Ne.symm none.1, ih none.2]

theorem lowerSigma_of_settled {rest : List Char}
    (front : isOpen before = true → startsCased rest = true)
    (back : startsCased before = true → isOpen rest = false) (outer later : List Char) :
    lowerSigma (before ++ outer) (rest ++ later) = lowerSigma before rest := by
  unfold lowerSigma
  rw [startsCased_append, startsCased_append]
  cases undecided : isOpen before with
  | true =>
    have letter := front undecided
    have decided : isOpen rest = false := by
      cases unknown : isOpen rest with
      | false => rfl
      | true => rw [startsCased_of_isOpen unknown] at letter; cases letter
    simp [letter, decided]
  | false =>
    cases letter : startsCased before with
    | true => simp [back letter]
    | false => simp

theorem lowerWithin_of_isSettled (settled : isSettled before chars = true)
    (outer later : List Char) :
    lowerWithin (before ++ outer) later chars = lowerChars before chars := by
  induction chars generalizing before with
  | nil => rfl
  | cons c rest ih =>
    rw [isSettled, Bool.and_eq_true] at settled
    rw [lowerWithin, lowerChars, ← ih settled.2, List.cons_append]
    by_cases sigma : c = 'Σ'
    · have decided := settled.1
      simp only [sigma, bne_self_eq_false, Bool.false_or, Bool.and_eq_true, Bool.or_eq_true,
        Bool.not_eq_true'] at decided
      rw [if_pos sigma, if_pos sigma, lowerSigma_of_settled (by grind) (by grind)]
    · rw [if_neg sigma, if_neg sigma]

/-! ## Texts that do not settle the form of a sigma -/

/-- A letter that is its own lower case. -/
structure IsPlainLetter (letter : Char) : Prop where
  lower : lowerChar letter = [letter]
  cased : startsCased [letter] = true
  other : letter ≠ 'Σ'

/-- A letter put before or after the characters changes the form of a sigma that is not
settled. -/
theorem lowerWithin_of_not_isSettled {letter : Char} (plain : IsPlainLetter letter)
    (unsettled : isSettled before chars = false) :
    lowerWithin (before ++ [letter]) [] chars ≠ lowerChars before chars ∨
      lowerWithin before [letter] chars ≠ lowerChars before chars := by
  induction chars generalizing before with
  | nil => cases unsettled
  | cons c rest ih =>
    rw [lowerWithin, lowerWithin, lowerChars, List.append_nil, ← List.cons_append]
    cases later : isSettled (c :: before) rest with
    | false =>
      -- The first characters have lower cases of the same length, so the later ones differ.
      have front (outer after : List Char) : (if c = 'Σ' then [lowerSigma outer after]
          else lowerChar c).length =
            (if c = 'Σ' then [lowerSigma before rest] else lowerChar c).length := by
        split <;> rfl
      rcases ih later with changed | changed
      · exact .inl fun same => changed (List.append_inj same (front _ _)).2
      · exact .inr fun same => changed (List.append_inj same (front _ _)).2
    | true =>
      rw [isSettled, later, Bool.and_true] at unsettled
      simp only [Bool.or_eq_false_iff, Bool.and_eq_false_iff, bne_eq_false_iff_eq,
        Bool.not_eq_false'] at unsettled
      obtain ⟨rfl, undecided⟩ := unsettled
      rw [if_pos rfl, if_pos rfl, if_pos rfl]
      rcases undecided with ⟨ignored, letterless⟩ | ⟨cased, ignored⟩
      · refine .inl fun same => ?_
        have forms := (List.cons.inj same).1
        simp [lowerSigma, startsCased_append, ignored, plain.cased, letterless,
          startsCased_of_isOpen ignored] at forms
      · refine .inr fun same => ?_
        have forms := (List.cons.inj same).1
        simp [lowerSigma, startsCased_append, ignored, plain.cased, cased,
          startsCased_of_isOpen ignored] at forms

end Text.Case

/-! ## Letters of the tables -/

namespace Text

/-- The numbers that letters stand for, read from the left. -/
def numbersFrom (number : Nat) : List Char → List Nat
  | [] => []
  | c :: rest =>
    if c.isUpper then numbersFrom (number * 26 + (c.toNat - 'A'.toNat)) rest
    else (number * 26 + (c.toNat - 'a'.toNat)) :: numbersFrom 0 rest

theorem numbersOf_eq (text : String) : numbersOf text = numbersFrom 0 text.toList := by
  have read (chars : List Char) (found : List Nat) (number : Nat) :
      (chars.foldl (fun (hit : List Nat × Nat) (ch : Char) =>
        if ch.isUpper then (hit.1, hit.2 * 26 + (ch.toNat - 'A'.toNat))
        else ((hit.2 * 26 + (ch.toNat - 'a'.toNat)) :: hit.1, 0)) (found, number)).1.reverse =
        found.reverse ++ numbersFrom number chars := by
    induction chars generalizing found number with
    | nil => simp [numbersFrom]
    | cons c chars ih =>
      rw [List.foldl_cons, numbersFrom]
      split
      · exact ih _ _
      · rw [ih]
        simp
  simpa [numbersOf] using read text.toList [] 0

theorem inRanges_rangesFrom_of_lt {start n : Nat} (below : n < start) (numbers : List Nat) :
    inRanges (rangesFrom start numbers) n = false := by
  fun_induction rangesFrom start numbers with
  | case1 start skipped k numbers ih =>
    have later := ih (by omega)
    simp only [inRanges, List.any_cons, Bool.or_eq_false_iff] at later ⊢
    refine ⟨?_, later⟩
    simp only [Bool.and_eq_false_iff, decide_eq_false_iff_not]
    omega
  | case2 => rfl

namespace Case

-- Only the beginnings of the tables are read: the later ranges lie behind the letters.
theorem ignorableRanges_begin :
    ∃ later, ignorableRanges = [(39, 39), (46, 46), (58, 58), (94, 94), (96, 96), (168, 168)] ++
      rangesFrom 169 later := by
  unfold ignorableRanges rangesOf
  rw [numbersOf_eq]
  simp only [String.toList_append]
  exact ⟨_, rfl⟩

theorem casedRanges_begin : ∃ later, casedRanges = (65, 90) :: (97, 122) :: later := by
  unfold casedRanges rangesOf
  rw [numbersOf_eq]
  simp only [String.toList_append]
  exact ⟨_, rfl⟩

-- The characters are a variable, so that no check of this step evaluates the tables.
theorem startsCased_of_dropWhile {chars rest : List Char} {c : Char}
    (found : chars.dropWhile (fun c => inRanges ignorableRanges c.toNat) = c :: rest) :
    startsCased chars = inRanges casedRanges c.toNat := by
  unfold startsCased
  rw [found]

theorem isPlainLetter_of_mem {letter : Char} (member : letter ∈ ['a', 'b', 'c']) :
    IsPlainLetter letter := by
  have code : 97 ≤ letter.toNat ∧ letter.toNat ≤ 99 := by
    simp only [List.mem_cons, List.not_mem_nil, or_false] at member
    rcases member with rfl | rfl | rfl <;> decide
  have visible : inRanges ignorableRanges letter.toNat = false := by
    obtain ⟨later, table⟩ := ignorableRanges_begin
    have behind := inRanges_rangesFrom_of_lt (show letter.toNat < 169 by omega) later
    rw [inRanges] at behind
    rw [table, inRanges, List.any_append, behind]
    simp
    omega
  have cased : inRanges casedRanges letter.toNat = true := by
    obtain ⟨later, table⟩ := casedRanges_begin
    rw [table, inRanges]
    simp
    omega
  refine ⟨?_, ?_, ?_⟩
  · simp only [List.mem_cons, List.not_mem_nil, or_false] at member
    rcases member with rfl | rfl | rfl <;> decide
  · rw [startsCased_of_dropWhile (List.dropWhile_cons_of_neg (by simp [visible])), cased]
  · rintro rfl
    exact absurd member (by decide)

theorem exists_letter (chars : List Char) : ∃ letter ∈ ['a', 'b', 'c'],
    chars.head? ≠ some letter ∧ chars.getLast? ≠ some letter := by
  by_cases a : chars.head? = some 'a' ∨ chars.getLast? = some 'a'
  · by_cases b : chars.head? = some 'b' ∨ chars.getLast? = some 'b'
    · refine ⟨'c', by simp, ?_, ?_⟩ <;> intro same <;> simp [same] at a b <;> simp [a] at b
    · exact ⟨'b', by simp, not_or.mp b⟩
  · exact ⟨'a', by simp, not_or.mp a⟩

end Case

end Text

/-! ## Literal matches -/

theorem not_infix_cons {chars changed : List Char} {letter : Char}
    (length : chars.length = changed.length) (other : chars ≠ changed)
    (head : chars.head? ≠ some letter) : ¬chars <:+: letter :: changed := by
  intro found
  rcases List.infix_cons_iff.mp found with first | later
  · cases chars with
    | nil => exact other (List.length_eq_zero_iff.mp length.symm).symm
    | cons c chars => exact head (congrArg some (List.cons_prefix_cons.mp first).1)
  · exact other (later.eq_of_length length)

theorem not_infix_concat {chars changed : List Char} {letter : Char}
    (length : chars.length = changed.length) (other : chars ≠ changed)
    (last : chars.getLast? ≠ some letter) : ¬chars <:+: changed ++ [letter] := by
  intro found
  have reversed := List.reverse_infix.mpr found
  rw [List.reverse_append] at reversed
  exact not_infix_cons (by simpa using length) (by simpa using other)
    (by rwa [List.head?_reverse]) reversed

namespace Text.Case

theorem lowerChars_infix {text name : List Char} (settled : isSettled [] text = true)
    (literal : text <:+: name) : lowerChars [] text <:+: lowerChars [] name := by
  obtain ⟨before, after, rfl⟩ := literal
  rw [List.append_assoc, lowerChars_append, lowerChars_append, List.append_nil,
    ← lowerWithin_of_isSettled settled before.reverse after, List.nil_append]
  exact ⟨_, _, (List.append_assoc _ _ _)⟩

theorem exists_name_of_not_isSettled {text : List Char} (unsettled : isSettled [] text = false) :
    ∃ name, text <:+: name ∧ ¬lowerChars [] text <:+: lowerChars [] name := by
  obtain ⟨letter, member, head, last⟩ := exists_letter (lowerChars [] text)
  have plain := isPlainLetter_of_mem member
  have length (before after : List Char) :
      (lowerChars [] text).length = (lowerWithin before after text).length := by
    rw [← lowerWithin_nil]
    exact length_lowerWithin ..
  rcases lowerWithin_of_not_isSettled plain unsettled with changed | changed
  · refine ⟨letter :: text, (List.suffix_cons letter text).isInfix, ?_⟩
    rw [lowerChars, if_neg plain.other, plain.lower, ← lowerWithin_nil [letter]]
    exact not_infix_cons (length _ _) changed.symm head
  · refine ⟨text ++ [letter], (List.prefix_append text [letter]).isInfix, ?_⟩
    rw [lowerChars_append, lowerChars, if_neg plain.other, plain.lower, lowerChars]
    exact not_infix_concat (length _ _) changed.symm last

end Text.Case

/-! ## Filters -/

namespace Discovery

theorem occursIn_iff {needle chars : List Char} :
    occursIn needle chars = true ↔ needle <:+: chars := by
  induction chars with
  | nil => simp [occursIn]
  | cons c chars ih => simp [occursIn, ih, List.infix_cons_iff]

/-- The lower case of a text occurs in the lower case of a name. -/
def Matches (text : String) (fixture : Fixture) : Prop :=
  (Text.lower text).toList <:+: (Text.lower fixture.name).toList

instance (text : String) : DecidablePred (Matches text) := fun fixture =>
  inferInstanceAs (Decidable ((Text.lower text).toList <:+: (Text.lower fixture.name).toList))

theorem matchesFilter_iff {text : String} {fixture : Fixture} :
    matchesFilter text fixture = true ↔ Matches text fixture :=
  occursIn_iff

theorem matches_iff {text : String} {fixture : Fixture} : Matches text fixture ↔
    Text.Case.lowerChars [] text.toList <:+: Text.Case.lowerChars [] fixture.name.toList := by
  simp [Matches, Text.lower]

/-- What a filter leaves of a group: the fixtures that match, as often as before and in the same
order. -/
structure Filtered (text : String) (group left : Group) : Prop where
  category : left.category = group.category
  order : left.fixtures.Sublist group.fixtures
  count : ∀ fixture, left.fixtures.count fixture =
    if Matches text fixture then group.fixtures.count fixture else 0

/-- All fixtures with a text in their names are left of a group. -/
def KeepsLiteral (text : String) (group left : Group) : Prop :=
  ∀ fixture, text.toList <:+: fixture.name.toList →
    left.fixtures.count fixture = group.fixtures.count fixture

theorem filtered (text : String) (group : Group) : Filtered text group
    { group with fixtures := group.fixtures.filter (matchesFilter text) } where
  category := rfl
  order := List.filter_sublist
  count fixture := by
    split
    · next found => exact List.count_filter (matchesFilter_iff.mpr found)
    · next missing =>
        refine List.count_eq_zero.mpr fun kept => missing ?_
        exact matchesFilter_iff.mp (List.mem_filter.mp kept).2

theorem forall₂_filter {relation : Group → Group → Prop} {text : String} {groups : List Group} :
    List.Forall₂ relation groups (filter text groups) ↔ ∀ group ∈ groups, relation group
      { group with fixtures := group.fixtures.filter (matchesFilter text) } := by
  rw [filter, List.forall₂_map_right_iff, List.forall₂_same]

theorem filter_filter (text : String) (groups : List Group) :
    filter text (filter text groups) = filter text groups := by
  simp [filter]

theorem filter_of_not_matches {text : String} {category : Category} {fixture : Fixture}
    (missing : ¬Matches text fixture) :
    filter text [{ category, fixtures := [fixture] }] = [{ category, fixtures := [] }] := by
  have dropped := mt matchesFilter_iff.mp missing
  simp [filter, dropped]

/-- A filter drops, group by group, exactly the fixtures that do not match, and nothing more when
it is applied again. It keeps all fixtures with its text in their names if and only if it settles
the form of its sigmas, which it does if it has none. -/
theorem filter_keeps_literal_iff_settled (text : String) :
    (∀ groups, List.Forall₂ (Filtered text) groups (filter text groups) ∧
      filter text (filter text groups) = filter text groups) ∧
    ((∀ groups, List.Forall₂ (KeepsLiteral text) groups (filter text groups)) ↔
      Text.Case.isSettled [] text.toList = true) ∧
    ('Σ' ∉ text.toList → Text.Case.isSettled [] text.toList = true) := by
  refine ⟨fun groups => ⟨?_, filter_filter text groups⟩,
    ⟨fun keeps => ?_, fun settled groups => ?_⟩,
    fun none => Text.Case.isSettled_of_not_mem none []⟩
  · exact forall₂_filter.mpr fun group _ => filtered text group
  · by_contra unsettled
    obtain ⟨name, literal, changed⟩ :=
      Text.Case.exists_name_of_not_isSettled (Bool.eq_false_iff.mpr unsettled)
    let fixture : Fixture :=
      { category := "", name := String.ofList name, source := ⟨""⟩, expected := ⟨""⟩ }
    have missing : ¬Matches text fixture := by simpa [matches_iff, fixture] using changed
    have kept := keeps [{ category := { name := "" }, fixtures := [fixture] }]
    rw [filter_of_not_matches missing] at kept
    have same := (List.forall₂_cons.mp kept).1 fixture (by simpa [fixture] using literal)
    simp at same
  · refine forall₂_filter.mpr fun group _ fixture literal => ?_
    rw [(filtered text group).count, if_pos (matches_iff.mpr ?_)]
    exact Text.Case.lowerChars_infix settled literal

/-- The sigma of a filter is not the final one of a name, although it is the same letter. -/
theorem filter_drops_final_sigma :
    let fixture : Fixture :=
      { category := "c"
        name := "aΣ"
        source := ⟨"c/codes/aΣ.c"⟩
        expected := ⟨"c/outputs/aΣ.out"⟩ }
    "Σ".toList <:+: fixture.name.toList ∧
      filter "Σ" [{ category := { name := "c" }, fixtures := [fixture] }] =
        [{ category := { name := "c" }, fixtures := [] }] := by
  have plain : Text.Case.IsPlainLetter 'a' := Text.Case.isPlainLetter_of_mem (by simp)
  have final : Text.Case.lowerChars [] ['a', 'Σ'] = ['a', 'ς'] := by
    have ends : Text.Case.startsCased [] = false := rfl
    simp [Text.Case.lowerChars, Text.Case.lowerSigma, plain.lower, plain.cased, ends]
  refine ⟨by decide, filter_of_not_matches ?_⟩
  rw [matches_iff]
  show ¬Text.Case.lowerChars [] ['Σ'] <:+: Text.Case.lowerChars [] ['a', 'Σ']
  rw [final]
  decide

end Discovery

end Assay
