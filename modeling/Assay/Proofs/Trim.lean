import Assay.CaseRun
import Mathlib.Data.List.DropRight

/-!
# Texts up to the white space around them

A text is a core between two runs of white space, and it has no other core. Trimming gives the
core, so texts match exactly if they have the same one, and it does not matter which of two
compared texts was trimmed before, or how often.
-/

namespace Assay

namespace Text

/-- The first and the last of each run of characters with the property `White_Space`. -/
def whiteSpace : List (Nat × Nat) :=
  [(0x09, 0x0D), (0x20, 0x20), (0x85, 0x85), (0xA0, 0xA0), (0x1680, 0x1680), (0x2000, 0x200A),
    (0x2028, 0x2028), (0x2029, 0x2029), (0x202F, 0x202F), (0x205F, 0x205F), (0x3000, 0x3000)]

def IsSpace (c : Char) : Prop :=
  ∃ run ∈ whiteSpace, run.1 ≤ c.toNat ∧ c.toNat ≤ run.2

def Blank (chars : List Char) : Prop :=
  ∀ c ∈ chars, IsSpace c

/-- No white space at either end. -/
structure Bare (chars : List Char) : Prop where
  first : ∀ c ∈ chars.head?, ¬IsSpace c
  last : ∀ c ∈ chars.getLast?, ¬IsSpace c

theorem isBlank_iff {c : Char} : isBlank c = true ↔ IsSpace c := by
  simp only [isBlank, IsSpace, whiteSpace, List.mem_cons, List.not_mem_nil, or_false,
    exists_eq_or_imp, exists_eq_left, Bool.or_eq_true, Bool.and_eq_true, decide_eq_true_eq,
    beq_iff_eq]
  omega

theorem Blank.isBlank {chars : List Char} (blank : Blank chars) : ∀ c ∈ chars, isBlank c = true :=
  fun c member => isBlank_iff.mpr (blank c member)

/-! ## Trimming -/

theorem dropWhile_isBlank {chars : List Char} (bare : ∀ c ∈ chars.head?, ¬IsSpace c) :
    chars.dropWhile isBlank = chars := by
  cases chars with
  | nil => rfl
  | cons c chars => exact List.dropWhile_cons_of_neg (mt isBlank_iff.mp (bare c rfl))

theorem head?_dropWhile_isBlank (chars : List Char) :
    ∀ c ∈ (chars.dropWhile isBlank).head?, ¬IsSpace c := by
  intro c head space
  have first := List.head?_dropWhile_not isBlank chars
  rw [Option.mem_def.mp head] at first
  simp [isBlank_iff.mpr space] at first

theorem trimChars_append {before after : List Char} (front : Blank before) (back : Blank after)
    (chars : List Char) : trimChars (before ++ chars ++ after) = trimChars chars := by
  have behind (kept : List Char) : trimRight (kept ++ after) = trimRight kept := by
    have reversed : ∀ c ∈ after.reverse, isBlank c = true := fun c member =>
      back.isBlank c (List.mem_reverse.mp member)
    rw [trimRight, List.reverse_append, List.dropWhile_append_of_pos reversed, trimRight]
  rw [trimChars, trimLeft, List.append_assoc, List.dropWhile_append_of_pos front.isBlank,
    List.dropWhile_append]
  split
  next none =>
    rw [List.dropWhile_eq_nil_iff.mpr back.isBlank, trimChars, trimLeft, List.isEmpty_iff.mp none]
  next => exact behind _

theorem trimChars_of_bare {core : List Char} (bare : Bare core) : trimChars core = core := by
  have reversed : core.reverse.dropWhile isBlank = core.reverse :=
    dropWhile_isBlank (List.head?_reverse ▸ bare.last)
  rw [trimChars, trimLeft, dropWhile_isBlank bare.first, trimRight, reversed, List.reverse_reverse]

theorem trimChars_split (chars : List Char) :
    ∃ before after, Blank before ∧ Blank after ∧ chars = before ++ trimChars chars ++ after := by
  have blank (part : List Char) : Blank (part.takeWhile isBlank) := fun c member =>
    isBlank_iff.mp (List.mem_takeWhile_imp member)
  refine ⟨chars.takeWhile isBlank, ((trimLeft chars).reverse.takeWhile isBlank).reverse,
    blank chars, fun c member => blank _ c (List.mem_reverse.mp member), ?_⟩
  have right : trimChars chars ++ ((trimLeft chars).reverse.takeWhile isBlank).reverse =
      trimLeft chars := by
    rw [trimChars, trimRight, ← List.reverse_append, List.takeWhile_append_dropWhile,
      List.reverse_reverse]
  rw [List.append_assoc, right, trimLeft, List.takeWhile_append_dropWhile]

theorem bare_trimChars (chars : List Char) : Bare (trimChars chars) := by
  have front : trimChars chars <+: trimLeft chars := List.rdropWhile_prefix isBlank (trimLeft chars)
  constructor
  · intro c head
    obtain ⟨rest, shape⟩ := front
    refine head?_dropWhile_isBlank chars c ?_
    rw [← trimLeft, ← shape, List.head?_append, Option.mem_def.mp head]
    rfl
  · intro c last
    refine head?_dropWhile_isBlank (trimLeft chars).reverse c ?_
    rwa [trimChars, trimRight, List.getLast?_reverse] at last

/-- A text has one core, and trimming gives it. -/
theorem trim_eq_iff {text core : String} :
    trim text = core ↔ Bare core.toList ∧ ∃ before after : String,
      Blank before.toList ∧ Blank after.toList ∧ text = before ++ core ++ after := by
  constructor
  · rintro rfl
    obtain ⟨before, after, front, back, shape⟩ := trimChars_split text.toList
    refine ⟨String.toList_ofList ▸ bare_trimChars text.toList, String.ofList before,
      String.ofList after, by simpa using front, by simpa using back, ?_⟩
    rw [← String.toList_inj]
    simpa [trim] using shape
  · rintro ⟨bare, before, after, front, back, rfl⟩
    rw [trim, String.toList_append, String.toList_append, trimChars_append front back,
      trimChars_of_bare bare, String.ofList_toList]

theorem bare_trim (text : String) : Bare (trim text).toList :=
  (trim_eq_iff.mp rfl).1

theorem trim_append {before after : String} (front : Blank before.toList)
    (back : Blank after.toList) (text : String) : trim (before ++ text ++ after) = trim text := by
  rw [trim, String.toList_append, String.toList_append, trimChars_append front back, trim]

theorem trim_of_bare {text : String} (bare : Bare text.toList) : trim text = text := by
  rw [trim, trimChars_of_bare bare, String.ofList_toList]

@[simp] theorem trim_trim (text : String) : trim (trim text) = trim text :=
  trim_of_bare (bare_trim text)

end Text

/-! ## Comparing -/

theorem agrees_iff {observed expected : String} :
    agrees observed expected = true ↔ Text.trim observed = Text.trim expected :=
  beq_iff_eq

theorem agrees_congr {observed expected observed' expected' : String}
    (left : Text.trim observed = Text.trim observed')
    (right : Text.trim expected = Text.trim expected') :
    agrees observed expected = agrees observed' expected' := by
  rw [agrees, left, right, agrees]

theorem CaseRun.judge_congr {observed expected observed' expected' : String}
    (left : Text.trim observed = Text.trim observed')
    (right : Text.trim expected = Text.trim expected') :
    judge observed expected = judge observed' expected' := by
  simp only [judge, Verdict.fail, agrees_congr left right, left, right]

/-- Two texts match if and only if they are one core with white space around it. So matching is
an equivalence, and neither white space around a text nor trimming it beforehand changes what it
matches or the verdict on it. -/
theorem agrees_iff_same_core :
    (∀ observed expected, agrees observed expected = true ↔
      ∃ core w₁ w₂ w₃ w₄ : String, Text.Bare core.toList ∧ Text.Blank w₁.toList ∧
        Text.Blank w₂.toList ∧ Text.Blank w₃.toList ∧ Text.Blank w₄.toList ∧
        observed = w₁ ++ core ++ w₂ ∧ expected = w₃ ++ core ++ w₄) ∧
    Equivalence (fun observed expected => agrees observed expected = true) ∧
    (∀ before after : String, Text.Blank before.toList → Text.Blank after.toList →
      ∀ observed expected,
        agrees (before ++ observed ++ after) expected = agrees observed expected ∧
        agrees observed (before ++ expected ++ after) = agrees observed expected) ∧
    ∀ observed expected,
      agrees (Text.trim observed) expected = agrees observed expected ∧
      agrees observed (Text.trim expected) = agrees observed expected ∧
      CaseRun.judge (Text.trim observed) expected = CaseRun.judge observed expected ∧
      CaseRun.judge observed (Text.trim expected) = CaseRun.judge observed expected := by
  refine ⟨fun observed expected => ?_, ⟨fun text => ?_, fun same => ?_, fun first second => ?_⟩,
    fun before after front back observed expected => ⟨?_, ?_⟩,
    fun observed expected => ⟨?_, ?_, ?_, ?_⟩⟩
  · rw [agrees_iff]
    constructor
    · intro same
      obtain ⟨bare, w₁, w₂, front, back, left⟩ := Text.trim_eq_iff.mp same
      obtain ⟨-, w₃, w₄, front', back', right⟩ := Text.trim_eq_iff.mp (Eq.refl (Text.trim expected))
      exact ⟨_, w₁, w₂, w₃, w₄, bare, front, back, front', back', left, right⟩
    · rintro ⟨core, w₁, w₂, w₃, w₄, bare, front, back, front', back', left, right⟩
      have observedCore := Text.trim_eq_iff.mpr ⟨bare, w₁, w₂, front, back, left⟩
      have expectedCore := Text.trim_eq_iff.mpr ⟨bare, w₃, w₄, front', back', right⟩
      exact observedCore.trans expectedCore.symm
  · exact agrees_iff.mpr rfl
  · exact agrees_iff.mpr (agrees_iff.mp same).symm
  · exact agrees_iff.mpr ((agrees_iff.mp first).trans (agrees_iff.mp second))
  · exact agrees_congr (Text.trim_append front back observed) rfl
  · exact agrees_congr rfl (Text.trim_append front back expected)
  · exact agrees_congr (Text.trim_trim observed) rfl
  · exact agrees_congr rfl (Text.trim_trim expected)
  · exact CaseRun.judge_congr (Text.trim_trim observed) rfl
  · exact CaseRun.judge_congr rfl (Text.trim_trim expected)

end Assay
