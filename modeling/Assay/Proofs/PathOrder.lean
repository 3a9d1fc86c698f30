import Assay.Path
import Assay.Text.Utf8
import Mathlib.Data.List.Basic

/-!
# The order of paths

Texts come in the order of their bytes. Paths come in the order of their components, which
is a total order of the lists of components.
-/

namespace Assay

namespace Text

theorem lex_cons_ofNat {m n : Nat} {left right : Bytes} (small : n < 256)
    (before : m < n ∨ m = n ∧ List.Lex (· < ·) left right) :
    List.Lex (· < ·) (UInt8.ofNat m :: left) (UInt8.ofNat n :: right) := by
  rcases before with less | ⟨rfl, later⟩
  · refine .rel (UInt8.lt_iff_toNat_lt.mpr ?_)
    rw [UInt8.toNat_ofNat_of_lt' (Nat.lt_trans less small), UInt8.toNat_ofNat_of_lt' small]
    exact less
  · exact .cons later

theorem lex_utf8EncodeChar {a b : Char} (less : a < b) (left right : Bytes) :
    List.Lex (· < ·) (String.utf8EncodeChar a ++ left) (String.utf8EncodeChar b ++ right) := by
  have values : a.val.toNat < b.val.toNat := UInt32.lt_iff_toNat_lt.mp (Char.lt_def.mp less)
  have last : b.val.toNat < 0x110000 := by
    rcases b.valid with low | high
    · exact Nat.lt_of_lt_of_le low (by decide)
    · exact high.2
  unfold String.utf8EncodeChar
  generalize a.val.toNat = v at values ⊢
  generalize b.val.toNat = w at values last ⊢
  dsimp only
  -- With the same number of bytes the first digit that differs decides, else the first byte.
  split
  · repeat' split
    all_goals exact lex_cons_ofNat (by omega) (.inl (by omega))
  · rw [if_neg (show ¬w ≤ 127 by omega)]
    split
    · split
      · refine lex_cons_ofNat (by omega) (or_iff_not_imp_left.mpr fun _ => ⟨by omega, ?_⟩)
        exact lex_cons_ofNat (by omega) (.inl (by omega))
      · split <;> exact lex_cons_ofNat (by omega) (.inl (by omega))
    · rw [if_neg (show ¬w ≤ 2047 by omega)]
      split
      · split
        · refine lex_cons_ofNat (by omega) (or_iff_not_imp_left.mpr fun _ => ⟨by omega, ?_⟩)
          refine lex_cons_ofNat (by omega) (or_iff_not_imp_left.mpr fun _ => ⟨by omega, ?_⟩)
          exact lex_cons_ofNat (by omega) (.inl (by omega))
        · exact lex_cons_ofNat (by omega) (.inl (by omega))
      · rw [if_neg (show ¬w ≤ 65535 by omega)]
        have nested : v / 4096 / 64 = v / 262144 ∧ w / 4096 / 64 = w / 262144 :=
          ⟨Nat.div_div_eq_div_mul .., Nat.div_div_eq_div_mul ..⟩
        refine lex_cons_ofNat (by omega) (or_iff_not_imp_left.mpr fun _ => ⟨by omega, ?_⟩)
        refine lex_cons_ofNat (by omega) (or_iff_not_imp_left.mpr fun _ => ⟨by omega, ?_⟩)
        have high : v / 4096 = w / 4096 := by omega
        refine lex_cons_ofNat (by omega) (or_iff_not_imp_left.mpr fun _ => ⟨by omega, ?_⟩)
        exact lex_cons_ofNat (by omega) (.inl (by omega))

theorem lex_append_left {α : Type} {before : α → α → Prop} (common : List α)
    {left right : List α} (less : List.Lex before left right) :
    List.Lex before (common ++ left) (common ++ right) := by
  induction common with
  | nil => exact less
  | cons item common ih => exact .cons ih

theorem lex_flatMap_utf8EncodeChar {left right : List Char} (less : List.Lex (· < ·) left right) :
    List.Lex (· < ·) (left.flatMap String.utf8EncodeChar)
      (right.flatMap String.utf8EncodeChar) := by
  induction less with
  | nil =>
    rename_i c rest
    obtain ⟨byte, bytes, some⟩ := List.exists_cons_of_ne_nil (@String.utf8EncodeChar_ne_nil c)
    rw [List.flatMap_nil, List.flatMap_cons, some]
    exact .nil
  | cons _ ih => exact lex_append_left _ ih
  | rel less => exact lex_utf8EncodeChar less _ _

/-- Texts are ordered as their bytes are. -/
theorem lex_encode {left right : String} (less : left < right) :
    List.Lex (· < ·) (encode left) (encode right) :=
  lex_flatMap_utf8EncodeChar (List.lex_lt.mpr (String.lt_iff.mp less))

end Text

namespace PathComponent

/-- The strict order of components: names by their bytes, after all else. -/
def Before : PathComponent → PathComponent → Prop
  | .name left, .name right => List.Lex (· < ·) (Text.encode left) (Text.encode right)
  | left, right => left.rank < right.rank

theorem name_le_name {left right : String} :
    (PathComponent.name left).le (.name right) = true ↔ left ≤ right := by
  simp only [le, Bool.not_eq_true', decide_eq_false_iff_not, String.not_lt]

theorem le_total (left right : PathComponent) : left.le right = true ∨ right.le left = true := by
  cases left <;> cases right
  case name.name left right => simpa only [name_le_name] using String.le_total left right
  all_goals simp [le, rank]

theorem le_trans {first second third : PathComponent} (left : first.le second = true)
    (right : second.le third = true) : first.le third = true := by
  cases first <;> cases second <;> cases third
  case name.name.name =>
    rw [name_le_name] at left right ⊢
    exact String.le_trans left right
  all_goals simp_all [le, rank]

theorem le_antisymm {left right : PathComponent} (forth : left.le right = true)
    (back : right.le left = true) : left = right := by
  cases left <;> cases right
  case name.name =>
    rw [name_le_name] at forth back
    rw [String.le_antisymm forth back]
  all_goals simp_all [le, rank]

theorem before_of_le {left right : PathComponent} (ordered : left.le right = true)
    (different : left ≠ right) : left.Before right := by
  cases left <;> cases right
  case name.name left right =>
    rw [name_le_name] at ordered
    refine Text.lex_encode (String.not_le.mp fun back => different ?_)
    rw [String.le_antisymm ordered back]
  all_goals simp_all [le, rank, Before]

end PathComponent

namespace Path

theorem componentsLe_cons {left right : PathComponent} {lefts rights : List PathComponent} :
    componentsLe (left :: lefts) (right :: rights) = true ↔
      left = right ∧ componentsLe lefts rights = true ∨ left ≠ right ∧ left.le right = true := by
  by_cases same : left = right <;> simp [componentsLe, same]

theorem componentsLe_total (lefts rights : List PathComponent) :
    componentsLe lefts rights = true ∨ componentsLe rights lefts = true := by
  induction lefts generalizing rights with
  | nil => exact .inl rfl
  | cons left lefts ih =>
    cases rights with
    | nil => exact .inr rfl
    | cons right rights =>
      have heads := left.le_total right
      have tails := ih rights
      grind [componentsLe_cons]

theorem componentsLe_trans {first second third : List PathComponent}
    (left : componentsLe first second = true) (right : componentsLe second third = true) :
    componentsLe first third = true := by
  induction first generalizing second third with
  | nil => rfl
  | cons a first ih =>
    cases second with
    | nil => cases left
    | cons b second =>
      cases third with
      | nil => cases right
      | cons c third =>
        rw [componentsLe_cons] at left right ⊢
        rcases left with ⟨rfl, left⟩ | ⟨ab, left⟩ <;>
          rcases right with ⟨rfl, right⟩ | ⟨bc, right⟩
        · exact .inl ⟨rfl, ih left right⟩
        · exact .inr ⟨bc, right⟩
        · exact .inr ⟨ab, left⟩
        · refine .inr ⟨?_, PathComponent.le_trans left right⟩
          rintro rfl
          exact ab (PathComponent.le_antisymm left right)

theorem le_trans (first second third : Path) (left : first.le second = true)
    (right : second.le third = true) : first.le third = true :=
  componentsLe_trans left right

theorem le_total (left right : Path) : (left.le right || right.le left) = true := by
  simpa [le] using componentsLe_total left.components right.components

def Before (left right : Path) : Prop :=
  List.Lex PathComponent.Before left.components right.components

theorem lex_of_componentsLe {lefts rights : List PathComponent}
    (ordered : componentsLe lefts rights = true) (different : lefts ≠ rights) :
    List.Lex PathComponent.Before lefts rights := by
  induction lefts generalizing rights with
  | nil =>
    obtain ⟨right, rights, rfl⟩ := List.exists_cons_of_ne_nil (Ne.symm different)
    exact .nil
  | cons left lefts ih =>
    cases rights with
    | nil => cases ordered
    | cons right rights =>
      rcases componentsLe_cons.mp ordered with ⟨rfl, later⟩ | ⟨apart, first⟩
      · exact .cons (ih later fun same => different (by rw [same]))
      · exact .rel (PathComponent.before_of_le first apart)

theorem componentsLe_antisymm {lefts rights : List PathComponent}
    (forth : componentsLe lefts rights = true) (back : componentsLe rights lefts = true) :
    lefts = rights := by
  induction lefts generalizing rights with
  | nil =>
    cases rights with
    | nil => rfl
    | cons => cases back
  | cons left lefts ih =>
    cases rights with
    | nil => cases forth
    | cons right rights =>
      rcases componentsLe_cons.mp forth with ⟨rfl, later⟩ | ⟨apart, first⟩
      · rw [ih later (by simpa [componentsLe] using back)]
      · refine absurd (PathComponent.le_antisymm first ?_) apart
        simpa [componentsLe, Ne.symm apart] using back

end Path

end Assay
