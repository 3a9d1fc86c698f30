import Assay.Text.Lines

/-!
# The lines of a text

A newline separates the lines before it from those after it. Splitting a text and
joining its lines undo each other.
-/

namespace Assay.Text

theorem splitChars_cons (c : Char) (chars : List Char) :
    splitChars (c :: chars) = consPiece c (splitChars chars) :=
  rfl

theorem splitChars_ne_nil (chars : List Char) : splitChars chars ≠ [] := by
  cases chars with
  | nil => simp [splitChars]
  | cons c chars =>
    rw [splitChars_cons]
    unfold consPiece
    split
    · simp
    · split <;> simp

theorem consPiece_append {c : Char} {pieces : List (List Char)} (some : pieces ≠ [])
    (later : List (List Char)) : consPiece c (pieces ++ later) = consPiece c pieces ++ later := by
  obtain ⟨piece, rest, rfl⟩ := List.exists_cons_of_ne_nil some
  unfold consPiece
  split <;> rfl

theorem splitChars_newline (before after : List Char) :
    splitChars (before ++ '\n' :: after) = splitChars before ++ splitChars after := by
  induction before with
  | nil => rfl
  | cons c before ih =>
    rw [List.cons_append, splitChars_cons, ih, consPiece_append (splitChars_ne_nil before),
      splitChars_cons]

theorem splitChars_of_not_mem {line : List Char} (whole : '\n' ∉ line) :
    splitChars line = [line] := by
  induction line with
  | nil => rfl
  | cons c line ih =>
    rw [List.mem_cons, not_or] at whole
    rw [splitChars_cons, ih whole.2, consPiece, if_neg (Ne.symm whole.1)]

theorem splitChars_eq_splitOn (chars : List Char) : splitChars chars = chars.splitOn '\n' := by
  induction chars with
  | nil => rfl
  | cons c chars ih =>
    obtain ⟨piece, later, split⟩ := List.exists_cons_of_ne_nil (List.splitOn_ne_nil '\n' chars)
    rw [splitChars_cons, ih, List.splitOn_cons_eq_if_modifyHead, split]
    simp only [consPiece, beq_iff_eq, List.modifyHead_cons]

theorem newline_not_mem_of_mem_splitChars {chars line : List Char}
    (member : line ∈ splitChars chars) : '\n' ∉ line := by
  induction chars generalizing line with
  | nil => simp_all [splitChars]
  | cons c chars ih =>
    rw [splitChars_cons] at member
    unfold consPiece at member
    split at member
    · rcases List.mem_cons.mp member with rfl | later
      · exact List.not_mem_nil
      · exact ih later
    next other =>
      split at member
      next none => exact absurd none (splitChars_ne_nil chars)
      next piece later pieces =>
        rw [pieces] at ih
        rcases List.mem_cons.mp member with rfl | after
        · exact List.not_mem_cons_of_ne_of_not_mem (Ne.symm other) (ih List.mem_cons_self)
        · exact ih (List.mem_cons_of_mem piece after)

theorem newline_not_mem_of_mem_splitLines {text line : String}
    (member : line ∈ splitLines text) : '\n' ∉ line.toList := by
  obtain ⟨chars, piece, rfl⟩ := List.mem_map.mp member
  rw [String.toList_ofList]
  exact newline_not_mem_of_mem_splitChars piece

theorem joinLines_splitLines (text : String) : joinLines (splitLines text) = text := by
  have pieces : (splitLines text).map String.toList = splitChars text.toList := by
    simp [splitLines, Function.comp_def]
  apply String.toList_injective
  rw [joinLines, String.toList_intercalate, pieces, splitChars_eq_splitOn]
  exact List.intercalate_splitOn '\n'

theorem splitLines_joinLines {lines : List String} (nonempty : lines ≠ [])
    (whole : ∀ line ∈ lines, '\n' ∉ line.toList) : splitLines (joinLines lines) = lines := by
  have pieces : splitChars (joinLines lines).toList = lines.map String.toList := by
    rw [joinLines, String.toList_intercalate, splitChars_eq_splitOn]
    exact List.splitOn_intercalate '\n' (by simpa using whole) (by simpa using nonempty)
  rw [splitLines, pieces, List.map_map]
  simp [Function.comp_def]

theorem newline_not_mem_toDigits (n : Nat) : '\n' ∉ Nat.toDigits 10 n := by
  intro member
  cases Nat.isDigit_of_mem_toDigits (by decide) (by decide) member

theorem displayLines_getLast? {before line : List Char} (whole : '\n' ∉ line)
    (shown : dropReturn line = line) :
    (displayLines (String.ofList (before ++ '\n' :: (line ++ ['\n'])))).getLast? =
      some (String.ofList line) := by
  have pieces : (splitChars (before ++ '\n' :: (line ++ ['\n']))).reverse =
      [] :: line :: (splitChars before).reverse := by
    rw [splitChars_newline, splitChars_newline, splitChars_of_not_mem whole]
    simp [splitChars]
  rw [displayLines, String.toList_ofList, pieces]
  simp [shown]

end Assay.Text
