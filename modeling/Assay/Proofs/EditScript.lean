import Assay.Diff
import Assay.Proofs.Lines
import Assay.Proofs.Trim
import Mathlib.Data.List.Chain
import Mathlib.Data.List.TakeDrop

/-!
# A diff as an edit script

The walk through the table stays inside it, and what it collects is common to both texts in
order. So each round of the merge takes a line, and the changes it makes are an edit script from
the observed lines to the expected ones. The script changes nothing exactly if the texts agree.
-/

namespace Assay

namespace Diff

/-! ## The table -/

theorem length_foldl_nextCell (line : String) (above : List (Nat × String))
    (state : List Nat × Nat × Nat) :
    (above.foldl (nextCell line) state).1.length = state.1.length + above.length := by
  induction above generalizing state with
  | nil => rfl
  | cons cell above ih =>
    rw [List.foldl_cons, ih]
    simp only [nextCell, List.length_cons]
    omega

variable {lefts rights common lines : List String} {above : List Nat} {cells : Array Nat}
  {rest : Rest}

theorem length_nextRow (wide : above.length = rights.length) (line : String) :
    (nextRow rights above line).length = rights.length := by
  rw [nextRow, List.length_reverse, length_foldl_nextCell, List.length_zip, wide, Nat.min_self,
    List.length_nil, Nat.zero_add]

theorem length_rowsFrom (wide : above.length = rights.length) (lefts : List String) :
    (rowsFrom rights above lefts).flatten.length = lefts.length * rights.length := by
  induction lefts generalizing above with
  | nil => simp [rowsFrom]
  | cons line lefts ih =>
    have row := length_nextRow wide line
    rw [rowsFrom, List.flatten_cons, List.length_append, row, ih row, List.length_cons,
      Nat.succ_mul, Nat.add_comm]

theorem size_table (lefts rights : List String) :
    (table lefts rights).size = lefts.length * rights.length := by
  rw [table, List.size_toArray]
  exact length_rowsFrom (List.length_map _) lefts

/-! ## The walk -/

theorem goesLeft?_isSome {height width row column : Nat} (size : cells.size = height * width)
    (low : row < height) (inside : column < width) :
    ∃ left, goesLeft? cells width row column = some left := by
  unfold goesLeft?
  split
  · exact ⟨true, rfl⟩
  next below =>
    obtain ⟨above, rfl⟩ := Nat.exists_eq_succ_of_ne_zero below
    obtain ⟨position, next⟩ : ∃ position, (above + 1) * width + column = position + 1 :=
      Nat.exists_eq_succ_of_ne_zero (by rw [Nat.succ_mul]; omega)
    have fits : (above + 1) * width + column < height * width := by
      calc (above + 1) * width + column < (above + 1) * width + width := by omega
        _ = (above + 2) * width := by rw [Nat.succ_mul (above + 1)]
        _ ≤ height * width := Nat.mul_le_mul_right width low
    have higher : above * width + column < height * width := by
      rw [Nat.succ_mul] at fits
      omega
    have before : cellBefore? cells ((above + 1) * width + column) = some cells[position] := by
      rw [next]
      exact Array.getElem?_eq_getElem (by omega)
    rw [before, Nat.succ_sub_one, Array.getElem?_eq_getElem (size ▸ higher)]
    exact ⟨_, rfl⟩

theorem take_concat {index : Nat} {line : String} (found : lines.toArray[index]? = some line) :
    lines.take (index + 1) = lines.take index ++ [line] := by
  rw [List.getElem?_toArray] at found
  rw [List.take_add_one, found, Option.toList_some]

/-- The walk stays in the table, and what it finds occurs in order in the lines before the
cell, on both sides. -/
theorem walk?_common (size : cells.size = lefts.length * rights.length) (kept : List String)
    {row column : Nat} (low : row ≤ lefts.length) (inside : column ≤ rights.length) :
    ∃ found, walk? cells lefts.toArray rights.toArray kept row column = some (found ++ kept) ∧
      found.Sublist (lefts.take row) ∧ found.Sublist (rights.take column) := by
  fun_induction walk? cells lefts.toArray rights.toArray kept row column with
  | case1 kept row column line atRight atLeft ih =>
    obtain ⟨found, walked, inLefts, inRights⟩ := ih (by omega) (by omega)
    refine ⟨found ++ [line], by simpa using walked, ?_, ?_⟩
    · rw [take_concat atLeft]
      exact inLefts.append_right [line]
    · rw [take_concat atRight]
      exact inRights.append_right [line]
  | case2 => exact ⟨[], rfl, List.nil_sublist _, List.nil_sublist _⟩
  | case3 kept row column left right _ _ _ _ _ ih =>
    obtain ⟨found, walked, inLefts, inRights⟩ := ih low (by omega)
    exact ⟨found, walked, inLefts, inRights.trans (List.take_sublist_take_left (by omega))⟩
  | case4 kept row column left right _ _ _ _ _ ih =>
    obtain ⟨found, walked, inLefts, inRights⟩ := ih (by omega) inside
    exact ⟨found, walked, inLefts.trans (List.take_sublist_take_left (by omega)), inRights⟩
  | case5 kept row column left right _ _ _ _ stuck =>
    obtain ⟨way, known⟩ := goesLeft?_isSome size low inside
    rw [List.size_toArray, known] at stuck
    cases stuck
  | case6 kept row column absent =>
    exact (absent lefts[row] rights[column] (by simp) (by simp)).elim
  | case7 => exact ⟨[], rfl, List.nil_sublist _, List.nil_sublist _⟩

theorem commonLines?_common (lefts rights : List String) :
    ∃ common, commonLines? lefts rights = some common ∧
      common.Sublist lefts ∧ common.Sublist rights := by
  obtain ⟨common, walked, inLefts, inRights⟩ :=
    walk?_common (size_table lefts rights) [] (Nat.le_refl _) (Nat.le_refl _)
  rw [List.append_nil] at walked
  rw [List.take_length] at inLefts inRights
  exact ⟨common, walked, inLefts, inRights⟩

theorem walk?_self (cells : Array Nat) (lines kept : List String) {count : Nat}
    (inside : count ≤ lines.length) :
    walk? cells lines.toArray lines.toArray kept count count = some (lines.take count ++ kept) := by
  induction count generalizing kept with
  | zero => simp [walk?]
  | succ count ih =>
    have line : lines.toArray[count]? = some lines[count] := by simp
    rw [walk?, line]
    simp only [if_pos]
    rw [ih _ (by omega), take_concat line, List.append_assoc, List.singleton_append]

/-! ## Rounds of the merge -/

/-- What the walk found occurs in order on both sides. -/
def Rest.Shared (rest : Rest) : Prop :=
  rest.common.Sublist rest.lefts ∧ rest.common.Sublist rest.rights

/-- Both sides go on with the next common line, or are used up with the common ones. -/
def Rest.Settled (rest : Rest) : Prop :=
  rest.lefts.head? = rest.common.head? ∧ rest.rights.head? = rest.common.head?

theorem takeSame_cons (line : String) (lefts rights common : List String) :
    takeSame ⟨line :: lefts, line :: rights, line :: common⟩ =
      line :: takeSame ⟨lefts, rights, common⟩ := by
  simp [takeSame]

theorem takeSame_self (lines : List String) : takeSame ⟨lines, lines, lines⟩ = lines := by
  induction lines with
  | nil => rfl
  | cons line lines ih => rw [takeSame_cons, ih]

theorem takeSame_append (lefts rights common : List String) :
    ∃ lefts' rights' common', lefts = takeSame ⟨lefts, rights, common⟩ ++ lefts' ∧
      rights = takeSame ⟨lefts, rights, common⟩ ++ rights' ∧
      common = takeSame ⟨lefts, rights, common⟩ ++ common' := by
  induction common generalizing lefts rights with
  | nil => exact ⟨lefts, rights, [], by simp [takeSame]⟩
  | cons line common ih =>
    by_cases heads : lefts.head? = some line ∧ rights.head? = some line
    · obtain ⟨lefts, rfl⟩ := List.head?_eq_some_iff.mp heads.1
      obtain ⟨rights, rfl⟩ := List.head?_eq_some_iff.mp heads.2
      obtain ⟨lefts', rights', common', left, right, shared⟩ := ih lefts rights
      rw [takeSame_cons]
      exact ⟨lefts', rights', common', by rw [List.cons_append, ← left],
        by rw [List.cons_append, ← right], by rw [List.cons_append, ← shared]⟩
    · have none : takeSame ⟨lefts, rights, line :: common⟩ = [] := by
        cases lefts with
        | nil => rfl
        | cons left lefts =>
          cases rights with
          | nil => rfl
          | cons right rights => simpa [takeSame] using heads
      rw [none]
      exact ⟨lefts, rights, line :: common, rfl, rfl, rfl⟩

theorem takeUntil_settled (shared : common.Sublist lines) :
    ∃ taken left, takeUntil common.head? lines = (taken, left) ∧ lines = taken ++ left ∧
      common.Sublist left ∧ left.head? = common.head? := by
  refine ⟨_, _, List.span_eq_takeWhile_dropWhile _ lines,
    List.takeWhile_append_dropWhile.symm, ?_⟩
  cases common with
  | nil =>
    have all : lines.dropWhile (fun line => some line ≠ ([] : List String).head?) = [] := by simp
    rw [all]
    exact ⟨List.Sublist.refl [], rfl⟩
  | cons line common =>
    induction lines with
    | nil => cases shared
    | cons first lines ih =>
      by_cases same : first = line
      · subst same
        simpa using shared
      · have later : (line :: common).Sublist lines := by
          cases shared with
          | cons _ later => exact later
          | cons_cons => exact absurd rfl same
        simpa [same] using ih later

/-- What one round takes, and that it leaves both sides settled. -/
theorem round_splits (shared : rest.Shared) :
    ∃ missing extra after, round rest =
        (run .same (takeSame rest) ++ run .removed missing ++ run .added extra, after) ∧
      rest.lefts = takeSame rest ++ (missing ++ after.lefts) ∧
      rest.rights = takeSame rest ++ (extra ++ after.rights) ∧
      rest.common = takeSame rest ++ after.common ∧ after.Shared ∧ after.Settled := by
  obtain ⟨lefts, rights, common⟩ := rest
  obtain ⟨lefts', rights', common', left, right, next⟩ := takeSame_append lefts rights common
  generalize matched : takeSame ⟨lefts, rights, common⟩ = same at left right next
  subst left right next
  have inLefts : common'.Sublist lefts' := (List.append_sublist_append_left same).mp shared.1
  have inRights : common'.Sublist rights' := (List.append_sublist_append_left same).mp shared.2
  obtain ⟨missing, lefts, takenLeft, rfl, leftShared, leftSettled⟩ := takeUntil_settled inLefts
  obtain ⟨extra, rights, takenRight, rfl, rightShared, rightSettled⟩ := takeUntil_settled inRights
  refine ⟨missing, extra, ⟨lefts, rights, common'⟩, ?_, rfl, rfl, rfl, ⟨leftShared, rightShared⟩,
    leftSettled, rightSettled⟩
  simp only [round, matched, List.drop_left, takenLeft, takenRight]

theorem takeSame_of_settled (settled : rest.Settled)
    (more : (rest.lefts.isEmpty && rest.rights.isEmpty) = false) :
    ∃ line same, takeSame rest = line :: same := by
  obtain ⟨lefts, rights, common⟩ := rest
  obtain ⟨atLeft, atRight⟩ := settled
  cases common with
  | nil => simp_all
  | cons line common =>
    obtain ⟨lefts, rfl⟩ := List.head?_eq_some_iff.mp atLeft
    obtain ⟨rights, rfl⟩ := List.head?_eq_some_iff.mp atRight
    exact ⟨line, _, takeSame_cons line lefts rights common⟩

theorem round_shorter (shared : rest.Shared)
    (more : (rest.lefts.isEmpty && rest.rights.isEmpty) = false) :
    (round rest).2.lefts.length + (round rest).2.rights.length <
      rest.lefts.length + rest.rights.length := by
  obtain ⟨missing, extra, after, taken, left, right, next, -, settled⟩ := round_splits shared
  have lefts := congrArg List.length left
  have rights := congrArg List.length right
  simp only [List.length_append] at lefts rights
  rw [taken]
  dsimp only
  by_contra same
  have idle : takeSame rest = [] ∧ missing = [] ∧ extra = [] := by
    simp only [← List.length_eq_zero_iff]
    omega
  -- A round that takes nothing starts from settled sides, and there it takes the common line.
  rw [idle.1, List.nil_append] at left right next
  rw [idle.2.1, List.nil_append] at left
  rw [idle.2.2, List.nil_append] at right
  have before : rest.Settled := by
    unfold Rest.Settled
    rwa [left, right, next]
  obtain ⟨line, lines, some⟩ := takeSame_of_settled before more
  rw [idle.1] at some
  cases some

/-! ## The edit script -/

/-- No line contains a newline. -/
def Rest.Whole (rest : Rest) : Prop :=
  ∀ line, line ∈ rest.lefts ∨ line ∈ rest.rights → '\n' ∉ line.toList

theorem flatMap_run (tag : String → Change) (mark : String → DiffLine)
    (marked : ∀ text, (tag text).lines = (Text.splitLines text).map mark)
    (whole : ∀ line ∈ lines, '\n' ∉ line.toList) :
    (run tag lines).flatMap Change.lines = lines.map mark := by
  unfold run
  split
  next none => simp [List.isEmpty_iff.mp none]
  next some =>
    rw [List.flatMap_singleton, marked, Text.splitLines_joinLines (by simpa using some) whole]

end Diff

namespace DiffLine

/-- The line of the expected text that a line of a diff stands for. -/
def expected? : DiffLine → Option String
  | .same line | .missing line => some line
  | .extra _ => none

/-- The line of the observed text that a line of a diff stands for. -/
def observed? : DiffLine → Option String
  | .same line | .extra line => some line
  | .missing _ => none

/-- Whether a line may stand right before another: missing lines come before extra ones. -/
def Precedes : DiffLine → DiffLine → Prop
  | .extra _, .missing _ => False
  | _, _ => True

end DiffLine

namespace Diff

variable {rest : Rest} {rounds : Nat} {text : String} {common : List String}

/-- The lines of a diff turn one side into the other. -/
structure Script (rest : Rest) (lines : List DiffLine) : Prop where
  expected : lines.filterMap DiffLine.expected? = rest.lefts
  observed : lines.filterMap DiffLine.observed? = rest.rights
  ordered : lines.IsChain DiffLine.Precedes
  /-- From settled sides no missing line comes first. -/
  settled : rest.Settled → ∀ line, lines.head? ≠ some (.missing line)

theorem isChain_map_append (mark : String → DiffLine) {after : List DiffLine}
    (alike : ∀ line next, (mark line).Precedes (mark next))
    (joins : ∀ line, ∀ next ∈ after.head?, (mark line).Precedes next)
    (chained : after.IsChain DiffLine.Precedes) (lines : List String) :
    (lines.map mark ++ after).IsChain DiffLine.Precedes := by
  refine List.IsChain.append ?_ chained ?_
  · exact (List.pairwise_map.mpr (List.pairwise_of_forall alike)).isChain
  · intro line last next first
    obtain ⟨line, -, rfl⟩ := List.mem_map.mp (List.mem_of_getLast? last)
    exact joins line next first

theorem script_round {after : Rest} {missing extra : List String} {lines : List DiffLine}
    (left : rest.lefts = takeSame rest ++ (missing ++ after.lefts))
    (right : rest.rights = takeSame rest ++ (extra ++ after.rights)) (settled : after.Settled)
    (script : Script after lines) :
    Script rest ((takeSame rest).map .same ++ (missing.map .missing ++
      (extra.map .extra ++ lines))) where
  expected := by
    rw [left, ← script.expected]
    simp [DiffLine.expected?, List.filterMap_map, Function.comp_def]
  observed := by
    rw [right, ← script.observed]
    simp [DiffLine.observed?, List.filterMap_map, Function.comp_def]
  ordered := by
    refine isChain_map_append .same (fun _ _ => trivial)
      (fun _ next _ => by cases next <;> trivial) ?_ _
    refine isChain_map_append .missing (fun _ _ => trivial)
      (fun _ next _ => by cases next <;> trivial) ?_ _
    refine isChain_map_append .extra (fun _ _ => trivial) (fun _ next first => ?_) script.ordered _
    cases next with
    | missing line => exact script.settled settled line first
    | same | extra => trivial
  settled := by
    intro before line
    cases more : rest.lefts.isEmpty && rest.rights.isEmpty with
    | true =>
      simp only [Bool.and_eq_true, List.isEmpty_iff] at more
      rw [more.1] at left
      rw [more.2] at right
      simp only [List.nil_eq, List.append_eq_nil_iff] at left right
      simpa [left.1, left.2.1, right.2.1] using script.settled settled line
    | false =>
      obtain ⟨first, same, taken⟩ := takeSame_of_settled before more
      simp [taken]

theorem script_nil (done : (rest.lefts.isEmpty && rest.rights.isEmpty) = true) :
    Script rest [] := by
  simp only [Bool.and_eq_true, List.isEmpty_iff] at done
  exact ⟨done.1.symm, done.2.symm, .nil, fun _ _ => nofun⟩

theorem merge?_of_done (done : (rest.lefts.isEmpty && rest.rights.isEmpty) = true) (rounds : Nat) :
    merge? rounds rest = some [] := by
  unfold merge?
  rw [if_pos done]

/-- The merge ends, after no more rounds than there are lines. -/
theorem merge?_script (shared : rest.Shared) (whole : rest.Whole)
    (enough : rest.lefts.length + rest.rights.length ≤ rounds) :
    ∃ changes, merge? rounds rest = some changes ∧
      Script rest (changes.flatMap Change.lines) := by
  induction rounds generalizing rest with
  | zero =>
    have done : (rest.lefts.isEmpty && rest.rights.isEmpty) = true := by
      simp only [Bool.and_eq_true, List.isEmpty_iff, ← List.length_eq_zero_iff]
      omega
    exact ⟨[], merge?_of_done done 0, script_nil done⟩
  | succ rounds ih =>
    cases more : rest.lefts.isEmpty && rest.rights.isEmpty with
    | true => exact ⟨[], merge?_of_done more _, script_nil more⟩
    | false =>
      have shorter := round_shorter shared more
      obtain ⟨missing, extra, after, taken, left, right, -, shared', settled⟩ :=
        round_splits shared
      rw [taken] at shorter
      have whole' : after.Whole := by
        intro line member
        apply whole line
        rw [left, right]
        simp only [List.mem_append]
        tauto
      obtain ⟨changes, merged, script⟩ := ih shared' whole' (by dsimp only at shorter; omega)
      refine ⟨run .same (takeSame rest) ++ run .removed missing ++ run .added extra ++ changes,
        ?_, ?_⟩
      · rw [merge?, more, taken]
        simp [merged]
      · have same := flatMap_run .same .same (fun _ => rfl) fun line member =>
          whole line (.inl (left ▸ List.mem_append_left _ member))
        have gone := flatMap_run .removed .missing (fun _ => rfl) fun line member =>
          whole line (.inl (left ▸ List.mem_append_right _ (List.mem_append_left _ member)))
        have came := flatMap_run .added .extra (fun _ => rfl) fun line member =>
          whole line (.inr (right ▸ List.mem_append_right _ (List.mem_append_left _ member)))
        simp only [List.flatMap_append, same, gone, came, List.append_assoc]
        exact script_round left right settled script

/-! ## The texts -/

theorem mergeLines_eq (text : String) :
    mergeLines text = if text = "" then [] else Text.splitLines text := by
  simp only [mergeLines, String.isEmpty_iff]

theorem mergeLines_of_ne (nonempty : text ≠ "") : mergeLines text = Text.splitLines text := by
  rw [mergeLines_eq, if_neg nonempty]

theorem joinLines_mergeLines (text : String) : Text.joinLines (mergeLines text) = text := by
  by_cases empty : text = ""
  · subst empty
    rfl
  · rw [mergeLines_of_ne empty, Text.joinLines_splitLines]

theorem mem_splitLines_of_mem_mergeLines {line : String} (member : line ∈ mergeLines text) :
    line ∈ Text.splitLines text := by
  rw [mergeLines_eq] at member
  split at member
  · cases member
  · exact member

/-- A common part that is one empty line is lost, and no other. -/
theorem mergeLines_joinLines_sublist (within : common.Sublist (Text.splitLines text)) :
    (mergeLines (Text.joinLines common)).Sublist (mergeLines text) := by
  by_cases empty : Text.joinLines common = ""
  · rw [empty]
    exact List.nil_sublist _
  · have nonempty : common ≠ [] := by
      rintro rfl
      exact empty rfl
    have whole : ∀ line ∈ common, '\n' ∉ line.toList := fun line member =>
      Text.newline_not_mem_of_mem_splitLines (within.subset member)
    have lines : text ≠ "" := by
      rintro rfl
      have single : common = [""] := by
        rcases List.sublist_singleton.mp within with none | one
        · exact absurd none nonempty
        · exact one
      rw [single] at empty
      exact empty rfl
    rw [mergeLines_of_ne empty, mergeLines_of_ne lines, Text.splitLines_joinLines nonempty whole]
    exact within

theorem start_lefts (left right : String) (common : List String) :
    (start left right common).lefts = mergeLines left :=
  rfl

theorem start_rights (left right : String) (common : List String) :
    (start left right common).rights = mergeLines right :=
  rfl

theorem start_shared {left right : String} (inLefts : common.Sublist (Text.splitLines left))
    (inRights : common.Sublist (Text.splitLines right)) : (start left right common).Shared :=
  ⟨mergeLines_joinLines_sublist inLefts, mergeLines_joinLines_sublist inRights⟩

theorem start_whole (left right : String) (common : List String) :
    (start left right common).Whole := by
  intro line member
  rw [start_lefts, start_rights] at member
  rcases member with member | member <;>
    exact Text.newline_not_mem_of_mem_splitLines (mem_splitLines_of_mem_mergeLines member)

end Diff

theorem lineDiff_script (observed expected : String) :
    ∃ common changes,
      Diff.commonLines? (Text.splitLines (Text.trim expected))
        (Text.splitLines (Text.trim observed)) = some common ∧
      (∃ rounds, Diff.merge? rounds
        (Diff.start (Text.trim expected) (Text.trim observed) common) = some changes) ∧
      lineDiff observed expected = changes.flatMap Diff.Change.lines ∧
      Diff.Script (Diff.start (Text.trim expected) (Text.trim observed) common)
        (lineDiff observed expected) := by
  obtain ⟨common, found, inLefts, inRights⟩ := Diff.commonLines?_common
    (Text.splitLines (Text.trim expected)) (Text.splitLines (Text.trim observed))
  obtain ⟨changes, merged, script⟩ :=
    Diff.merge?_script (Diff.start_shared inLefts inRights) (Diff.start_whole _ _ common) le_rfl
  have lines : lineDiff observed expected = changes.flatMap Diff.Change.lines := by
    simp [lineDiff, lineDiff?, found, merged]
  rw [lines]
  exact ⟨common, changes, found, ⟨_, merged⟩, rfl, script⟩

/-- There always is a line diff: the walk finds every cell and line that it looks at, and the
merge ends. Its lines are those of the expected text and those of the observed text, each in
order, and no missing line stands right after an extra one. -/
theorem lineDiff_faithful (observed expected : String) :
    ∃ common changes,
      Diff.commonLines? (Text.splitLines (Text.trim expected))
        (Text.splitLines (Text.trim observed)) = some common ∧
      (∃ rounds, Diff.merge? rounds
        (Diff.start (Text.trim expected) (Text.trim observed) common) = some changes) ∧
      lineDiff observed expected = changes.flatMap Diff.Change.lines ∧
      (lineDiff observed expected).filterMap DiffLine.expected? =
        (if Text.trim expected = "" then [] else Text.splitLines (Text.trim expected)) ∧
      (lineDiff observed expected).filterMap DiffLine.observed? =
        (if Text.trim observed = "" then [] else Text.splitLines (Text.trim observed)) ∧
      ∀ before came gone after,
        lineDiff observed expected ≠ before ++ .extra came :: .missing gone :: after := by
  obtain ⟨common, changes, found, merged, lines, script⟩ := lineDiff_script observed expected
  refine ⟨common, changes, found, merged, lines, ?_, ?_, ?_⟩
  · rw [script.expected, Diff.start_lefts, Diff.mergeLines_eq]
  · rw [script.observed, Diff.start_rights, Diff.mergeLines_eq]
  · intro before came gone after split
    exact List.isChain_iff_forall_rel_of_append_cons_cons.mp script.ordered split

/-! ## Diffs and comparisons -/

namespace Diff

theorem mergeLines_injective {left right : String} (same : mergeLines left = mergeLines right) :
    left = right := by
  rw [← joinLines_mergeLines left, same, joinLines_mergeLines]

theorem commonLines?_self (lines : List String) : commonLines? lines lines = some lines := by
  rw [commonLines?, walk?_self _ _ _ le_rfl, List.take_length, List.append_nil]

theorem round_self (lines : List String) :
    round ⟨lines, lines, lines⟩ = (run .same lines, ⟨[], [], []⟩) := by
  simp [round, takeSame_self, takeUntil, run]

theorem merge?_self {rounds : Nat} {lines : List String} (enough : lines.length ≤ rounds) :
    merge? rounds ⟨lines, lines, lines⟩ = some (run .same lines) := by
  cases lines with
  | nil => exact merge?_of_done rfl rounds
  | cons line lines =>
    obtain ⟨rounds, rfl⟩ := Nat.exists_eq_add_of_le' enough
    rw [List.length_cons, ← Nat.add_assoc, merge?, round_self]
    simp [merge?_of_done]

end Diff

theorem lineDiff_of_agrees {observed expected : String} (same : agrees observed expected = true) :
    lineDiff observed expected = (Diff.mergeLines (Text.trim expected)).map .same := by
  have whole : ∀ line ∈ Diff.mergeLines (Text.trim expected), '\n' ∉ line.toList :=
    fun line member => Text.newline_not_mem_of_mem_splitLines
      (Diff.mem_splitLines_of_mem_mergeLines member)
  rw [lineDiff, lineDiff?, agrees_iff.mp same]
  simp only [Diff.commonLines?_self, Diff.start, Text.joinLines_splitLines]
  rw [Diff.merge?_self (Nat.le_add_right _ _)]
  simpa using Diff.flatMap_run .same .same (fun _ => rfl) whole

/-- The diff shows no change exactly when the texts agree. -/
theorem lineDiff_unchanged_iff_agrees (observed expected : String) :
    ((∀ line, .missing line ∉ lineDiff observed expected) ∧
      ∀ line, .extra line ∉ lineDiff observed expected) ↔ agrees observed expected = true := by
  constructor
  · intro ⟨noneGone, noneCame⟩
    obtain ⟨common, changes, -, -, -, script⟩ := lineDiff_script observed expected
    have sides : (lineDiff observed expected).filterMap DiffLine.observed? =
        (lineDiff observed expected).filterMap DiffLine.expected? := by
      refine List.filterMap_congr fun line member => ?_
      cases line with
      | same line => rfl
      | missing line => exact absurd member (noneGone line)
      | extra line => exact absurd member (noneCame line)
    rw [script.expected, script.observed, Diff.start_lefts, Diff.start_rights] at sides
    exact agrees_iff.mpr (Diff.mergeLines_injective sides)
  · intro same
    rw [lineDiff_of_agrees same]
    simp

end Assay
