import Assay.Proofs.EditScript
import Assay.Proofs.Indented

/-!
# How much is shown for a fixture

Of an observed and of an expected text the first lines are shown. The diff of two complete texts is
shown whole, so a mismatch can take any number of lines, and nothing else can.
-/

namespace Assay

namespace Text

/-- How many lines end in a text. -/
def lineEnds (text : String) : Nat :=
  text.toList.count '\n'

@[simp] theorem lineEnds_append (first second : String) :
    lineEnds (first ++ second) = lineEnds first + lineEnds second := by
  simp [lineEnds]

theorem lineEnds_of_not_mem {text : String} (whole : '\n' ∉ text.toList) : lineEnds text = 0 :=
  List.count_eq_zero.mpr whole

theorem length_splitLines (text : String) : (splitLines text).length = lineEnds text + 1 := by
  unfold splitLines lineEnds
  rw [List.length_map]
  induction text.toList with
  | nil => rfl
  | cons c chars ih =>
    obtain ⟨piece, later, pieces⟩ := List.exists_cons_of_ne_nil (splitChars_ne_nil chars)
    rw [pieces] at ih
    rw [splitChars_cons, pieces, List.count_cons, ← Nat.add_right_comm, ← ih]
    unfold consPiece
    split <;> simp_all

end Text

open Text (lineEnds lineEnds_append lineEnds_of_not_mem)

/-! ## Lines on a screen -/

theorem Span.lineEnds_pieces (colored : Bool) (span : Span) :
    lineEnds (String.join ((span.pieces colored).map Piece.text)) = lineEnds span.text := by
  have reset : lineEnds reset.text = 0 := by decide
  have opening (style : Style) :
      lineEnds (String.join ((opening style).map Piece.text)) = 0 := by
    obtain ⟨color, bold⟩ := style
    cases color <;> cases bold <;> decide
  unfold pieces
  cases span.style <;> cases colored <;> simp [reset, opening, String.join_append]

namespace Screen

/-- The screen that is left by a write, whether or not something was refused. -/
def left (screen : Screen) (spans : List Span) : Screen :=
  match (write spans).run screen with
  | .ok _ after => after
  | .error _ after => after

theorem left_text (screen : Screen) (spans : List Span) :
    ∃ rest, screen.text ++ rendered screen.colored spans = (screen.left spans).text ++ rest := by
  unfold left
  cases written : (write spans).run screen with
  | ok _ after => exact ⟨"", by rw [write_text written, String.append_empty]⟩
  | error fault after =>
    rw [write_run] at written
    obtain ⟨taken, rest, all, rfl⟩ := putAll_error written
    refine ⟨String.join (rest.map Piece.text), ?_⟩
    rw [rendered, texts, all, List.map_append, String.join_append, shows_text,
      String.append_assoc]

theorem lineEnds_rendered_cons (colored : Bool) (span : Span) (spans : List Span) :
    lineEnds (rendered colored (span :: spans)) =
      lineEnds span.text + lineEnds (rendered colored spans) := by
  rw [rendered_cons, lineEnds_append, span.lineEnds_pieces]

theorem lineEnds_rendered (colored : Bool) (spans : List Span) :
    lineEnds (rendered colored spans) = lineEnds (rendered false spans) := by
  induction spans with
  | nil => rfl
  | cons span spans ih => rw [lineEnds_rendered_cons, lineEnds_rendered_cons, ih]

theorem lineEnds_left (screen : Screen) (spans : List Span) :
    lineEnds (screen.left spans).text ≤
      lineEnds screen.text + lineEnds (rendered screen.colored spans) := by
  obtain ⟨rest, all⟩ := screen.left_text spans
  rw [← lineEnds_append, all, lineEnds_append]
  exact Nat.le_add_right _ _

end Screen

theorem Span.Indented.lineEnds {span : Span} (indented : span.Indented) :
    Text.lineEnds span.text = 1 := by
  obtain ⟨line, text, whole, -⟩ := indented
  rw [text, lineEnds_append, lineEnds_of_not_mem whole]
  rfl

theorem Span.lineEnds_rendered {spans : List Span} (indented : ∀ span ∈ spans, span.Indented)
    (colored : Bool) : Text.lineEnds (Screen.rendered colored spans) = spans.length := by
  induction spans with
  | nil => rfl
  | cons span spans ih =>
    rw [List.forall_mem_cons] at indented
    rw [Screen.lineEnds_rendered_cons, indented.1.lineEnds, ih indented.2, List.length_cons]
    omega

/-! ## The length of a diff -/

theorem length_lineDiff (observed expected : String) :
    (lineDiff observed expected).length ≤ (Diff.mergeLines (Text.trim expected)).length +
        (Diff.mergeLines (Text.trim observed)).length ∧
      (Diff.mergeLines (Text.trim observed)).length ≤ (lineDiff observed expected).length := by
  obtain ⟨common, -, -, -, -, script⟩ := lineDiff_script observed expected
  rw [← Diff.start_lefts (Text.trim expected) (Text.trim observed) common,
    ← Diff.start_rights (Text.trim expected) (Text.trim observed) common,
    ← script.expected, ← script.observed]
  refine ⟨?_, List.length_filterMap_le _ _⟩
  -- Each line is one of the expected text or one of the observed text.
  generalize lineDiff observed expected = lines
  induction lines with
  | nil => exact Nat.zero_le _
  | cons line lines ih =>
    cases line <;> simp [List.filterMap_cons, DiffLine.expected?, DiffLine.observed?] <;> omega

theorem length_mergeLines (text : String) :
    (Diff.mergeLines text).length ≤ (Text.splitLines text).length := by
  rw [Diff.mergeLines_eq]
  split
  · exact Nat.zero_le _
  · exact le_rfl

theorem exists_observed (count : Nat) :
    ∃ observed, (Diff.mergeLines (Text.trim observed)).length = count + 1 := by
  let chars := ('x' :: List.replicate count '\n') ++ ['x']
  have letter : ¬Text.IsSpace 'x' := mt Text.isBlank_iff.mpr (by decide)
  have bare : Text.Bare chars := by
    refine ⟨fun c head => ?_, fun c last => ?_⟩
    · exact Option.some.inj head ▸ letter
    · have ends : chars.getLast? = some 'x' := List.getLast?_concat
      exact Option.some.inj (ends.symm.trans last) ▸ letter
  refine ⟨String.ofList chars, ?_⟩
  have whole : Text.trim (String.ofList chars) = String.ofList chars :=
    Text.trim_of_bare (String.toList_ofList.symm ▸ bare)
  have nonempty : String.ofList chars ≠ "" := by simp [chars]
  rw [whole, Diff.mergeLines_of_ne nonempty, Text.length_splitLines, lineEnds,
    String.toList_ofList]
  simp [chars]

namespace Console

/-! ## Lines for a fixture -/

theorem length_block (text : String) : (block text).length ≤ maxBlockLines + 1 := by
  unfold block
  split
  · exact Nat.le_add_left _ _
  · rw [List.length_append, List.length_map]
    refine Nat.add_le_add (List.length_take_le _ _) ?_
    split <;> simp

/-- The diff that is shown for a fixture. -/
def shownDiff (report : CaseReport) : List DiffLine :=
  match report.verdict with
  | .passed => []
  | .failed failure =>
    if failure.kind = .mismatch ∧ failure.truncated = false then
      lineDiff failure.observed failure.expected
    else []

theorem length_details (report : CaseReport) :
    (details report).length ≤ 2 * maxBlockLines + 5 + (shownDiff report).length ∧
      (shownDiff report).length ≤ (details report).length := by
  unfold details shownDiff
  cases report.verdict with
  | passed => exact ⟨Nat.zero_le _, le_rfl⟩
  | failed failure =>
    have observed := length_block failure.observed
    have expected := length_block failure.expected
    simp only [failureDetails, List.length_append, List.length_singleton]
    cases failure.truncated <;> by_cases mismatch : failure.kind = .mismatch <;>
      simp [mismatch] <;> omega

theorem lineEnds_rendered_case {report : CaseReport} (single : '\n' ∉ report.fixture.id.toList)
    (colored : Bool) :
    lineEnds (Screen.rendered colored (case report)) = 1 + (details report).length := by
  rw [Screen.lineEnds_rendered, rendered_case, lineEnds_append, lineEnds_append,
    lineEnds_of_not_mem (report.newline_not_mem_headline single),
    Span.lineEnds_rendered (indented_details report)]
  rfl

/-- Failures of a kind, with or without a text that was cut off, are shown in a bounded number of
lines. -/
def Bounded (kind : FailureKind) (truncated : Bool) : Prop :=
  ∃ bound, ∀ (screen : Screen) (report : CaseReport) (failure : Failure),
    '\n' ∉ report.fixture.id.toList → report.verdict = .failed failure →
      failure.kind = kind → failure.truncated = truncated →
        lineEnds (screen.left (case report)).text ≤ lineEnds screen.text + bound

theorem lineEnds_left_case {report : CaseReport} (single : '\n' ∉ report.fixture.id.toList)
    (screen : Screen) : lineEnds (screen.left (case report)).text ≤
      lineEnds screen.text + (2 * maxBlockLines + 6) + (shownDiff report).length := by
  have shown := screen.lineEnds_left (case report)
  have count := (length_details report).1
  rw [lineEnds_rendered_case single] at shown
  omega

/-- There are failures with a diff of any length. -/
theorem exists_longer_mismatch (bound : Nat) :
    ∃ (report : CaseReport) (failure : Failure), '\n' ∉ report.fixture.id.toList ∧
      report.verdict = .failed failure ∧ failure.kind = .mismatch ∧ failure.truncated = false ∧
        bound < lineEnds (({} : Screen).left (case report)).text := by
  obtain ⟨observed, lines⟩ := exists_observed bound
  let failure : Failure := { kind := .mismatch, observed, expected := "" }
  let fixture : Fixture :=
    { category := "c", name := "a", source := ⟨"a.c"⟩, expected := ⟨"a.txt"⟩ }
  let report : CaseReport := { fixture, verdict := .failed failure }
  have single : '\n' ∉ report.fixture.id.toList := show '\n' ∉ fixture.id.toList by decide
  have diff := (length_lineDiff observed "").2
  have shown : (lineDiff observed "").length ≤ (details report).length :=
    (length_details report).2
  have endless : ({} : Screen).Endless := rfl
  have written := endless.write (case report)
  refine ⟨report, failure, single, rfl, rfl, rfl, ?_⟩
  rw [Screen.left, written]
  dsimp only
  rw [Screen.write_text written, lineEnds_append, lineEnds_rendered_case single]
  omega

/-- A fixture is shown in at most 86 lines and the lines of its diff, which are no more than those
of the two texts. The failures of a kind take a bounded number of lines, unless they come with a
diff. -/
theorem case_bounded_iff_no_diff (kind : FailureKind) (truncated : Bool) :
    (∀ (screen : Screen) (report : CaseReport), '\n' ∉ report.fixture.id.toList →
      lineEnds (screen.left (case report)).text ≤
        lineEnds screen.text + (2 * maxBlockLines + 6) + (shownDiff report).length) ∧
    (∀ observed expected : String, (lineDiff observed expected).length ≤
      (Text.splitLines (Text.trim expected)).length +
        (Text.splitLines (Text.trim observed)).length) ∧
    (Bounded kind truncated ↔ ¬(kind = .mismatch ∧ truncated = false)) := by
  refine ⟨fun screen report single => lineEnds_left_case single screen,
    fun observed expected => ?_, ⟨?_, fun other => ⟨2 * maxBlockLines + 6, ?_⟩⟩⟩
  · have lines := (length_lineDiff observed expected).1
    have left := length_mergeLines (Text.trim expected)
    have right := length_mergeLines (Text.trim observed)
    omega
  · rintro ⟨bound, bounded⟩ ⟨rfl, rfl⟩
    obtain ⟨report, failure, single, failed, mismatch, complete, longer⟩ :=
      exists_longer_mismatch bound
    have within := bounded {} report failure single failed mismatch complete
    exact absurd within (by simpa [Screen.text, lineEnds] using longer)
  · rintro screen report failure single failed rfl rfl
    have shown := lineEnds_left_case single screen
    have none : shownDiff report = [] := by simp only [shownDiff, failed, if_neg other]
    rwa [none, List.length_nil, Nat.add_zero] at shown

/-- No number of lines is enough for all fixtures. -/
theorem case_unbounded : ¬∃ bound, ∀ report : CaseReport, '\n' ∉ report.fixture.id.toList →
    lineEnds (({} : Screen).left (case report)).text ≤ bound := by
  rintro ⟨bound, bounded⟩
  obtain ⟨report, -, single, -, -, -, longer⟩ := exists_longer_mismatch bound
  exact absurd (bounded report single) (Nat.not_le_of_lt longer)

end Console

end Assay
