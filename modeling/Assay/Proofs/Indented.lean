import Assay.Proofs.Lines
import Assay.Proofs.Nested

/-!
# Only a verdict reads as a verdict

What is shown for a fixture is the line of its verdict, and below it only indented lines: each
text of a program is cut into lines before it is shown, and each of them is set in. So whatever a
program writes, exactly one line reads as a verdict.
-/

namespace Assay

/-! ## Lines that are shown -/

namespace Text

theorem splitLines_line {line : String} (whole : '\n' ∉ line.toList) (rest : String) :
    splitLines (line ++ "\n" ++ rest) = line :: splitLines rest := by
  have chars : (line ++ "\n" ++ rest).toList = line.toList ++ '\n' :: rest.toList := by simp
  rw [splitLines, chars, splitChars_newline, splitChars_of_not_mem whole, splitLines]
  simp

theorem splitLines_lines {lines : List String} (whole : ∀ line ∈ lines, '\n' ∉ line.toList) :
    splitLines (String.join (lines.map (· ++ "\n"))) = lines ++ [""] := by
  induction lines with
  | nil => rfl
  | cons line lines ih =>
    rw [List.forall_mem_cons] at whole
    rw [List.map_cons, String.join_cons, splitLines_line whole.1, ih whole.2]
    rfl

theorem mem_of_mem_dropReturn {c : Char} {line : List Char} (member : c ∈ dropReturn line) :
    c ∈ line := by
  unfold dropReturn at member
  split at member
  next before reversed =>
    rw [List.mem_reverse] at member
    exact List.mem_reverse.mp (reversed ▸ List.mem_cons_of_mem _ member)
  next => exact member

theorem newline_not_mem_of_mem_displayLines {text line : String}
    (member : line ∈ displayLines text) : '\n' ∉ line.toList := by
  unfold displayLines at member
  split at member
  next => cases member
  next last before reversed =>
    have pieces : ∀ piece ∈ last :: before, '\n' ∉ piece := fun piece found =>
      newline_not_mem_of_mem_splitChars (List.mem_reverse.mp (reversed ▸ found))
    rw [List.forall_mem_cons] at pieces
    have ended : line ∈ (before.reverse.map dropReturn).map String.ofList →
        '\n' ∉ line.toList := by
      intro found newline
      obtain ⟨_, dropped, rfl⟩ := List.mem_map.mp found
      obtain ⟨piece, split, rfl⟩ := List.mem_map.mp dropped
      rw [String.toList_ofList] at newline
      exact pieces.2 piece (List.mem_reverse.mp split) (mem_of_mem_dropReturn newline)
    split at member
    · exact ended member
    · rcases List.mem_append.mp member with found | found
      · exact ended found
      · rw [List.mem_singleton.mp found, String.toList_ofList]
        exact pieces.1

end Text

/-- One line that is set in. -/
def Span.Indented (span : Span) : Prop :=
  ∃ line : String, span.text = line ++ "\n" ∧ '\n' ∉ line.toList ∧ "  ".toList <+: line.toList

theorem Span.exists_lines {spans : List Span} (indented : ∀ span ∈ spans, span.Indented) :
    ∃ lines : List String, Screen.rendered false spans = String.join (lines.map (· ++ "\n")) ∧
      ∀ line ∈ lines, '\n' ∉ line.toList ∧ "  ".toList <+: line.toList := by
  induction spans with
  | nil => exact ⟨[], rfl, by simp⟩
  | cons span spans ih =>
    rw [List.forall_mem_cons] at indented
    obtain ⟨line, text, set⟩ := indented.1
    obtain ⟨lines, shown, rest⟩ := ih indented.2
    refine ⟨line :: lines, ?_, List.forall_mem_cons.mpr ⟨set, rest⟩⟩
    rw [Screen.rendered_cons, shown, Span.pieces_uncolored, text, List.map_cons, String.join_cons]
    simp

/-! ## The details of a failure -/

theorem Diff.newline_not_mem_lines {change : Diff.Change} {line : DiffLine}
    (member : line ∈ change.lines) :
    ∃ text : String, '\n' ∉ text.toList ∧
      (line = .same text ∨ line = .missing text ∨ line = .extra text) := by
  cases change <;>
  · obtain ⟨text, piece, rfl⟩ := List.mem_map.mp member
    exact ⟨text, Text.newline_not_mem_of_mem_splitLines piece, by simp⟩

theorem newline_not_mem_lineDiff {observed expected : String} {line : DiffLine}
    (member : line ∈ lineDiff observed expected) :
    ∃ text : String, '\n' ∉ text.toList ∧
      (line = .same text ∨ line = .missing text ∨ line = .extra text) := by
  unfold lineDiff lineDiff? at member
  dsimp only at member
  split at member
  next => cases member
  next common found =>
    cases merged : (Diff.merge? _ _).map _ with
    | none =>
      rw [merged] at member
      cases member
    | some lines =>
      obtain ⟨changes, -, rfl⟩ := Option.map_eq_some_iff.mp merged
      rw [merged] at member
      obtain ⟨change, -, shown⟩ := List.mem_flatMap.mp member
      exact Diff.newline_not_mem_lines shown

namespace Console

theorem indented_more (more : Nat) : (plain s!"    ... {more} more lines\n").Indented := by
  refine ⟨s!"    ... {more} more lines", ?_, ?_, ?_⟩
  · simp only [plain, String.append_assoc]
    rfl
  · simp [toString, Text.newline_not_mem_toDigits]
  · simp [toString]

theorem indented_block {text : String} {span : Span} (member : span ∈ block text) :
    span.Indented := by
  unfold block at member
  split at member
  · rw [List.mem_singleton.mp member]
    exact ⟨"    <empty>", rfl, by decide, by decide⟩
  · rcases List.mem_append.mp member with shown | more
    · obtain ⟨line, taken, rfl⟩ := List.mem_map.mp shown
      have whole := Text.newline_not_mem_of_mem_displayLines (List.mem_of_mem_take taken)
      exact ⟨"    " ++ line, rfl, by simpa using whole, by simp⟩
    · split at more
      · exact List.mem_singleton.mp more ▸ indented_more _
      · cases more

theorem indented_diffLine {observed expected : String} {line : DiffLine}
    (member : line ∈ lineDiff observed expected) : (diffLine line).Indented := by
  obtain ⟨text, whole, rfl | rfl | rfl⟩ := newline_not_mem_lineDiff member
  · exact ⟨"     " ++ text, rfl, by simpa using whole, by simp⟩
  · exact ⟨"    -" ++ text, rfl, by simpa using whole, by simp⟩
  · exact ⟨"    +" ++ text, rfl, by simpa using whole, by simp⟩

theorem indented_failureDetails {failure : Failure} :
    ∀ span ∈ failureDetails failure, span.Indented := by
  intro span member
  simp only [failureDetails, List.mem_append, List.mem_singleton] at member
  rcases member with ((((rfl | observed) | cut) | rfl) | expected) | diff
  · exact ⟨"  observed:", rfl, by decide, by decide⟩
  · exact indented_block observed
  · split at cut
    · rw [List.mem_singleton.mp cut]
      exact ⟨"    [output truncated at the capture limit]", rfl, by decide, by decide⟩
    · cases cut
  · exact ⟨"  expected:", rfl, by decide, by decide⟩
  · exact indented_block expected
  · split at diff
    · rcases List.mem_cons.mp diff with rfl | shown
      · exact ⟨"  diff:", rfl, by decide, by decide⟩
      · obtain ⟨line, found, rfl⟩ := List.mem_map.mp shown
        exact indented_diffLine found
    · cases diff

end Console

/-! ## The line of a verdict -/

theorem Text.toString_text (text : String) : toString text = text :=
  rfl

theorem Text.newline_not_mem_repr (code : Int) : '\n' ∉ code.repr.toList := by
  cases code <;> simp [Int.repr, Text.newline_not_mem_toDigits]

theorem FailureKind.newline_not_mem_label (kind : FailureKind) : '\n' ∉ kind.label.toList := by
  cases kind with
  | crashed exitCode =>
    cases exitCode with
    | none => decide
    | some code =>
      show '\n' ∉ ("runtime failure (exit " ++ code.repr ++ ")").toList
      simp [Text.newline_not_mem_repr]
  | timedOut stage => cases stage <;> decide
  | mismatch | missingRejection | buildFailed | harness => decide

/-- The line that a fixture's verdict is shown in. -/
def CaseReport.headline (report : CaseReport) : String :=
  let shown := s!"{report.fixture.id} ({report.millis} ms)"
  match report.verdict with
  | .passed => "PASS " ++ shown
  | .failed failure => "FAIL " ++ shown ++ ": " ++ failure.kind.label

/-- A line that reads as the line of a verdict. -/
def readsAsVerdict (line : String) : Bool :=
  line.startsWith "PASS" || line.startsWith "FAIL"

theorem CaseReport.readsAsVerdict_headline (report : CaseReport) :
    readsAsVerdict report.headline = true := by
  unfold headline
  cases report.verdict <;> simp [readsAsVerdict]

theorem readsAsVerdict_of_indented {line : String} (set : "  ".toList <+: line.toList) :
    readsAsVerdict line = false := by
  obtain ⟨rest, text⟩ := set
  rw [readsAsVerdict, Bool.or_eq_false_iff, ← Bool.not_eq_true, ← Bool.not_eq_true,
    String.startsWith_string_iff, String.startsWith_string_iff, ← text]
  simp

theorem CaseReport.newline_not_mem_headline {report : CaseReport}
    (single : '\n' ∉ report.fixture.id.toList) : '\n' ∉ report.headline.toList := by
  unfold headline
  cases report.verdict with
  | passed => simp [toString, single, Text.newline_not_mem_toDigits]
  | failed failure =>
    simp [toString, single, Text.newline_not_mem_toDigits, failure.kind.newline_not_mem_label]

namespace Console

/-- What is shown below the line of a verdict. -/
def details (report : CaseReport) : List Span :=
  match report.verdict with
  | .passed => []
  | .failed failure => failureDetails failure

theorem indented_details (report : CaseReport) : ∀ span ∈ details report, span.Indented := by
  unfold details
  cases report.verdict with
  | passed => simp
  | failed failure => exact indented_failureDetails

theorem rendered_case (report : CaseReport) : Screen.rendered false (case report) =
    report.headline ++ "\n" ++ Screen.rendered false (details report) := by
  unfold case details CaseReport.headline
  rw [← String.toList_inj]
  cases report.verdict <;>
    simp [Screen.rendered_uncolored, tag, plain, Text.toString_text]

/-- A fixture is shown as the line of its verdict and indented lines, so that one line alone
reads as a verdict. -/
theorem case_shows_one_verdict {screen : Screen} (endless : screen.Endless)
    (uncolored : screen.colored = false) {report : CaseReport}
    (single : '\n' ∉ report.fixture.id.toList) :
    ∃ (after : Screen) (shown : String) (details : List String),
      (Screen.write (case report)).run screen = .ok () after ∧
        after.text = screen.text ++ shown ∧
        shown = String.join ((report.headline :: details).map (· ++ "\n")) ∧
        Text.splitLines shown = report.headline :: details ++ [""] ∧
        (∀ line ∈ details, line.startsWith "  " = true) ∧
        (Text.splitLines shown).countP readsAsVerdict = 1 := by
  obtain ⟨details, rest, set⟩ := Span.exists_lines (indented_details report)
  have written := endless.write (case report)
  have shown : Screen.rendered false (case report) =
      String.join ((report.headline :: details).map (· ++ "\n")) := by
    rw [rendered_case, rest, List.map_cons, String.join_cons]
  have whole : ∀ line ∈ report.headline :: details, '\n' ∉ line.toList :=
    List.forall_mem_cons.mpr
      ⟨report.newline_not_mem_headline single, fun line member => (set line member).1⟩
  have lines := Text.splitLines_lines whole
  have others : ∀ line ∈ details ++ [""], readsAsVerdict line = false := by
    intro line member
    rcases List.mem_append.mp member with detail | last
    · exact readsAsVerdict_of_indented (set line detail).2
    · rw [List.mem_singleton.mp last]
      decide
  refine ⟨_, _, details, written, ?_, rfl, lines, ?_, ?_⟩
  · rw [Screen.write_text written, uncolored, shown]
  · intro line member
    exact String.startsWith_string_iff.mpr (set line member).2
  · rw [lines, List.cons_append, List.countP_cons_of_pos (report.readsAsVerdict_headline),
      List.countP_eq_zero.mpr (by simpa using others)]

/-- A program that writes the line of a passed fixture still fails in one line. -/
theorem case_shows_one_verdict_forged :
    let report : CaseReport :=
      { fixture := { category := "c", name := "a", source := ⟨"a.c"⟩, expected := ⟨"a.txt"⟩ }
        verdict := .failed
          { kind := .mismatch, observed := "1\r\n\nPASS c/a (0 ms)",
            expected := "PASS c/a (0 ms)" } }
    ({} : Screen).Endless ∧ '\n' ∉ report.fixture.id.toList ∧
      ∃ after details, (Screen.write (case report)).run {} = .ok () after ∧
        Text.splitLines after.text = "FAIL c/a (0 ms): output mismatch" :: details ++ [""] ∧
        (Text.splitLines after.text).countP readsAsVerdict = 1 := by
  intro report
  have endless : ({} : Screen).Endless := rfl
  have single : '\n' ∉ report.fixture.id.toList := by decide
  obtain ⟨after, shown, details, written, text, -, lines, -, one⟩ :=
    case_shows_one_verdict endless rfl single
  have headline : report.headline = "FAIL c/a (0 ms): output mismatch" := by decide +kernel
  rw [headline] at lines
  rw [show shown = after.text from (text.trans String.empty_append).symm] at lines one
  exact ⟨endless, single, after, details, written, lines, one⟩

end Console

end Assay
