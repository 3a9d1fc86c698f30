import Assay.Diff
import Assay.Screen
import Assay.Tally

/-!
# The console report

What is shown for a category, a fixture, a listing and the tally, as spans.
Every line of an observed or expected text is indented, so that no text can
look like a line of the report itself.
-/

namespace Assay.Console

def plain (text : String) : Span :=
  { text }

/-- How many lines of an observed or expected text are shown. -/
def maxBlockLines : Nat := 40

def tag (passed : Bool) : Span :=
  if passed then { text := "PASS", style := some { color := .green, bold := true } }
  else { text := "FAIL", style := some { color := .red, bold := true } }

def category (name : String) (count : Nat) : List Span :=
  [{ text := "== " ++ name, style := some { color := .cyan, bold := true } },
    plain s!" ({count} cases)\n"]

/-- The first lines of a text, and how many more there are. -/
def block (text : String) : List Span :=
  if text.isEmpty then [plain "    <empty>\n"]
  else
    let lines := Text.displayLines text
    let more := lines.length - maxBlockLines
    (lines.take maxBlockLines).map (fun line => plain ("    " ++ line ++ "\n"))
      ++ if more > 0 then [plain s!"    ... {more} more lines\n"] else []

def diffLine : DiffLine → Span
  | .same line => plain ("     " ++ line ++ "\n")
  | .missing line => { text := "    -" ++ line ++ "\n", style := some { color := .green } }
  | .extra line => { text := "    +" ++ line ++ "\n", style := some { color := .red } }

/-- The details of a failure. Only a complete text that does not match is
shown as a diff as well. -/
def failureDetails (failure : Failure) : List Span :=
  [plain "  observed:\n"] ++ block failure.observed
    ++ (if failure.truncated then [plain "    [output truncated at the capture limit]\n"] else [])
    ++ [plain "  expected:\n"] ++ block failure.expected
    ++ if failure.kind = .mismatch ∧ failure.truncated = false then
        plain "  diff:\n" :: (lineDiff failure.observed failure.expected).map diffLine
      else []

def case (report : CaseReport) : List Span :=
  let id := report.fixture.id
  match report.verdict with
  | .passed => [tag true, plain s!" {id} ({report.millis} ms)\n"]
  | .failed failure =>
    [tag false, plain s!" {id} ({report.millis} ms): {failure.kind.label}\n"]
      ++ failureDetails failure

def listing (name : String) (fixtures : List Fixture) : List Span :=
  category name fixtures.length
    ++ fixtures.map fun fixture =>
      plain ("  " ++ fixture.name ++ (if fixture.stdin.isSome then " [stdin]" else "") ++ "\n")

def categoryCounts (counts : CategoryTally) : Span :=
  plain (counts.name
    ++ s!": {counts.passed} passed, {counts.failed} failed, {counts.discovered} discovered\n")

def tally (tally : Tally) : List Span :=
  [plain "\n"] ++ tally.categories.map categoryCounts
    ++ (if tally.notRun > 0 then [plain s!"{tally.notRun} cases not run (fail-fast)\n"] else [])
    ++ (if tally.failures.isEmpty then []
      else plain "\nFailed cases:\n" :: tally.failures.map fun failed =>
        plain ("  - " ++ failed.id ++ " (" ++ failed.failure.kind.label ++ ")\n"))
    ++ [plain "\n", tag tally.allPassed,
      plain s!" {tally.passed} of {tally.total} cases passed in {tally.durationMs} ms\n"]

end Assay.Console
