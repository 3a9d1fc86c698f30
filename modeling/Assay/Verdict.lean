import Assay.Fixture
import Assay.Text.Blank

/-!
# Verdicts

The final classification of one fixture: passed, or failed for one of six
reasons with the observed and the expected text.
-/

namespace Assay

inductive Stage where
  | compile
  | build
  | run
  deriving DecidableEq, Repr

def Stage.label : Stage → String
  | .compile => "compile"
  | .build => "build"
  | .run => "run"

inductive FailureKind where
  | mismatch
  | missingRejection
  | buildFailed
  | crashed (exitCode : Option Int)
  | timedOut (stage : Stage)
  | harness
  deriving DecidableEq, Repr, Inhabited

def FailureKind.label : FailureKind → String
  | .mismatch => "output mismatch"
  | .missingRejection => "expected the compiler to reject"
  | .buildFailed => "build failure"
  | .crashed (some code) => s!"runtime failure (exit {code})"
  | .crashed none => "runtime failure"
  | .timedOut stage => s!"timed out during {stage.label}"
  | .harness => "harness error"

structure Failure where
  kind : FailureKind
  observed : String
  expected : String
  /-- The observed text is only the part that was kept of a longer one. -/
  truncated : Bool := false
  deriving DecidableEq, Repr, Inhabited

inductive Verdict where
  | passed
  | failed (failure : Failure)
  deriving DecidableEq, Repr, Inhabited

namespace Verdict

def fail (kind : FailureKind) (observed expected : String) : Verdict :=
  .failed { kind, observed := Text.trim observed, expected := Text.trim expected }

def truncated : Verdict → Verdict
  | .passed => .passed
  | .failed failure => .failed { failure with truncated := true }

def isPassed : Verdict → Bool
  | .passed => true
  | .failed _ => false

end Verdict

structure CaseReport where
  fixture : Fixture
  verdict : Verdict
  micros : Nat := 0
  deriving DecidableEq, Repr, Inhabited

def CaseReport.millis (report : CaseReport) : Nat :=
  report.micros / 1000

end Assay
