import Assay.Json.Printer
import Assay.Tally

/-!
# The tally as a JSON document

A tally is written as one object. The mark of a truncated text is written only
where it is set.
-/

namespace Assay

def SuiteOutcome.tag : SuiteOutcome → String
  | .allPassed => "all_passed"
  | .someFailed => "some_failed"

def FailureKind.toJson : FailureKind → Json
  | .mismatch => .string "mismatch"
  | .missingRejection => .string "missing_rejection"
  | .buildFailed => .string "build_failed"
  | .crashed exitCode =>
    .object [("crashed", .object [("exit_code", (exitCode.map Json.number).getD .null)])]
  | .timedOut stage => .object [("timed_out", .string stage.label)]
  | .harness => .string "harness"

def CategoryTally.toJson (category : CategoryTally) : Json :=
  .object
    [("name", .string category.name), ("discovered", .number category.discovered),
      ("passed", .number category.passed), ("failed", .number category.failed)]

def FailedCase.toJson (case : FailedCase) : Json :=
  .object
    ([("id", .string case.id), ("kind", case.failure.kind.toJson),
      ("observed", .string case.failure.observed), ("expected", .string case.failure.expected)]
      ++ if case.failure.truncated then [("truncated", .bool true)] else [])

def Tally.toJson (tally : Tally) : Json :=
  .object
    [("outcome", .string tally.outcome.tag), ("passed", .number tally.passed),
      ("failed", .number tally.failed), ("not_run", .number tally.notRun),
      ("categories", .array (tally.categories.map CategoryTally.toJson)),
      ("failures", .array (tally.failures.map FailedCase.toJson)),
      ("duration_ms", .number tally.durationMs)]

def Tally.document (tally : Tally) : String :=
  tally.toJson.render

end Assay
