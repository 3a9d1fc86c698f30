import Assay.Json.Reader
import Assay.Tally.Document

/-!
# Reading a tally back

A tally is read from its JSON document. The outcome is not part of a tally: it
is read beside it.
-/

namespace Assay

def SuiteOutcome.ofTag? : String → Option SuiteOutcome
  | "all_passed" => some .allPassed
  | "some_failed" => some .someFailed
  | _ => none

def Stage.ofLabel? : String → Option Stage
  | "compile" => some .compile
  | "build" => some .build
  | "run" => some .run
  | _ => none

def FailureKind.ofJson? : Json → Option FailureKind
  | .string "mismatch" => some .mismatch
  | .string "missing_rejection" => some .missingRejection
  | .string "build_failed" => some .buildFailed
  | .string "harness" => some .harness
  | .object [("crashed", .object [("exit_code", .null)])] => some (.crashed none)
  | .object [("crashed", .object [("exit_code", .number code)])] => some (.crashed (some code))
  | .object [("timed_out", .string label)] => (Stage.ofLabel? label).map .timedOut
  | _ => none

def CategoryTally.ofJson? (value : Json) : Option CategoryTally := do
  let name ← (← value.field? "name").text?
  let discovered ← (← value.field? "discovered").nat?
  let passed ← (← value.field? "passed").nat?
  let failed ← (← value.field? "failed").nat?
  some { name, discovered, passed, failed }

def FailedCase.ofJson? (value : Json) : Option FailedCase := do
  let id ← (← value.field? "id").text?
  let kind ← FailureKind.ofJson? (← value.field? "kind")
  let observed ← (← value.field? "observed").text?
  let expected ← (← value.field? "expected").text?
  some { id, failure := { kind, observed, expected, truncated := value.isSet "truncated" } }

def Tally.ofJson? (value : Json) : Option (SuiteOutcome × Tally) := do
  let outcome ← SuiteOutcome.ofTag? (← (← value.field? "outcome").text?)
  let passed ← (← value.field? "passed").nat?
  let failed ← (← value.field? "failed").nat?
  let notRun ← (← value.field? "not_run").nat?
  let categories ← (← (← value.field? "categories").items?).mapM CategoryTally.ofJson?
  let failures ← (← (← value.field? "failures").items?).mapM FailedCase.ofJson?
  let durationMs ← (← value.field? "duration_ms").nat?
  some (outcome, { passed, failed, notRun, categories, failures, durationMs })

def Tally.ofDocument? (text : String) : Option (SuiteOutcome × Tally) :=
  (Json.parse? text).bind Tally.ofJson?

end Assay
