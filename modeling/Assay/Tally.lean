import Assay.Verdict

/-!
# Tally of a suite

The counts of a suite and of its categories, and the failures, gathered report
by report.
-/

namespace Assay

structure CategoryTally where
  name : String
  discovered : Nat
  passed : Nat := 0
  failed : Nat := 0
  deriving DecidableEq, Repr

structure FailedCase where
  id : String
  failure : Failure
  deriving DecidableEq, Repr

inductive SuiteOutcome where
  | allPassed
  | someFailed
  deriving DecidableEq, Repr

structure Tally where
  passed : Nat := 0
  failed : Nat := 0
  notRun : Nat := 0
  categories : List CategoryTally := []
  failures : List FailedCase := []
  durationMs : Nat := 0
  deriving DecidableEq, Repr

def CategoryTally.count (category : CategoryTally) (verdict : Verdict) : CategoryTally :=
  match verdict with
  | .passed => { category with passed := category.passed + 1 }
  | .failed _ => { category with failed := category.failed + 1 }

namespace Tally

def beginCategory (tally : Tally) (name : String) (discovered : Nat) : Tally :=
  { tally with categories := tally.categories ++ [{ name, discovered }] }

/-- Counts a verdict in the first category of a name, if there is one. -/
def countIn (name : String) (verdict : Verdict) : List CategoryTally → List CategoryTally
  | [] => []
  | category :: rest =>
    if category.name = name then category.count verdict :: rest
    else category :: countIn name verdict rest

def record (tally : Tally) (report : CaseReport) : Tally :=
  let categories := countIn report.fixture.category report.verdict tally.categories
  match report.verdict with
  | .passed => { tally with passed := tally.passed + 1, categories }
  | .failed failure =>
    { tally with
      failed := tally.failed + 1
      categories
      failures := tally.failures ++ [{ id := report.fixture.id, failure }] }

def total (tally : Tally) : Nat :=
  tally.passed + tally.failed

def allPassed (tally : Tally) : Bool :=
  tally.failed == 0 && tally.notRun == 0

def outcome (tally : Tally) : SuiteOutcome :=
  if tally.allPassed then .allPassed else .someFailed

def failedIds (tally : Tally) : List String :=
  tally.failures.map FailedCase.id

end Tally

end Assay
