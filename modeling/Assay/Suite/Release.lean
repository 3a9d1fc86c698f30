import Assay.Console

/-!
# Releasing reports in order

Reports may arrive in any order. Each is kept until all before it have arrived,
and then shown and counted, with the header of its category before the first of
them. A write that fails ends all of this at once.
-/

namespace Assay

/-- The header of a category that is still to be shown: the index of its first
fixture, its name and its number of fixtures. -/
structure Header where
  start : Nat
  name : String
  count : Nat
  deriving DecidableEq, Repr

structure Release where
  screen : Screen
  tally : Tally := {}
  headers : List Header := []
  next : Nat := 0
  pending : List (Nat × CaseReport) := []
  deriving Repr

abbrev Releasing := EStateM WriteFault Release

namespace Release

/-- The headers of groups, the first fixture of which has an index. -/
def headersFrom (start : Nat) : List Group → List Header
  | [] => []
  | group :: groups =>
    { start, name := group.category.name, count := group.fixtures.length }
      :: headersFrom (start + group.fixtures.length) groups

def beginTally (groups : List Group) : Tally :=
  groups.foldl (fun tally group =>
    tally.beginCategory group.category.name group.fixtures.length) {}

def start (screen : Screen) (groups : List Group) : Release :=
  { screen, tally := beginTally groups, headers := headersFrom 0 groups }

def print (spans : List Span) : Releasing Unit := fun release =>
  match (Screen.write spans).run release.screen with
  | .ok _ screen => .ok () { release with screen }
  | .error fault screen => .error fault { release with screen }

/-- Shows headers as long as they start at an index or before it. -/
def showHeaders (index : Nat) : List Header → Releasing Unit
  | [] => pure ()
  | header :: headers =>
    if header.start > index then pure ()
    else do
      print (Console.category header.name header.count)
      modify ({ · with headers })
      showHeaders index headers

def headersThrough (index : Nat) : Releasing Unit := do
  showHeaders index (← get).headers

def emit (report : CaseReport) : Releasing Unit := do
  headersThrough (← get).next
  print (Console.case report)
  modify fun release =>
    { release with tally := release.tally.record report, next := release.next + 1 }

/-- Shows the reports that wait for nothing, at most as many as there is fuel
for. -/
def drain : Nat → Releasing Unit
  | 0 => pure ()
  | fuel + 1 => do
    let release ← get
    match release.pending.lookup release.next with
    | none => pure ()
    | some report =>
      set { release with pending := release.pending.filter (·.1 ≠ release.next) }
      emit report
      drain fuel

def push (index : Nat) (report : CaseReport) : Releasing Unit := do
  modify fun release =>
    { release with pending := (index, report) :: release.pending.filter (·.1 ≠ index) }
  drain (← get).pending.length

/-- Shows the headers of empty groups at the end once every report was shown. -/
def finish (total : Nat) : Releasing Unit := do
  if (← get).next = total then headersThrough total

/-- What was counted, with the fixtures of all that were not run. -/
def summary (release : Release) (total durationMs : Nat) : Tally :=
  { release.tally with notRun := total - release.tally.total, durationMs }

end Release

end Assay
