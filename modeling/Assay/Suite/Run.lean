import Assay.CaseRun
import Assay.Discovery
import Assay.Suite.Workers

/-!
# Running a suite

The fixtures of all groups are run, one after the other or by several workers,
and reported in the order of the groups. At the end stands the tally.
-/

namespace Assay

structure RunOptions where
  failFast : Bool := false
  /-- Only fixtures whose names contain this text are run. -/
  filter : Option String := none
  deriving DecidableEq, Repr

namespace Suite

variable {σ : Type}

def fixtures (groups : List Group) : List Fixture :=
  groups.flatMap Group.fixtures

def inOrder (shift : Shift σ) (index : Nat) (release : Release) (state : σ) :
    List Fixture → Outcome × σ
  | [] => (.ok () release, state)
  | fixture :: rest =>
    let (report, state) := shift.run index fixture state
    match (Release.push index report).run release with
    | .error fault release => (.error fault release, state)
    | .ok _ release =>
      if shift.failFast && !report.verdict.isPassed then (.ok () release, state)
      else inOrder shift (index + 1) release state rest

def runFixtures (shift : Shift σ) (schedule : List Move) (jobs : Nat) (release : Release)
    (state : σ) : Outcome × σ :=
  if jobs ≤ 1 || shift.fixtures.length ≤ 1 then inOrder shift 0 release state shift.fixtures
  else
    let floor := Floor.run shift schedule jobs release state
    (floor.outcome, floor.state)

def summarize (total durationMs : Nat) : Releasing Tally := do
  Release.finish total
  let tally := (← get).summary total durationMs
  Release.print (Console.tally tally)
  return tally

def conclude (outcome : Outcome) (total durationMs : Nat) : Except Fatal Tally × Screen :=
  match outcome with
  | .error fault release => (.error (.report fault), release.screen)
  | .ok _ release =>
    match (summarize total durationMs).run release with
    | .error fault release => (.error (.report fault), release.screen)
    | .ok tally release => (.ok tally, release.screen)

/-- Runs groups of fixtures. `course` runs one fixture, and `clock` tells the time
in microseconds. -/
def run (course : Fixture → Course σ CaseReport) (clock : σ → Nat) (schedule : List Move)
    (jobs : Nat) (failFast : Bool) (groups : List Group) (screen : Screen) (state : σ) :
    Except Fatal Tally × Screen × σ :=
  let shift : Shift σ := { fixtures := fixtures groups, failFast, course := fun _ => course }
  let (outcome, after) := runFixtures shift schedule jobs (Release.start screen groups) state
  let (tally, screen) :=
    conclude outcome shift.fixtures.length ((clock after - clock state) / 1000)
  (tally, screen, after)

end Suite

/-- The settings with paths that do not depend on the working directory. -/
def Settings.resolved (settings : Settings) (host : Host) (tree : FileTree) :
    Except Fatal Settings :=
  match host.cwdPath tree with
  | .ok cwd => .ok (settings.anchor cwd)
  | .error fault => .error (.file ⟨"."⟩ fault)

def runSuite (host : Host) (settings : Settings) (groups : List Group) (options : RunOptions)
    (screen : Screen) (scene : Scene) : Except Fatal Tally × Screen × Scene :=
  match settings.resolved host scene.tree with
  | .error fatal => (.error fatal, screen, scene)
  | .ok settings =>
    let count := (Suite.fixtures groups).length
    let scene := scene.note (.suiteStarted count groups.length settings.jobs)
    Suite.run (CaseRun.course host settings) Scene.clock host.schedule settings.jobs
      options.failFast groups screen scene

def discoveryNotices (host : Host) (settings : Settings) (groups : List Group) (scene : Scene) :
    Scene :=
  groups.foldl (fun scene group =>
    let codes := group.category.codesDir settings.fixtureRoot
    (scene.noteIf (!scene.tree.isDirectory host.cwd codes)
      (.missingCodes group.category.name codes)).note
      (.discovered group.category.name group.fixtures.length)) scene

def runAll (host : Host) (settings : Settings) (options : RunOptions) (screen : Screen)
    (scene : Scene) : Except Fatal Tally × Screen × Scene :=
  let found : Except Fatal (Settings × List Group) := do
    let settings ← settings.resolved host scene.tree
    settings.validate
    settings.checkTools scene.tree host.cwd
    .ok (settings, ← Discovery.run scene.tree host.cwd settings options.filter)
  match found with
  | .error fatal => (.error fatal, screen, scene)
  | .ok (settings, groups) =>
    runSuite host settings groups options screen (discoveryNotices host settings groups scene)

end Assay
