import Assay.Compare
import Assay.Stages

/-!
# Running a fixture

A fixture goes through the stages in its own workspace and gets a verdict. The
workspace is gone when the verdict is given, whatever happened.
-/

namespace Assay

namespace CaseRun

def judge (observed expected : String) : Verdict :=
  if agrees observed expected then .passed else .fail .mismatch observed expected

def partialFailure (kind : FailureKind) (stdout : Observation) (expected : String) : Verdict :=
  let verdict := Verdict.fail kind stdout.text expected
  if stdout.truncated then verdict.truncated else verdict

/-- The verdict on building and running. A text that was cut off never
matches. -/
def judgeRun (outcome : RunOutcome) (expected : String) : Verdict :=
  match outcome with
  | .completed stdout =>
    if stdout.truncated then (Verdict.fail .mismatch stdout.text expected).truncated
    else judge stdout.text expected
  | .buildFailed text => .fail .buildFailed text expected
  | .crashed exitCode stdout =>
    partialFailure (.crashed (exitCode.map Int.ofNat)) stdout expected
  | .timedOut stage stdout => partialFailure (.timedOut stage) stdout expected

def finish (host : Host) (settings : Settings) (fixture : Fixture) (expected : String)
    (workspace : Workspace) (assembly : Path) : Course Scene (Except CaseFault Verdict) := do
  match ← Stages.build host settings assembly workspace with
  | .error fault => return .error fault
  | .ok (some outcome) => return .ok (judgeRun outcome expected)
  | .ok none =>
    match ← Stages.execute host settings fixture.stdin workspace with
    | .error fault => return .error fault
    | .ok outcome => return .ok (judgeRun outcome expected)

def stages (host : Host) (settings : Settings) (fixture : Fixture) (expected : String)
    (workspace : Workspace) : Course Scene (Except CaseFault Verdict) := do
  match ← Stages.compile host settings fixture.source workspace with
  | .error fault => return .error fault
  | .ok .timedOut => return .ok (.fail (.timedOut .compile) "" expected)
  | .ok (.rejected text) => return .ok (judge text expected)
  | .ok (.compiled assembly) =>
    if fixture.expectRejection then
      return .ok (.fail .missingRejection "compiler accepted the program" expected)
    else finish host settings fixture expected workspace assembly

def inWorkspace (host : Host) (settings : Settings) (fixture : Fixture) (expected : String) :
    Course Scene (Except CaseFault Verdict) := do
  match ← Workspace.enter host settings fixture.id with
  | .error fault => return .error (.workspace fault)
  | .ok workspace =>
    let verdict ← stages host settings fixture expected workspace
    .change (workspace.remove host)
    return verdict

def verdict (host : Host) (settings : Settings) (fixture : Fixture) : Course Scene Verdict := do
  match ← .look fun scene => scene.tree.readText host.cwd fixture.expected with
  | .error fault =>
    return .fail .harness
      s!"cannot read expected output '{fixture.expected.text}': {fault.message}" ""
  | .ok expected =>
    match ← inWorkspace host settings fixture expected with
    | .ok verdict => return verdict
    | .error fault => return .fail .harness fault.message expected

/-- A fixture from its beginning to its report. -/
def course (host : Host) (settings : Settings) (fixture : Fixture) : Course Scene CaseReport := do
  let started ← .look Scene.clock
  let verdict ← verdict host settings fixture
  .act fun scene =>
    ({ fixture, verdict, micros := scene.clock - started },
      scene.note (.caseDone fixture.id verdict.isPassed))

end CaseRun

/-- Runs a fixture while nothing else happens. -/
def runCase (host : Host) (settings : Settings) (fixture : Fixture) (scene : Scene) :
    CaseReport × Scene :=
  (CaseRun.course host settings fixture).run scene

end Assay
