import Assay.Course
import Assay.Suite.Release

/-!
# Workers

Several workers take fixtures from one row. A worker looks whether it has to
stop, takes the next fixture, runs it step by step, asks all to stop if it
failed and the suite stops at failures, and sends the report. A receiver takes
in the reports that were sent. The steps of workers and receiver may follow each
other in any order; a schedule says in which.
-/

namespace Assay

/-- What the workers share and do not change. -/
structure Shift (σ : Type) where
  fixtures : List Fixture
  failFast : Bool
  course : Nat → Fixture → Course σ CaseReport

inductive Worker (σ : Type) : Type 1 where
  | looking
  | taking
  | running (index : Nat) (course : Course σ CaseReport)
  | judging (index : Nat) (report : CaseReport)
  | sending (index : Nat) (report : CaseReport)
  | done

structure Floor (σ : Type) where
  workers : List (Worker σ)
  next : Nat := 0
  stop : Bool := false
  sent : List (Nat × CaseReport) := []
  release : Release
  /-- The fault that ended the release, after which nothing is taken in. -/
  fault : Option WriteFault := none
  state : σ

/-- How a release ended, and how far it got. -/
abbrev Outcome := EStateM.Result WriteFault Release Unit

variable {σ : Type}

def Worker.isDone : Worker σ → Bool
  | .done => true
  | _ => false

def Shift.run (shift : Shift σ) (index : Nat) (fixture : Fixture) (state : σ) : CaseReport × σ :=
  (shift.course index fixture).run state

namespace Floor

def start (shift : Shift σ) (jobs : Nat) (release : Release) (state : σ) : Floor σ :=
  { workers := List.replicate (min jobs shift.fixtures.length) .looking, release, state }

def closed (floor : Floor σ) : Bool :=
  floor.fault.isSome

def outcome (floor : Floor σ) : Outcome :=
  match floor.fault with
  | none => .ok () floor.release
  | some fault => .error fault floor.release

def put (floor : Floor σ) (number : Nat) (worker : Worker σ) : Floor σ :=
  { floor with workers := floor.workers.set number worker }

/-- What a worker does, and what it does after that. A worker whose report
nobody takes in is done. -/
def work (shift : Shift σ) (floor : Floor σ) (number : Nat) : Worker σ → Floor σ
  | .looking => floor.put number (if floor.stop then .done else .taking)
  | .taking =>
    let floor' := { floor with next := floor.next + 1 }
    match shift.fixtures[floor.next]? with
    | some fixture => floor'.put number (.running floor.next (shift.course floor.next fixture))
    | none => floor'.put number .done
  | .running index (.step act next) =>
    let (value, state) := act floor.state
    { floor with state }.put number (.running index (next value))
  | .running index (.done report) => floor.put number (.judging index report)
  | .judging index report =>
    { floor with stop := floor.stop || (shift.failFast && !report.verdict.isPassed) }.put number
      (.sending index report)
  | .sending index report =>
    if floor.closed then floor.put number .done
    else { floor with sent := floor.sent ++ [(index, report)] }.put number .looking
  | .done => floor

/-- Takes in a report. If it cannot be shown all are asked to stop. -/
def receive (floor : Floor σ) (position index : Nat) (report : CaseReport) : Floor σ :=
  let floor := { floor with sent := floor.sent.eraseIdx position }
  match (Release.push index report).run floor.release with
  | .ok _ release => { floor with release }
  | .error fault release => { floor with release, fault := some fault, stop := true }

def step? (shift : Shift σ) (floor : Floor σ) : Move → Option (Floor σ)
  | .work number =>
    match floor.workers[number]? with
    | none | some .done => none
    | some worker => some (floor.work shift number worker)
  | .receive position =>
    if floor.closed then none
    else
      match floor.sent[position]? with
      | some (index, report) => some (floor.receive position index report)
      | none => none

/-- Whether no step is left: all workers are done, and all reports that can be
taken in were. -/
def isFinished (floor : Floor σ) : Bool :=
  floor.workers.all Worker.isDone && (floor.closed || floor.sent.isEmpty)

/-- Takes the steps of a schedule, as far as they can be taken. -/
def follow (shift : Shift σ) (floor : Floor σ) (schedule : List Move) : Floor σ :=
  schedule.foldl (fun floor move => (floor.step? shift move).getD floor) floor

/-- What a worker does if it is not interrupted while it runs a fixture. -/
def workOn (shift : Shift σ) (floor : Floor σ) (number : Nat) : Worker σ → Floor σ
  | .running index course =>
    let (report, state) := course.run floor.state
    { floor with state }.put number (.judging index report)
  | worker => floor.work shift number worker

/-- Goes on where a schedule has ended: reports are taken in at once, and the
first worker that is not done is not interrupted. -/
def goOn? (shift : Shift σ) (floor : Floor σ) : Option (Floor σ) :=
  match floor.step? shift (.receive 0) with
  | some next => some next
  | none =>
    (floor.workers.zipIdx.find? (!·.1.isDone)).map fun (worker, number) =>
      floor.workOn shift number worker

def complete (shift : Shift σ) (fuel : Nat) (floor : Floor σ) : Floor σ :=
  match fuel with
  | 0 => floor
  | fuel + 1 =>
    match floor.goOn? shift with
    | none => floor
    | some floor => complete shift fuel floor

/-- How many steps are never passed without interruption: six for every fixture
and two more for every worker. -/
def maxSteps (shift : Shift σ) (jobs : Nat) : Nat :=
  6 * shift.fixtures.length + 2 * min jobs shift.fixtures.length + 1

def run (shift : Shift σ) (schedule : List Move) (jobs : Nat) (release : Release) (state : σ) :
    Floor σ :=
  complete shift (maxSteps shift jobs) (follow shift (start shift jobs release state) schedule)

end Floor

end Assay
