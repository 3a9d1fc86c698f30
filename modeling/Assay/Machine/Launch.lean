import Assay.Child.Command
import Assay.Machine.Programs
import Assay.Machine.Schedule

/-! # Launching commands -/

namespace Assay.Machine

open Child (Capture Command Launch Launcher Output Status)

def maxSteps : Nat := 1200000

def baseTree : FileTree :=
  let t : FileTree := {}
  let t := ("boot dev dev/fd etc home media mnt opt proc proc/self proc/self/fd root run srv sys " ++
    "tmp usr usr/bin usr/lib usr/lib64 usr/sbin var " ++
    "var/tmp").splitOn.foldl (fun t p => t.put (Path.pieces p) .directory) t
  let t := programNames.foldl (fun t name =>
    t.put ["usr", "bin", name] (.file (programImage name) 0o755)) t
  let t := "bin lib lib64 sbin".splitOn.foldl (fun (t : FileTree) name =>
    t.put [name] (.link ("usr/" ++ name))) t
  let devices : List (String × Device) :=
    [("null", .null), ("zero", .zero), ("full", .full), ("stdin", .descriptor 0),
      ("stdout", .descriptor 1), ("stderr", .descriptor 2)]
  let t := devices.foldl (fun t (name, device) => t.put ["dev", name] (.device device)) t
  let t := (List.range 10 ++ [60, 61, 62, 63]).foldl (fun (t : FileTree) n =>
    let e : Entry := .device (.descriptor n)
    (t.put ["dev", "fd", toString n] e).put ["proc", "self", "fd", toString n] e) t
  let t := t.put ["etc", "passwd"] (.file (Text.encode Account.userFile) 0o644)
  t.put ["etc", "group"] (.file (Text.encode Account.groupFile) 0o644)

def startCommand (job : Job) (program : Path) (args : List Raw) : Run (Except SysFault Ending) := do
  let searchPath := (job.fromEnvironment? "PATH").getD []
  match (← get).tree.findProgram job.cwd searchPath (Raw.ofText program.text) with
  | .error err => pure (.error err)
  | .ok p => (core maxNesting).start job.pid p args

def statusOf : Ending → Status
  | .exited code => .exited (UInt8.ofNat code)
  | .killed sig => .signalled sig

def holdsZero (cmd : Command) : Bool :=
  cmd.program.text.contains '\x00' || cmd.args.any (·.contains '\x00')

def drainMicros : Nat := 2000000

def holds (m : Machine) (i : Nat) : Bool := m.jobs.any (·.streams.contains i)

def capture (m : Machine) (i : Nat) : Capture :=
  let (bytes, truncated) := m.written i
  { bytes, truncated }

def inputStream : Nat := 0

def outputStream : Nat := 1

def errorStream : Nat := 2

def startState (cmd : Command) (env : List (String × String)) (cwd : Place)
    (t : FileTree) : Job × Machine :=
  let input := match cmd.stdin with
    | some bs => Stream.source bs
    | none => .device .null
  let model : Job :=
    { pid := 1, parent := 1, cwd
      environment := env.map fun (name, v) => (Raw.ofText name, Raw.ofText v)
      descriptors := [(0, inputStream), (1, outputStream), (2, errorStream)] }
  let m : Machine :=
    { files := t, steps := maxSteps
      streams := #[input, .sink [] Child.stdoutCap false, .sink [] Child.stderrCap false] }
  let (pid, m) := m.addJob model
  ({ model with pid, parent := 1 }, m)

def drain (pool : Pool) (i : Nat) (abandoned : Bool) (fuel : Nat) : Capture × Pool × Bool :=
  let pre := pool.machine.capture i
  let isOver (m : Machine) : Bool := !m.holds i || (abandoned && m.capture i ≠ pre)
  let pool := pool.runUntil isOver (pool.machine.clock + drainMicros) fuel
  if !isOver pool.machine then ({ truncated := true }, pool, true)
  else (if abandoned then pre else pool.machine.capture i, pool, abandoned)

def finishRun (limit pid : Nat) (pool : Pool) : Output × Pool :=
  let fuel := 4 * maxSteps
  let ended? (m : Machine) : Option Ending := (m.ended.find? (·.pid = pid)).map (·.ending)
  let pool := pool.runUntil (fun m => (ended? m).isSome) limit fuel
  let (fin, timedOut, pool) : Ending × Bool × Pool := match ended? pool.machine with
    | some fin => (fin, false, pool)
    | none =>
      (.killed 9, true,
        { machine := pool.machine.finish pid (.killed 9)
          paused := pool.paused.filter (·.pid ≠ pid) })
  let (stdout, pool, abandoned) := drain pool outputStream false fuel
  let (stderr, pool, _) := drain pool errorStream abandoned fuel
  ({ status := statusOf fin, stdout, stderr, timedOut }, pool)

def launcher (env : List (String × String)) : Launcher := fun cmd tree =>
  if holdsZero cmd then { result := .error .zeroInCommand, tree }
  else
    match tree.locate .follow [] cmd.cwd with
    | .error err => { result := .error err, tree }
    | .ok (cwd, e) =>
      if e ≠ .directory then { result := .error .notDirectory, tree }
      else
        let (job, m) := startState cmd env cwd tree
        let args := (cmd.program.text :: cmd.args).map Raw.ofText
        match startCommand job cmd.program args m with
        | .done (.error err) _ => { result := .error err, tree }
        | step =>
          if cmd.limit = 0 then
            { result := .ok { status := statusOf (.killed 9), timedOut := true }, tree }
          else
            let ended := step.bind fun res m =>
              .done (match res with
                | .ok fin => fin
                | .error _ => .exited 127) m
            let (output, pool) :=
              finishRun (cmd.limit * 1000) job.pid (Pool.absorb job.pid [] ended)
            { result := .ok output, tree := pool.machine.tree, micros := pool.machine.clock }

end Assay.Machine
