import Assay.Machine.Run

/-! # Running jobs -/

namespace Assay

structure Paused where
  pid : Nat
  wait : Wait
  next : Machine → Step Ending

structure Pool where
  machine : Machine
  paused : List Paused

namespace Pool

def absorb (pid : Nat) (paused : List Paused) : Step Ending → Pool
  | .done fin machine => { machine := machine.finish pid fin, paused }
  | .paused wait machine next => { machine, paused := paused ++ [{ pid, wait, next }] }
  | .forked child machine next =>
    absorb pid
      (paused
        ++ [{ pid := child, wait := { ready := fun _ => true }, next := next (.child child) }])
      (next (.parent child) machine)
  | .stuck machine =>
    match (machine.job? pid).bind Job.busyLimit? with
    | some (limit, sig) =>
      let time := machine.clock + limit
      let wait : Wait := { ready := fun machine => machine.clock ≥ time, alarm := some time }
      { machine, paused := paused ++
          [{ pid, wait, next := fun machine => .done (.killed sig) machine }] }
    | none => { machine, paused }

def quietSignals : List Nat := [17, 18, 23, 28]

def stopSignals : List Nat := [19, 20, 21, 22]

variable (pool : Pool)

def strike (pid sig : Nat) : Pool :=
  match pool.machine.job? pid with
  | none => pool
  | some job =>
    let machine := { pool.machine with
      signals := pool.machine.signals.erase (pid, sig) }
    if job.caught.contains sig && sig ≠ 9 && sig ≠ 19 then pool
    else if quietSignals.contains sig then { pool with machine }
    else if stopSignals.contains sig then
      { pool with machine := machine.changeJob pid ({ · with stopped := true }) }
    else
      { machine := machine.finish pid (.killed sig)
        paused := pool.paused.filter (·.pid ≠ pid) }

def strikeAll : Pool := pool.machine.signals.foldl (fun pool (pid, sig) => pool.strike pid sig) pool

def charge (pid micros : Nat) : Pool :=
  match pool.machine.job? pid with
  | none => pool
  | some job =>
    match job.busyLimit? with
    | none => pool
    | some (limit, sig) =>
      let busy := job.busy + micros
      let m := pool.machine.changeJob pid ({ · with busy })
      { pool with machine := if busy < limit then m
          else { m with signals := m.signals ++ [(pid, sig)] } }

def canRun (m : Machine) (paused : Paused) : Bool :=
  (m.job? paused.pid).any (!·.stopped) && paused.wait.ready m

def nextAlarm? : Option Nat := (pool.paused.filterMap (·.wait.alarm)).min?

def runUntil (stop : Machine → Bool) (limit : Nat) : Nat → Pool → Pool
  | 0, pool => { pool with machine := { pool.machine with clock := max pool.machine.clock limit } }
  | fuel + 1, pool =>
    let pool := pool.strikeAll
    if stop pool.machine || pool.machine.clock ≥ limit then pool
    else
      match pool.paused.find? (canRun pool.machine) with
      | some chosen =>
        let others := pool.paused.filter (·.pid ≠ chosen.pid)
        let pre := pool.machine.clock
        let pool := absorb chosen.pid others (chosen.next pool.machine)
        runUntil stop limit fuel (pool.charge chosen.pid (pool.machine.clock - pre))
      | none =>
        let time := match pool.nextAlarm? with
          | some time => min limit (max time (pool.machine.clock + 1))
          | none => limit
        runUntil stop limit fuel { pool with machine := { pool.machine with clock := time } }

end Pool

end Assay
