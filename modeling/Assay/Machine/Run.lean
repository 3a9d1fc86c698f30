import Assay.Machine.Basic

/-! # Computations on the machine -/

namespace Assay

structure Wait where
  ready : Machine → Bool
  alarm : Option Nat := none

inductive Side where
  | parent (child : Nat)
  | child (pid : Nat)

inductive Step (α : Type) where
  | done (value : α) (machine : Machine)
  | paused (wait : Wait) (machine : Machine) (next : Machine → Step α)
  | forked (child : Nat) (machine : Machine) (next : Side → Machine → Step α)
  | stuck (machine : Machine)

namespace Step

def bind {α β : Type} (step : Step α) (next : α → Machine → Step β) : Step β :=
  match step with
  | .done v m => next v m
  | .paused wait m xs => .paused wait m fun m => (xs m).bind next
  | .forked child m xs => .forked child m fun side m => (xs side m).bind next
  | .stuck m => .stuck m

end Step

def Run (α : Type) : Type := Machine → Step α

namespace Run

@[always_inline, inline]
protected def bind {α β : Type} (run : Run α) (next : α → Run β) : Run β :=
  fun m =>
    match run m with
    | .done v m => next v m
    | step => step.bind next

@[always_inline]
instance : Monad Run where
  pure value := fun m => .done value m
  bind := Run.bind

@[always_inline]
instance : MonadStateOf Machine Run where
  get := fun machine => .done machine machine
  set machine := fun _ => .done ⟨⟩ machine
  modifyGet change := fun machine =>
    let (v, machine) := change machine
    .done v machine

instance {α : Type} : Inhabited (Run α) := ⟨fun m => .stuck m⟩

def stuck {α : Type} : Run α := fun m => .stuck m

def rest : Run Unit := fun m => .paused { ready := fun _ => true } m fun m => .done ⟨⟩ m

def await {α : Type} (action : Machine → Option (α × Machine)) : Run α :=
  fun m =>
    match action m with
    | some (v, m) => .done v m
    | none =>
      .paused { ready := fun m => (action m).isSome } m fun m =>
        match action m with
        | some (v, m) => .done v m
        | none => .stuck m

def awaitUntil {α : Type} (time : Nat) (action : Machine → Option (α × Machine)) : Run (Option α) :=
  fun m =>
    match action m with
    | some (v, m) => .done (some v) m
    | none =>
      .paused
        { ready := fun m => (action m).isSome || m.clock ≥ time
          alarm := some time } m fun m =>
        match action m with
        | some (v, m) => .done (some v) m
        | none => .done none m

def sleep (micros : Nat) : Run Unit :=
  fun m =>
    let time := m.clock + micros
    .paused { ready := fun m => m.clock ≥ time, alarm := some time } m fun m => .done ⟨⟩ m

def forkMicros : Nat := 400

def startMicros : Nat := 500

def busy (micros : Nat) : Run Unit := modify fun m => { m with clock := m.clock + micros }

def fork (pid : Nat) (change : Job → Job) : Run Side :=
  fun m =>
    match m.job? pid with
    | none => .stuck m
    | some job =>
      let (child, m) := ({ m with
        clock := m.clock + forkMicros } : Machine).addJob job
      .forked child (m.changeJob child change) fun side m => .done side m

def commandMicros : Nat := 5

def commandsInTurn : Nat := 50

def tick : Run Unit :=
  fun m =>
    if m.steps = 0 then .stuck m
    else
      let m := { m with
        steps := m.steps - 1
        clock := m.clock + commandMicros }
      if m.steps % commandsInTurn = 0 then rest m else .done ⟨⟩ m

/-! ## Reading and writing -/

def readSome (i k : Nat) : Run (Except SysFault Bytes) := await (·.readNow? i k)

def blockSize : Nat := 1048576

def maxHeld : Nat := 24 * 1024 * 1024

def readRest (i : Nat) : Nat → Nat → List Bytes → Run (Except SysFault Bytes)
  | 0, _, _ => stuck
  | fuel + 1, room, blocks => do
    match ← readSome i blockSize with
    | .error e => pure (.error e)
    | .ok [] => pure (.ok blocks.reverse.flatten)
    | .ok bs =>
      if bs.length > room then stuck
      else
        tick
        readRest i fuel (room - bs.length) (bs :: blocks)

def maxReads : Nat := 1000000

def readAll (i : Nat) : Run (Except SysFault Bytes) := readRest i maxReads maxHeld []

def writeAll (i : Nat) : Nat → Bytes → Run (Except SysFault Unit)
  | 0, _ => stuck
  | fuel + 1, bs => do
    match ← await fun m => m.writeNow? i bs with
    | .error e => pure (.error e)
    | .ok [] => pure (.ok ⟨⟩)
    | .ok l => writeAll i fuel l

def write (i : Nat) (bs : Bytes) : Run (Except SysFault Unit) := writeAll i (bs.length + 1) bs

def writeFor (job : Job) (i : Nat) (bs : Bytes) : Run (Except SysFault Unit) := do
  let some room := ((← get).fileRoom? job i).filter (· < bs.length) | write i bs
  let _ ← write i (bs.take room)
  pure (.error .tooLarge)

def readLineOnto (i : Nat) : Nat → Bytes → Run (Except SysFault Bytes)
  | 0, _ => stuck
  | fuel + 1, l => do
    match ← readSome i 1 with
    | .error e => pure (.error e)
    | .ok [] => pure (.ok l.reverse)
    | .ok (b :: _) =>
      if b = 10 then pure (.ok (b :: l).reverse)
      else readLineOnto i fuel (b :: l)

def readLine (i : Nat) : Run (Except SysFault Bytes) := readLineOnto i maxHeld []

def release (pid i : Nat) : Run Unit :=
  modify fun m => m.changeJob pid fun job => { job with saved := job.saved.erase i }

def openFile (pid : Nat) (opening : Machine.Opening) (p : Path) : Run (Except SysFault Nat) := do
  let m ← get
  let some job := m.job? pid | stuck
  match m.openPath job opening p with
  | .error e => pure (.error e)
  | .ok (i, m) =>
    set (m.changeJob pid fun job => { job with saved := i :: job.saved })
    match m.streams[i]?, job.streams.contains i with
    | some (.reader pipe), false =>
      await fun m =>
        if m.hasWriter pipe || (m.pipes[pipe]?.getD {}).size > 0 then some (⟨⟩, m)
        else none
    | some (.writer pipe), false => await fun m => if m.hasReader pipe then some (⟨⟩, m) else none
    | _, _ => pure ⟨⟩
    pure (.ok i)

end Run

/-! ## Finding programs -/

namespace FileTree

def entryAt? (t : FileTree) (cwd : Place) (p : Raw) : Option Entry :=
  match t.locate .follow cwd ⟨p.toText⟩ with
  | .ok (_, e) => some e
  | .error _ => none

def findProgram (t : FileTree) (cwd : Place) (searchPath name : Raw) : Except SysFault Raw :=
  if name.contains '/' then .ok name
  else if name.isEmpty then .error .notFound
  else if name.length > maxNameBytes then .error .nameTooLong
  else
    let candidates := (searchPath.splitOn ':').map fun dir =>
      if dir.isEmpty then "./" ++ name else dir ++ "/" ++ name
    match candidates.find? fun p => (t.entryAt? cwd p).any Entry.isExecutable with
    | some p => .ok p
    | none =>
      if candidates.any fun p => (t.entryAt? cwd p).isSome then .error .denied
      else .error .notFound

end FileTree

end Assay
