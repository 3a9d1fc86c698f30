import Assay.Machine.Run
import Assay.Script.Basic
import Assay.Shell.Items

/-! # The state of a shell -/

namespace Assay

structure Variable where
  value : Option Raw := none
  (exported fixed : Bool := false)
  items : Option Shell.Items := none
  /-- The letters of what else is known of it: that it is a number, that its letters are changed, or
  that it names another variable. -/
  traits : List Char := []

namespace Variable

def text? (hit : Variable) : Option Raw :=
  match hit.items with
  | none => hit.value
  | some xs => xs.at? 0

end Variable

structure Child where
  pids : List Nat
  endings : List (Nat × Ending) := []
  text : Raw := []
  isKnown : Bool := false
  number : Nat := 0
  isForeign : Bool := false

namespace Child

def isDone (child : Child) : Bool := child.pids.all fun pid => (child.endings.lookup pid).isSome

def ending? (child : Child) : Option Ending :=
  child.pids.getLast?.bind fun pid => child.endings.lookup pid

end Child

structure Caller where
  (function source : Raw)
  line : Nat

structure Extras where
  options : List String := []
  stageCodes : List Nat := []
  lastWord : Raw := []
  callers : List Caller := []
  sources : List (Raw × Raw × Nat) := []
  source : Raw := []
  directories : List Raw := []
  label : Raw := []
  givenText : Bool := false
  seed : Nat := 1
  events : List Nat := []
  (level started : Nat := 0)
  disabled : List String := []
  doing : Raw ⊕ Script.Command := .inl []
  /-- What the shell's file holds besides its program: its version, the use of its commands and
  the names of what keys can do. -/
  texts : List Raw := []

structure Shell where
  (pid root parent : Nat)
  name : Raw
  args : List Raw := []
  bindings : List (Raw × Variable) := []
  functions : List (Raw × Script.Command) := []
  aliases : List (Raw × Raw) := []
  locals : List (Raw × Option Variable) := []
  (depth sourced loops status : Nat := 0)
  switches : List Char := []
  traps : List (Nat × Raw) := []
  line : Nat := 1
  reached : List Nat := [1]
  within : Option Raw := none
  substituted : Option Nat := none
  children : List Child := []
  background : Option Nat := none
  optionIndex : Nat := 1
  optionOffset : Nat := 0
  directory : Raw := []
  found : List (Raw × Raw) := []
  extended : Bool := false
  extras : Extras := {}

namespace Shell

inductive Stop where
  | exit (code : Nat)
  /-- A command of the shell itself has failed: the shell ends with a code unless the command was
  one that may fail. -/
  | failed (code : Nat)
  | ended (ending : Ending)
  | leave (levels : Nat)
  | again (levels : Nat)
  | result (code : Nat)
  | abandoned

abbrev Eval := ExceptT Stop (StateT Shell Run)

structure Mode where
  tested : Bool := false
  last : Bool := false

structure Core where
  command : Mode → Script.Command → Eval Unit
  script : Mode → Raw → Eval Unit
  stream : Mode → Nat → Eval Unit
  start : Nat → Raw → List Raw → Run (Except SysFault Ending)

def Core.within (core : Core) (mode : Mode) : Core :=
  { core with
    script := fun g s => core.script { g with tested := g.tested || mode.tested } s
    stream := fun g i => core.stream { g with tested := g.tested || mode.tested } i }

@[always_inline, inline]
def lift {α : Type} (run : Run α) : Eval α := ExceptT.lift (StateT.lift run)

@[inline]
def theMachine : Eval Machine := lift get

def onMachine {α : Type} (action : Machine → α × Machine) : Eval α := lift (modifyGet action)

def theJob : Eval Job := do
  let pid := (← get).pid
  pure (((← theMachine).job? pid).getD { pid, parent := 1, cwd := [] })

def changeJob (change : Job → Job) : Eval Unit := do
  let pid := (← get).pid
  onMachine fun m => ((), m.changeJob pid change)

def writeStream (i : Nat) (s : Raw) : Eval (Option SysFault) := do
  let job ← theJob
  match ← lift (Run.writeFor job i s.toBytes) with
  | .ok _ => pure none
  | .error e =>
    match e.signal?.filter fun sig => !job.ignored.contains sig with
    | some sig => throw (.ended (.killed sig))
    | none => pure (some e)

def tryWrite (fd : Nat) (s : Raw) : Eval (Option SysFault) := do
  let some i := (← theJob).stream? fd | pure (some .badDescriptor)
  writeStream i s

def writeTo (fd : Nat) (s : Raw) : Eval Bool := return (← tryWrite fd s).isNone

variable (sh : Shell)

def messageLead : Raw :=
  if sh.extended then
    let src := match sh.extras.callers with
      | caller :: _ => caller.source
      | [] => sh.extras.source
    let name := if src.isEmpty then sh.name else src
    name ++ ": line " ++ Raw.ofNat sh.line ++ ": "
  else sh.name ++ ": " ++ Raw.ofNat sh.line ++ ": "

def complain (s : Raw) : Eval Unit := do
  let sh ← get
  let about := match sh.within with
    | some name => name ++ ": "
    | none => []
  let _ ← writeTo 2 (messageLead sh ++ about ++ s ++ "\n")

def setStatus (status : Nat) : Eval Unit := modify ({ · with status })

def fail {α : Type} (code : Nat) (s : Raw) : Eval α := do
  complain s
  throw (.failed code)

def isOn (switch : Char) : Eval Bool := do
  pure ((← get).switches.contains switch)

variable (name : Raw)

def find? : Option Variable := Raw.filed? name sh.bindings

def value? : Option Raw := (sh.find? name).bind (·.text?)

def putVariable (hit : Option Variable) : Shell :=
  match hit with
  | none => { sh with bindings := sh.bindings.filter fun q => q.1 ≠ name }
  | some hit => { sh with bindings := Raw.file name hit sh.bindings }

def assign (name v : Raw) : Eval Unit := do
  let sh ← get
  let hit := (sh.find? name).getD {}
  if hit.fixed then fail 2 (name ++ ": is read only")
  else
    let exported := hit.exported || sh.switches.contains 'a'
    let sh := if Raw.same name "OPTIND" then
        { sh with optionIndex := max (v.toNat?.getD 1) 1, optionOffset := 0 }
      else sh
    set (sh.putVariable name (some { hit with value := some v, exported }))

def withArgs (args : List Raw) : Shell := { sh with args, optionIndex := 1, optionOffset := 0 }

def bucket : Nat := ((name.headD ' ').toNat * 16 + name.foldl (fun sum c => sum + c.toNat) 0) % 39

def environment : List (Raw × Raw) :=
  let shown := sh.bindings.filterMap fun (name, hit) =>
    if hit.exported && hit.items.isNone then hit.value.map fun v => (name, v)
    else none
  shown.mergeSort fun l r => bucket l.1 ≤ bucket r.1

def actingOn (event : Nat) (action : Eval Unit) : Eval Unit := do
  let events := (← get).extras.events
  let setEvents (events : List Nat) : Eval Unit :=
    modify fun sh => { sh with extras := { sh.extras with events } }
  setEvents (event :: events)
  try action catch stop => setEvents events; throw stop
  setEvents events

def tick : Eval Unit := lift Run.tick

def iterate {σ : Type} (step : σ → Eval (Option σ)) : Nat → σ → Eval Unit
  | 0, _ => lift Run.stuck
  | fuel + 1, cur => do
    let some next ← step cur | pure ()
    iterate step fuel next

def maxRounds : Nat := 10000000

def repeatFrom {σ : Type} (start : σ) (step : σ → Eval (Option σ)) : Eval Unit :=
  iterate step maxRounds start

def signalDescription : Nat → String
  | 1 => "Hangup"
  | 2 => "Interrupt"
  | 3 => "Quit"
  | 4 => "Illegal instruction"
  | 5 => "Trace/breakpoint trap"
  | 6 => "Aborted"
  | 7 => "Bus error"
  | 8 => "Floating point exception"
  | 9 => "Killed"
  | 10 => "User defined signal 1"
  | 11 => "Segmentation fault"
  | 12 => "User defined signal 2"
  | 13 => "Broken pipe"
  | 14 => "Alarm clock"
  | 15 => "Terminated"
  | 16 => "Stack fault"
  | 24 => "CPU time limit exceeded"
  | 25 => "File size limit exceeded"
  | 26 => "Virtual timer expired"
  | 27 => "Profiling timer expired"
  | 29 => "I/O possible"
  | 30 => "Power failure"
  | 31 => "Bad system call"
  | n => "Real-time signal " ++ toString (n - 34)

def signalNames : List (String × Nat) :=
  [("EXIT", 0), ("HUP", 1), ("INT", 2), ("QUIT", 3), ("ILL", 4), ("TRAP", 5), ("ABRT", 6),
    ("BUS", 7), ("FPE", 8), ("KILL", 9), ("USR1", 10), ("SEGV", 11), ("USR2", 12), ("PIPE", 13),
    ("ALRM", 14), ("TERM", 15), ("STKFLT", 16), ("CHLD", 17), ("CONT", 18), ("STOP", 19),
    ("TSTP", 20), ("TTIN", 21), ("TTOU", 22), ("URG", 23), ("XCPU", 24), ("XFSZ", 25),
    ("VTALRM", 26), ("PROF", 27), ("WINCH", 28), ("IO", 29), ("PWR", 30), ("SYS", 31)]

def signalNumber? (s : Raw) : Option Nat :=
  match s.toNat? with
  | some n => if n ≤ 64 then some n else none
  | none => signalNames.lookup (String.ofList (s.map Char.toUpper))

def codeOf : Ending → Nat
  | .exited code => code % 256
  | .killed sig => 128 + sig

def keepingDescriptors {α : Type} (ns : List Nat) (action : Eval α) : Eval α := do
  let pre := (← theJob).descriptors
  let kept := ns.filterMap fun n => pre.lookup n
  changeJob fun job => { job with saved := kept ++ job.saved }
  let restore : Eval Unit :=
    changeJob fun job =>
      let job := ns.foldl (fun (job : Job) n =>
        match pre.lookup n with
        | some stream => job.connect n stream
        | none => job.disconnect n) job
      { job with saved := kept.foldl List.erase job.saved }
  let res ← try action catch stop => restore; throw stop
  restore
  pure res

abbrev Given := List (Char × Raw)

section

variable (unknown missing : {α : Type} → Char → Eval α) (plain valued : List Char)

def letterOptions : Raw → Eval (Given × Option Char)
  | [] => pure ([], none)
  | ch :: xs => do
    if valued.contains ch then pure (if xs.isEmpty then ([], some ch) else ([(ch, xs)], none))
    else if plain.contains ch then
      let (hit, needs) ← letterOptions xs
      pure ((ch, []) :: hit, needs)
    else unknown ch

def optionsWith : List Raw → Eval (Given × List Raw)
  | ['-', '-'] :: args => pure ([], args)
  | ('-' :: x :: cs) :: args => do
    match ← letterOptions unknown plain valued (x :: cs) with
    | (hit, none) =>
      let (more, xs) ← optionsWith args
      pure (hit ++ more, xs)
    | (hit, some ch) =>
      match args with
      | v :: args =>
        let (more, xs) ← optionsWith args
        pure (hit ++ (ch, v) :: more, xs)
      | [] => missing ch
  | args => pure ([], args)

end

def singleQuote (s : Raw) : Raw := '\'' :: quoteRest false s
where
  quoteRest (inDouble : Bool) : Raw → Raw
    | [] => if inDouble then "\"" else "'"
    | '\'' :: xs => (if inDouble then [] else "'\"") ++ '\'' :: quoteRest true xs
    | c :: xs => (if inDouble then ['"', '\''] else []) ++ c :: quoteRest false xs

end Shell

end Assay
