import Assay.Calendar.Layout
import Assay.Machine.Run
import Assay.Tool.NameStyle

/-! # Tools -/

namespace Assay.Tool

structure Refusal where
  code : Nat := 1
  messages : Bool → Raw → List Raw := fun _ e => ["write error: " ++ e]

/-- The run of a tool: the name it goes by in messages, its job, the way to let a job become
another program, and the texts in its file. -/
structure Call where
  name : Raw
  job : Job
  start : Nat → Raw → List Raw → Run (Except SysFault Ending)
  refusal : Refusal := {}
  texts : List Raw := []

abbrev Act := ReaderT Call (ExceptT Ending Run)

def Act.perform (act : Act Nat) (call : Call) : Run Ending := do
  match ← (act.run call).run with
  | .ok code => pure (.exited code)
  | .error fin => pure fin

def lift {α : Type} (run : Run α) : Act α := fun _ => ExceptT.lift run

/-! ## Messages -/

def writeTo (i : Nat) (bytes : Bytes) : Act (Option SysFault) := do
  let job := (← read).job
  match ← lift (Run.writeFor job i bytes) with
  | .ok _ => pure none
  | .error e =>
    match e.signal?.filter fun sig => !job.ignored.contains sig with
    | some sig => throw (.killed sig)
    | none => pure (some e)

def localeOf (job : Job) : Text.Locale :=
  .ofValues (["LC_ALL", "LC_CTYPE", "LANG"].map job.fromEnvironment?)

def localeNameOf (job : Job) (category : String) : Raw :=
  ((["LC_ALL", category, "LANG"].filterMap job.fromEnvironment?).find? (· ≠ [])).getD "C"

def theLocale : Act Text.Locale := do
  pure (localeOf (← read).job)

def theZone : Act Calendar.Zone := do
  pure (((← read).job.fromEnvironment? "TZ").elim {} Calendar.Zone.ofText)

def report (s : Raw) : Act Unit := do
  let job := (← read).job
  let some i := job.stream? 2 | pure ()
  let _ ← writeTo i (messageText (localeOf job) s).toBytes

def complain (s : Raw) : Act Unit := do
  report ((← read).name ++ ": " ++ s ++ "\n")

def abort {α : Type} (code : Nat) (s : Raw) : Act α := do
  complain s
  throw (.exited code)

def pointToHelp : Act Unit := do
  report ("Try '" ++ (← read).name ++ " --help' for more information.\n")

def abortUsage {α : Type} (code : Nat) (s : Raw) : Act α := do
  complain s
  pointToHelp
  throw (.exited code)

def faultText (e : SysFault) : Raw := Raw.ofText e.description

/-! ## Output -/

def emitBytes (bytes : Bytes) : Act Unit := do
  if bytes.isEmpty then pure ()
  else
    let e ← match (← read).job.stream? 1 with
      | some i => writeTo i bytes
      | none => pure (some SysFault.badDescriptor)
    let some e := e | pure ()
    let refusal := (← read).refusal
    for msg in refusal.messages (((← read).job.stream? 1).isNone) (faultText e) do
      complain msg
    throw (.exited refusal.code)

variable (bs : Raw)

def emit : Act Unit := emitBytes bs.toBytes

def emitLine : Act Unit := emit (bs ++ "\n")

def sayLine (msg : Raw) : Act Unit := do
  emitLine (messageText (← theLocale) msg)

/-! ## Files -/

def pathOf : Path := ⟨bs.toText⟩

def onTree (change : FileTree → Place → Except SysFault FileTree) : Act (Option SysFault) := do
  let m ← get
  match change m.tree (← read).job.cwd with
  | .ok files => set { m with files, addition := none }; pure none
  | .error e => pure (some e)

def locate (lastLink : FileTree.LastLink) (p : Raw) : Act (Except SysFault (Place × Entry)) := do
  pure ((← get).tree.locate lastLink (← read).job.cwd (pathOf p))

def openStream (opening : Machine.Opening) (p : Raw) : Act (Except SysFault Nat) := do
  lift (Run.openFile (← read).job.pid opening (pathOf p))

def closeStream (i : Nat) : Act Unit := do
  lift (Run.release (← read).job.pid i)

variable (arg : Raw)

def openOperand : Act (Except SysFault Nat) := do
  let opened ←
    if arg = "-" then
      match (← read).job.stream? 0 with
      | some i => pure (.ok i)
      | none => pure (.error .badDescriptor)
    else openStream .toRead arg
  match opened with
  | .error e => pure (.error e)
  | .ok i =>
    let m ← get
    match m.streams[i]? with
    | some (.file p _ _) =>
      match m.tree.get? p with
      | some .directory => pure (.error .isDirectory)
      | _ => pure (.ok i)
    | some (.sink _ _ _) | some (.writer _) => pure (.error .badDescriptor)
    | _ => pure (.ok i)

def closeOperand (i : Nat) : Act Unit := if arg = "-" then pure () else closeStream i

def takeOperand : Act (Except SysFault Bytes) := do
  match ← openOperand arg with
  | .error e => pure (.error e)
  | .ok i =>
    let res ← lift (Run.readAll i)
    closeOperand arg i
    pure res

variable (operands : List Raw)

def orInput : List Raw := if operands.isEmpty then ["-"] else operands

def closeInput (label : String) (operands : List Raw) (code : Nat) : Act Nat := do
  if (orInput operands).contains "-" && ((← read).job.stream? 0).isNone then
    complain (label.toList ++ ": " ++ faultText .badDescriptor)
    pure 1
  else pure code

def forInputs (action : Raw → Bytes → Act Unit) : Act Nat := do
  let mut code := 0
  for arg in orInput operands do
    match ← takeOperand arg with
    | .ok bytes => action arg bytes
    | .error e =>
      complain (nameText arg ++ ": " ++ faultText e)
      code := 1
  pure code

/-! ## Reading piece by piece -/

inductive Next (σ : Type) where
  | more (st : σ)
  | stop (st : σ)

def foldBlocks {σ : Type} (i k : Nat) (step : σ → Bytes → Act (Next σ)) : Nat → σ → Act σ
  | 0, _ => lift Run.stuck
  | fuel + 1, st => do
    match ← lift (Run.readSome i k) with
    | .error _ | .ok [] => pure st
    | .ok bytes =>
      lift Run.tick
      match ← step st bytes with
      | .more st => foldBlocks i k step fuel st
      | .stop st => pure st

def foldLineList {σ : Type} (step : σ → Raw → Act (Next σ)) : σ → List Raw → Act (Next σ × List Raw)
  | st, [] => pure (.more st, [])
  | st, l :: ls => do
    match ← step st l with
    | .more st => foldLineList step st ls
    | .stop st => pure (.stop st, ls)

def foldLinesFrom {σ : Type} (i : Nat) (step : σ → Raw → Act (Next σ)) :
    Nat → Raw → σ → Act (Next σ)
  | 0, _, _ => lift Run.stuck
  | fuel + 1, held, st => do
    match ← lift (Run.readSome i 4096) with
    | .error _ | .ok [] => if held.isEmpty then pure (.more st) else step st held
    | .ok bytes =>
      if held.length > Run.maxHeld then lift Run.stuck
      else
        let ls := (held ++ Raw.ofBytes bytes).lines
        let (whole, held) := match ls.getLast? with
          | some last => if last.getLast? = some '\n' then (ls, []) else (ls.dropLast, last)
          | none => (ls, [])
        match ← foldLineList step st whole with
        | (.more st, _) =>
          lift Run.tick
          foldLinesFrom i step fuel held st
        | (.stop st, xs) =>
          modify (·.unread i (xs.flatten.length + held.length))
          pure (.stop st)

def foldLines {σ : Type} (i : Nat) (st : σ) (step : σ → Raw → Act (Next σ)) : Act (Next σ) :=
  foldLinesFrom i step Run.maxReads [] st

/-! ## Other programs -/

def become (shown : Raw → Raw) (args : List Raw) (job : Job) : Act Ending := do
  let call ← read
  modify fun m => m.changeJob job.pid fun _ => { job with saved := [] }
  let hit := (← get).tree.findProgram job.cwd ((job.fromEnvironment? "PATH").getD defaultPath)
    (args.headD [])
  let started ← match hit with
    | .error e => pure (.error e)
    | .ok p =>
      match ← lift (call.start job.pid p args) with
      | .error .execFormat => lift (call.start job.pid "/bin/sh" ("/bin/sh" :: p :: args.drop 1))
      | started => pure started
  match started with
  | .ok fin => pure fin
  | .error e =>
    abort (if e = .notFound then 127 else 126) (shown (args.headD []) ++ ": " ++ faultText e)
where defaultPath : Raw := "/bin:/usr/bin"

def inChild (change : Job → Job) (action : Job → Act Ending) : Act Nat := do
  let call ← read
  match ← lift (Run.fork call.job.pid change) with
  | .parent child => pure child
  | .child pid =>
    let job := change { call.job with pid, parent := call.job.pid }
    throw (← withReader ({ · with job }) (action job))

def waitFor (pid : Nat) : Act Ending := lift (Run.await (·.takeEnded? pid))

def commandOutput (cmd : Raw) : Act Raw := do
  let (src, t) ← modifyGet (·.addPipe)
  let pid := (← read).job.pid
  modify fun m => m.changeJob pid fun job => { job with saved := src :: job.saved }
  let child ← inChild (fun job => { job.connect 1 t with saved := [] })
    (become quote ["sh", "-c", cmd])
  let hit ← lift (Run.readAll src)
  modify fun m => m.changeJob pid fun job => { job with saved := job.saved.erase src }
  let _ ← waitFor child
  pure (match hit with
    | .ok bytes => Raw.ofBytes bytes
    | .error _ => [])

/-! ## Options -/

structure Flags where
  options : List (Char × Raw) := []
  operands : List Raw := []

inductive OptionFlaw where
  | unknown (option : Char)
  | needsValue (option : Char)
  | unknownLong (s : Raw)
  | longNeedsValue (s : Raw)
  | longTakesNone (s : Raw)
  | ambiguous (s : Raw) (possible : List Raw)

def named (table : String) : List (String × Char) :=
  table.splitOn.filterMap fun w => match w.splitOn "=" with
    | [name, c] => c.toList.head?.map (name, ·)
    | _ => none

structure Options where
  plain : List Char
  valued : List Char := []
  long : String := ""
  optional : List Char := []
  mixed : Bool := true

namespace Flags

variable (flags : Flags)

def has (option : Char) : Bool := flags.options.any (·.1 = option)

def lineEnd : Char := if flags.has 'z' then '\x00' else '\n'

def value? (option : Char) : Option Raw := (flags.options.reverse.find? (·.1 = option)).map (·.2)

def last? (among : List Char) : Option Char :=
  (flags.options.reverse.find? fun q => among.contains q.1).map (·.1)

def cluster (opts : Options) : Raw → Except OptionFlaw (List (Char × Raw) × Option Char)
  | [] => .ok ([], none)
  | option :: xs =>
    if opts.valued.contains option then
      if xs.isEmpty then .ok ([], some option) else .ok ([(option, xs)], none)
    else if opts.optional.contains option then .ok ([(option, xs)], none)
    else if opts.plain.contains option then
      match cluster opts xs with
      | .ok (hit, needs) => .ok ((option, []) :: hit, needs)
      | .error bad => .error bad
    else .error (.unknown option)

def longLetter (opts : Options) (name : Raw) : Except OptionFlaw Char :=
  let long := named opts.long
  match long.lookup (String.ofList name) with
  | some c => .ok c
  | none =>
    let fitting := long.filter fun q => name.isPrefixOf q.1.toList
    match fitting with
    | [] => .error (.unknownLong ("--" ++ name))
    | (_, c) :: others =>
      if others.all (·.2 = c) then .ok c
      else
        .error (.ambiguous ("--" ++ name)
          (fitting.map fun q => "--" ++ q.1.toList))

def ofArgs (opts : Options) : List Raw → Except OptionFlaw Flags
  | [] => .ok {}
  | ['-', '-'] :: operands => .ok { operands }
  | ('-' :: '-' :: x :: xs) :: args => do
    let w := x :: xs
    let name := w.takeWhile (· ≠ '=')
    let c ← longLetter opts name
    let add (v : Raw) (flags : Flags) : Flags := { flags with options := (c, v) :: flags.options }
    if opts.valued.contains c then
      if name.length < w.length then (ofArgs opts args).map (add (w.drop (name.length + 1)))
      else
        match args with
        | v :: args => (ofArgs opts args).map (add v)
        | [] => .error (.longNeedsValue ("--" ++ name))
    else if opts.optional.contains c then (ofArgs opts args).map (add (w.drop (name.length + 1)))
    else if name.length < w.length then .error (.longTakesNone ("--" ++ name))
    else (ofArgs opts args).map (add [])
  | ('-' :: x :: xs) :: args =>
    match cluster opts (x :: xs) with
    | .error bad => .error bad
    | .ok (hit, none) =>
      (ofArgs opts args).map fun flags => { flags with options := hit ++ flags.options }
    | .ok (hit, some option) =>
      match args with
      | [] => .error (.needsValue option)
      | v :: args =>
        (ofArgs opts args).map fun flags =>
          { flags with options := hit ++ (option, v) :: flags.options }
  | arg :: args =>
    if opts.mixed then
      (ofArgs opts args).map fun flags => { flags with operands := arg :: flags.operands }
    else .ok { operands := arg :: args }

end Flags

def OptionFlaw.message : OptionFlaw → Raw
  | .unknown option => "invalid option -- '" ++ [option, '\'']
  | .needsValue option => "option requires an argument -- '" ++ [option, '\'']
  | .unknownLong s => "unrecognized option '" ++ s ++ "'"
  | .longNeedsValue s => "option '" ++ s ++ "' requires an argument"
  | .longTakesNone s => "option '" ++ s ++ "' doesn't allow an argument"
  | .ambiguous s possible =>
    "option '".toList ++ s ++ "' is ambiguous; possibilities:".toList
      ++ possible.flatMap fun name => " '".toList ++ name ++ ['\'']

def refuseChoice {α : Type} (s : Raw) (option : String) (choices : List String) : Act α := do
  complain ("invalid argument " ++ cite s ++ " for " ++ cite option.toList)
  report "Valid arguments are:\n"
  for choice in choices do
    let ns := (choice.toList.splitOn ' ').map cite
    report ("  - " ++ ", ".toList.intercalate ns ++ "\n")
  pointToHelp
  throw (.exited 1)

def flagsOr (code : Nat) (opts : Options) (args : List Raw) : Act Flags := do
  match Flags.ofArgs opts args with
  | .ok flags => pure flags
  | .error flaw => abortUsage code flaw.message

def needOperand (flags : Flags) : Act Unit := do
  if flags.operands.isEmpty then abortUsage 1 "missing operand"

def flagsOf (plain valued long : String) (args : List Raw) : Act Flags :=
  flagsOr 1 { plain := plain.toList, valued := valued.toList, long } args

/-! ## Amounts -/

inductive AmountFault where
  | malformed | tooLarge | outOfRange

namespace Amount

def largest : Nat := Nat.pow 2 64 - 1

def power? (ch : Char) : Option Nat :=
  [('k', 1), ('K', 1), ('m', 2), ('M', 2), ('g', 3), ('G', 3), ('t', 4), ('T', 4), ('P', 5),
    ('E', 6), ('Z', 7), ('Y', 8)].lookup ch

def factor? (units : String) (s : Raw) : Option (Nat × Nat) := do
  let ch ← s.head?
  if !units.toList.contains ch then none
  match ch with
  | 'b' => some (512, 1)
  | 'B' => some (1024, 1)
  | 'c' => some (1, 1)
  | 'w' => some (2, 1)
  | _ =>
    let power ← power? ch
    let y := s[1]?
    if !units.toList.contains '0' then some (Nat.pow 1024 power, 1)
    else if y = some 'i' && s[2]? = some 'B' then some (Nat.pow 1024 power, 3)
    else if y = some 'B' || y = some 'D' then some (Nat.pow 1000 power, 2)
    else some (Nat.pow 1024 power, 1)

def read (units : String) (s : Raw) : Except AmountFault Nat :=
  let isBlank (c : Char) : Bool := c = ' ' || ('\t' ≤ c && c ≤ '\r')
  let body := s.dropWhile isBlank
  let body := if body.head? = some '+' then body.drop 1 else body
  let ds := body.takeWhile Char.isDigit
  let xs := if ds.isEmpty then s else body.drop ds.length
  let number? := if ds.isEmpty then none else Raw.toNat? ds
  match number?, xs, factor? units xs with
  | none, _, none => .error .malformed
  | some n, [], _ => if n > largest then .error .tooLarge else .ok n
  | _, _, none => .error .malformed
  | n, xs, some (factor, len) =>
    let amt := n.getD 1 * factor
    if len < xs.length then .error .malformed
    else if amt > largest then .error .tooLarge
    else .ok amt

def reason (amt : Nat) : Raw :=
  (if amt > 1073741823 then ": Value too large for defined data type"
    else ": Numerical result out of range").toList

end Amount

def amountOr (code : Nat) (what units : String) (lowest highest : Nat) (s : Raw) : Act Nat := do
  let refuse (reason : Raw) : Act Nat := abort code (what.toList ++ ": " ++ cite s ++ reason)
  match Amount.read units s with
  | .ok amt => if lowest ≤ amt && amt ≤ highest then pure amt else refuse (Amount.reason amt)
  | .error .tooLarge => refuse (Amount.reason Amount.largest)
  | .error _ => refuse []

def countOf? (s : Raw) : Option Nat :=
  let ds := s.takeWhile Char.isDigit
  let unit := match String.ofList (s.drop ds.length) with
    | "" => some 1
    | "b" => some 512
    | "c" => some 1
    | "w" => some 2
    | "k" | "K" | "KiB" => some 1024
    | "kB" | "KB" => some 1000
    | "M" | "MiB" => some 1048576
    | "MB" => some 1000000
    | "G" | "GiB" => some 1073741824
    | "GB" => some 1000000000
    | _ => none
  match Raw.toNat? ds, unit with
  | some k, some unit => some (k * unit)
  | _, _ => none

end Assay.Tool
