import Assay.Shell.Builtin

/-! # Running commands -/

namespace Assay.Shell

open Script (Assignment Command Redirect Word)

/-! ## Jobs of the shell -/

variable (core : Core)

def finish (code : Nat) : Eval Ending := do
  match (← get).traps.lookup 0 with
  | none | some [] => pure (.exited (code % 256))
  | some action =>
    setTrap 0 none
    setStatus code
    modify ({ · with line := 1 })
    try
      actingOn 0 (core.script {} action)
      pure (.exited (code % 256))
    catch
      | .exit code | .failed code => pure (.exited (code % 256))
      | .ended fin => pure fin
      | _ => pure (.exited (code % 256))

variable (action : Eval Unit)

def conclude : Eval Ending := do
  let code ← try
      action
      pure (Except.ok (← get).status)
    catch
      | .exit code | .failed code | .result code => pure (.ok code)
      | .abandoned => pure (.ok 1)
      | .leave _ | .again _ => pure (.ok (← get).status)
      | .ended fin => pure (.error fin)
  match code with
  | .ok code => finish core code
  | .error fin => pure fin

def inChild (change : Job → Job) (action : Eval Unit) : Eval Nat := do
  let sh ← get
  match ← lift (Run.fork sh.pid fun job => change { job with caught := [] }) with
  | .parent child => pure child
  | .child pid =>
    let children := if sh.extended then
        sh.children.map ({ · with isForeign := true })
      else []
    set { sh with
      pid, children, traps := sh.traps.filter (·.2.isEmpty)
      reached := sh.reached.drop (sh.reached.length - 1) }
    throw (.ended (← conclude core action))

def collect (pids : List Nat) : Nat → List (Nat × Ending) → Eval (List (Nat × Ending))
  | 0, _ => lift Run.stuck
  | fuel + 1, hit => do
    if pids.all fun pid => (hit.lookup pid).isSome then pure hit
    else
      let sh ← get
      let ended ← lift (Run.await (·.takeChild? sh.pid))
      noteEnded ended
      if pids.contains ended.pid then
        if !sh.extended then reportSignal ended.ending
        collect pids fuel ((ended.pid, ended.ending) :: hit)
      else collect pids fuel hit

def settle (pids : List Nat) : Eval Unit := do
  let hit ← collect pids maxRounds []
  let some fin := pids.getLast?.bind fun pid => hit.lookup pid | pure ()
  setStatus (codeOf fin)

def hasTraps : Eval Bool := do
  pure ((← get).traps.any fun q => !q.2.isEmpty)

def takeSignals (core : Core) : Eval Unit := do
  if (← theMachine).signals.isEmpty then pure ()
  else
    let pid := (← get).pid
    let signals ← onMachine (·.takeSignals pid)
    for sig in signals do
      let sh ← get
      match sh.traps.lookup sig with
      | none | some [] => pure ()
      | some action =>
        modify ({ · with line := 1 })
        actingOn sig (core.script {} action)
        modify ({ · with status := sh.status, line := sh.line })

variable (mode : Mode)

def checkFailure : Eval Unit := do
  let sh ← get
  if sh.status ≠ 0 && !mode.tested && sh.switches.contains 'e' then throw (.exit sh.status)

def runList (core : Core) (mode : Mode) : List Command → Eval Unit
  | [] => pure ()
  | [cmd] => core.command mode cmd
  | cmd :: xs => do
    core.command { mode with last := false } cmd
    runList core mode xs

def outputOf : Eval Raw := do
  let (src, t) ← onMachine (·.addPipe)
  let child ← inChild core (·.connect 1 t) action
  changeJob fun job => { job with saved := src :: job.saved }
  let bs ← lift (Run.readAll src)
  changeJob fun job => { job with saved := job.saved.erase src }
  let hit ← collect [child] maxRounds []
  let code := (hit.lookup child).map codeOf
  modify ({ · with substituted := code })
  pure (Raw.ofBytes (bs.toOption.getD []))

def runPrinting (body : List Command) : Eval Unit := do
  if body.isEmpty then setStatus 0
  runList core { last := true } body

def withoutLineEnds (s : Raw) : Raw := (s.reverse.dropWhile (· = '\n')).reverse

def substitution : Substitution := fun body => do
  pure (withoutLineEnds ((← outputOf core (runPrinting core body)).filter (· ≠ '\x00')))

/-! ## Redirections -/

def openFault (creates : Bool) (p : Raw) (e : SysFault) : Raw :=
  let lead := (if creates then "cannot create " else "cannot open ").toList ++ p ++ ": "
  match e with
  | .notFound | .notDirectory =>
    lead ++ (if creates then "Directory nonexistent" else "No such file").toList
  | e => lead ++ Raw.ofText e.description

def openingOf (keeps : Bool) : Script.Mode → Machine.Opening
  | .read => .toRead
  | .write => { Machine.Opening.toWrite with excludes := keeps }
  | .force => .toWrite
  | .append => .toAppend
  | .both => .toChange

inductive Change where
  | here (fd : Nat) (body : Word)
  | close (fd : Nat)
  | duplicate (fd source : Nat)
  | file (fd : Nat) (mode : Script.Mode) (path : Raw)

def changeOf (substitute : Substitution) : Redirect → Eval (Option Change)
  | .chosen _ _ => pure none
  | .here fd body _ => pure (some (.here fd body))
  | .duplicate fd t => do
    let t ← expandText substitute t
    if t = "-" then pure (some (.close fd))
    else
      match if t.length = 1 then t.toNat? else none with
      | none =>
        modify fun sh => { sh with line := sh.reached.headD 1 }
        fail 2 "Syntax error: Bad fd number"
      | some src => pure (some (.duplicate fd src))
  | .file fd mode t => do
    pure (some (.file fd mode (← expandText substitute t)))

def connect (fd stream : Nat) : Eval Bool := do
  changeJob (·.connect fd stream)
  pure true

def connectCopy (fd : Nat) (s : Raw) (src : Nat) : Eval Bool := do
  match (← theJob).stream? src with
  | some stream => connect fd stream
  | none =>
    complain (s ++ ": Bad file descriptor")
    pure false

def connectFile (flaw : SysFault → Raw) (fd : Nat) (mode : Script.Mode) (p : Raw) : Eval Bool := do
  let pid := (← get).pid
  match ← lift (Run.openFile pid (openingOf (← isOn 'C') mode) ⟨p.toText⟩) with
  | .ok stream =>
    let done ← connect fd stream
    lift (Run.release pid stream)
    pure done
  | .error e =>
    complain (flaw e)
    pure false

def redirect (change : Change) : Eval Bool := do
  match change with
  | .here fd body =>
    try
      let bs := Raw.toBytes (← expandText (substitution core) body)
      connect fd (← onMachine (·.addStream (.source bs)))
    catch
      | .failed _ => pure false
      | stop => throw stop
  | .close fd =>
    changeJob (·.disconnect fd)
    pure true
  | .duplicate fd src => connectCopy fd (Raw.ofNat src) src
  | .file fd mode p => connectFile (openFault (mode ≠ .read) p) fd mode p

def redirectAll (redirects : List Redirect) : Eval Bool := do
  let changes ← redirects.filterMapM (changeOf (substitution core))
  changes.allM (redirect core)

def descriptorOf : Redirect → Nat
  | .here fd _ _ => fd
  | .chosen _ change => descriptorOf change
  | .duplicate fd _ => fd
  | .file fd _ _ => fd

def withRedirects (redirects : List Redirect) (action : Eval Unit)
    (otherwise : Eval Unit := pure ()) : Eval Unit :=
  if redirects.isEmpty then action
  else
    keepingDescriptors (redirects.map descriptorOf) do
      if ← redirectAll core redirects then action
      else
        setStatus 2
        otherwise

/-! ## Simple commands -/

variable (assignments : List Assignment)

def assignAll (exports : Bool) : Eval (List (Raw × Raw)) :=
  assignments.mapM fun assignment => do
    let name := assignment.name
    let v ← expandText (substitution core) assignment.value
    assign name v
    if exports then
      modify fun sh => sh.putVariable name (some { (sh.find? name).getD {} with exported := true })
    pure (name, v)

def withAssignments (action : List (Raw × Raw) → Eval Unit) : Eval Unit := do
  if assignments.isEmpty then return ← action []
  let pre := (← get).bindings
  let restore : Eval Unit := modify fun sh =>
    assignments.foldl (fun sh assignment =>
      sh.putVariable assignment.name (pre.lookup assignment.name)) sh
  let restoring (stop : Stop) : Eval Unit := do
    restore
    throw stop
  try
    let assigned ← assignAll core assignments true
    action assigned
  catch stop => restoring stop
  restore

def runProgram (args : List Raw) : Eval Unit := do
  let name := args.headD []
  match ← findProgram name with
  | .error e => complainStart false name e
  | .ok p =>
    let start : Eval Unit := do
      let e ← become core p args
      complainStart true name e
      throw (.exit (← get).status)
    if mode.last && !(← hasTraps) then start else settle [← inChild core id start]

def maxFunctionDepth : Nat := 1000

def runFunction (body : Command) (args : List Raw) : Eval Unit := do
  let h ← get
  if h.depth ≥ maxFunctionDepth then fail 2 "Maximum function recursion depth (1000) reached"
  set { h.withArgs args with depth := h.depth + 1, locals := [], loops := 0 }
  let restore : Eval Unit := modify fun sh =>
    let sh := sh.locals.foldl (fun sh (name, hit) =>
      if name = "-" then { sh with switches := (hit.bind (·.value)).getD [] }
      else sh.putVariable name hit) sh
    { sh with
      args := h.args, optionIndex := h.optionIndex, optionOffset := h.optionOffset
      depth := h.depth, locals := h.locals, loops := h.loops }
  try core.command { mode with last := false } body
  catch stop =>
    restore
    match stop with
    | .result code => setStatus code; return
    | stop => throw stop
  restore

def runBuiltin (fatal : Bool) (name : Raw) (action : Eval Unit) : Eval Unit := do
  let pre := (← get).within
  let restore : Eval Unit := modify ({ · with within := pre })
  modify ({ · with within := some name })
  try action
  catch stop =>
    restore
    match stop with
    | .failed code => if fatal then throw stop else setStatus code; return
    | stop => throw stop
  restore

def unwrapCommand : List Raw → Option (List Raw)
  | ['-', '-'] :: args => some args
  | ('-' :: 'p' :: xs) :: args => if xs.all (· = 'p') then unwrapCommand args else none
  | ('-' :: _ :: _) :: _ => none
  | args => some args

def unwrapAll : Nat → List Raw → List Raw × Bool
  | 0, fs => (fs, false)
  | fuel + 1, fs =>
    if fs.head? = some "command" then
      match unwrapCommand (fs.drop 1) with
      | some (x :: xs) => ((unwrapAll fuel (x :: xs)).1, true)
      | _ => (fs, false)
    else (fs, false)

def declares (fs : List Raw) : Bool :=
  declaringNames.contains (String.ofList ((unwrapAll fs.length fs).1.headD []))

def expandWords (substitute : Substitution) : List Raw → List Word → Eval (List Raw)
  | fs, [] => pure fs
  | fs, w :: ws => do
    let hit ←
      if Script.isDeclared w && declares fs then pure [← expandText substitute (Script.declared w)]
      else expandField substitute w
    expandWords substitute (fs ++ hit) ws

def trace (stream : Option Nat) (assigned : List (Raw × Raw)) (fs : List Raw) : Eval Unit := do
  if ← isOn 'x' then
    let lead := ((← get).value? "PS4").getD []
    let ws := assigned.map (fun (name, v) => name ++ '=' :: v) ++ fs
    if let some stream := stream then
      let _ ← writeStream stream (lead ++ [' '].intercalate ws ++ "\n")

def runSimple (ws : List Word) (redirects : List Redirect) : Eval Unit := do
  let substitute := substitution core
  modify ({ · with substituted := none })
  let expanded ← expandWords substitute [] ws
  let errors := (← theJob).stream? 2
  let (fs, aside) := unwrapAll expanded.length expanded
  match fs with
  | [] =>
    withRedirects core redirects do
      let assigned ← assignAll core assignments false
      if !assigned.isEmpty then trace errors assigned []
      setStatus ((← get).substituted.getD 0)
  | name :: args =>
    let s := String.ofList name
    let functions := (← get).functions
    match if aside then none else functions.lookup name with
    | some body =>
      withRedirects core redirects do
        withAssignments core assignments fun assigned => do
          trace errors assigned expanded
          runFunction core mode body args
    | none =>
      match builtin? (core.within mode) s args with
      | some action =>
        let special := specialNames.contains s
        let redirected (action : Eval Unit) : Eval Unit :=
          if s = "exec" || redirects.isEmpty then action
          else keepingDescriptors (redirects.map descriptorOf) action
        redirected do
          if ← redirectAll core redirects then
            if special && !aside then
              let assigned ← assignAll core assignments false
              trace errors assigned expanded
              runBuiltin true name action
            else
              withAssignments core assignments fun assigned => do
                trace errors assigned expanded
                runBuiltin false name action
          else if special && !aside then throw (.failed 2)
          else setStatus 2
      | none =>
        withRedirects core redirects do
          withAssignments core assignments fun assigned => do
            trace errors assigned expanded
            runProgram core mode fs

/-! ## Pipelines and jobs in the background -/

def startStages (core : Core) (mode : Mode) (prepare : Job → Job) (input : Option Nat) :
    List Command → Eval (List Nat)
  | [] => pure []
  | [cmd] => do
    let child ← inChild core (fun job => input.elim (prepare job) (prepare job).connectInput)
      (core.command { mode with last := true } cmd)
    pure [child]
  | cmd :: xs => do
    let (src, t) ← onMachine (·.addPipe)
    let child ← inChild core
      (fun job => (input.elim (prepare job) (prepare job).connectInput).connect 1 t)
      (core.command { mode with last := true } cmd)
    pure (child :: (← startStages core mode prepare (some src) xs))

def runBackground (cmd : Command) : Eval Unit := do
  let empty ← onMachine (·.addStream (.device .null))
  let prepare (job : Job) : Job := { job.connect 0 empty with ignored := 2 :: 3 :: job.ignored }
  let stages := match cmd with
    | .pipeline stages => stages
    | cmd => [cmd]
  let pids ← startStages core {} prepare none stages
  modify fun sh =>
    { sh with
      children := sh.children ++ [{ pids }]
      background := pids.getLast?
      status := 0 }

/-! ## Loops and choices -/

def inLoop : Eval Bool := do
  try
    action
    pure true
  catch
    | .leave levels => if levels ≤ 1 then pure false else throw (.leave (levels - 1))
    | .again levels => if levels ≤ 1 then pure true else throw (.again (levels - 1))
    | stop => throw stop

def asLoop : Eval Unit := do
  let loops := (← get).loops
  let restore : Eval Unit := modify ({ · with loops })
  modify ({ · with loops := loops + 1 })
  try action catch stop => restore; throw stop
  restore

def runLoop (untilDone : Bool) (test body : List Command) : Eval Unit :=
  asLoop do
    repeatFrom 0 fun (last : Nat) => do
      tick
      if !(← inLoop (runList core { tested := true } test)) then pure none
      else if ((← get).status = 0) = untilDone then
        setStatus last
        pure none
      else if ← inLoop (runList core mode body) then pure (some (← get).status)
      else pure none

def runEach (name : Raw) (vs : List Raw) (body : List Command) : Eval Unit := do
  if vs.isEmpty then setStatus 0
  asLoop do
    repeatFrom vs fun vs => do
      match vs with
      | [] => pure none
      | v :: xs =>
        tick
        assign name v
        if ← inLoop (runList core mode body) then pure (some xs) else pure none

def runChoice (core : Core) (mode : Mode) (subject : Raw) :
    List (List Word × List Command × Script.AfterArm) → Eval Unit
  | [] => setStatus 0
  | (patterns, body, _) :: xs => do
    let covers ← patterns.anyM fun w => do
      pure ((patternOf (← expand (substitution core) w)).covers subject.rawAll)
    if covers then if body.isEmpty then setStatus 0 else runList core mode body
    else runChoice core mode subject xs

/-! ## All commands -/

def runCommand (cmd : Command) : Eval Unit := do
  let g : Mode := { mode with last := false }
  let settled (pids : List Nat) : Eval Unit := do
    settle pids
    takeSignals core
    checkFailure mode
  match cmd with
  | .simple line assignments ws redirects =>
    tick
    modify ({ · with line })
    runSimple core mode assignments ws redirects
    takeSignals core
    checkFailure mode
  | .pipeline stages => settled (← startStages core g id none stages)
  | .negated cmd =>
    core.command { tested := true } cmd
    setStatus (if (← get).status = 0 then 1 else 0)
  | .both l r =>
    core.command { tested := true } l
    if (← get).status = 0 then core.command mode r
  | .either l r =>
    core.command { tested := true } l
    if (← get).status ≠ 0 then core.command mode r
  | .background cmd => runBackground core cmd
  | .subshell body =>
    if mode.last && !(← hasTraps) then
      runList core mode body
      throw (.exit (← get).status)
    else settled [← inChild core id (runList core { mode with last := true } body)]
  | .group body => runList core mode body
  | .cond test body y =>
    runList core { tested := true } test
    if (← get).status = 0 then runList core mode body
    else if y.isEmpty then setStatus 0
    else runList core mode y
  | .loop untilDone test body => runLoop core g untilDone test body
  | .each line name ws body =>
    modify ({ · with line })
    let vs ← match ws with
      | some ws => expandFields (substitution core) ws
      | none => pure (← get).args
    runEach core g name vs body
  | .choose line w arms =>
    modify ({ · with line })
    runChoice core mode (← expandText (substitution core) w) arms
  | .define _ name body =>
    modify fun sh =>
      { sh with
        functions := (name, body) :: sh.functions.filter (·.1 ≠ name)
        status := 0 }
  | .redirected line cmd redirects =>
    modify ({ · with line })
    withRedirects core redirects (core.command g cmd) (checkFailure mode)
  | .formula _ _ | .test _ _ | .counted _ _ _ _ _ | .timed _ _ => setStatus 2

/-! ## Scripts -/

abbrev Reading := Except (Nat × Script.Flaw) (Option (List Command) × Script.Input)

def isOpen : Reading → Bool
  | .ok (some _, post) => !post.atLineStart || !post.unended.isEmpty
  | _ => true

structure Source where
  input : Script.Input
  more : Eval Raw := pure []
  goesOn : Bool := false

def readCommands : Nat → Source → Eval (Reading × Source)
  | 0, _ => lift Run.stuck
  | fuel + 1, src => do
    let rd := Script.nextLine.run src.input
    if !src.goesOn || !isOpen rd then pure (rd, src)
    else
      match ← src.more with
      | [] => pure (rd, { src with goesOn := false })
      | s =>
        let input := src.input
        readCommands fuel { src with
          input := { input with
            rest := input.rest ++ s, bound := input.bound + s.length } }

def runLines (isStream : Bool) (start : Source) : Eval Unit :=
  repeatFrom (start, false) fun (src, ran) => do
    let aliases := (← get).aliases
    let (rd, src) ← readCommands maxRounds { src with input := { src.input with aliases } }
    let input := src.input
    let display (s : Raw) : Eval Unit := do
      if isStream && (← isOn 'v') then let _ ← writeTo 2 s
    match rd with
    | .error (line, flaw) =>
      display (input.rest.lines.take (line - input.line + 1)).flatten
      modify ({ · with line })
      fail 2 ("Syntax error: " ++ flaw.message.toList)
    | .ok (none, _) =>
      display input.rest
      if !ran then setStatus 0
      pure none
    | .ok (some commands, post) =>
      display (input.rest.take (post.position - input.position))
      if !(← isOn 'n') then
        modify fun sh => { sh with reached := post.line :: sh.reached.drop 1 }
        let isEnd := post.rest.isEmpty && !post.atLineStart
        runList core { mode with last := mode.last && isEnd } commands
      pure (some ({ src with input := { post with unended := [] } }, ran || !commands.isEmpty))

def runScript (s : Raw) : Eval Unit := do
  modify fun sh => { sh with reached := 1 :: sh.reached }
  runLines core mode false { input := { rest := s } }
  modify fun sh => { sh with reached := sh.reached.drop 1 }

def streamBlock : Nat := 8192

def runStream (i : Nat) : Eval Unit :=
  runLines core mode true
    { input := { rest := [] }
      more := do pure (Raw.ofBytes ((← lift (Run.readSome i streamBlock)).toOption.getD []))
      goesOn := true }

end Assay.Shell
