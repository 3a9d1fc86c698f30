import Assay.Shell.Extended.Builtin
import Assay.Shell.Run

/-! # Running commands of the extended language -/

namespace Assay.Shell.Extended

open Script (Assignment Command Redirect Word)

/-! ## Commands in words -/

def printing : List Command → List Command
  | [.simple l [] [] [.file 0 .read t]] =>
    [.simple l [] [[.text "/usr/bin/cat" true]] [.file 0 .read t]]
  | body => body

def deepen : Eval Unit := modify fun sh =>
  { sh with extras := { sh.extras with level := sh.extras.level + 1 } }

def substitution (core : Core) : Substitution := fun body => do
  let s ← outputOf core do
    deepen
    if !(← hasOption "inherit_errexit") then turnSwitch false 'e'
    runPrinting core (printing body)
  if s.contains '\x00' then complain "warning: command substitution: ignored null byte in input"
  pure (withoutLineEnds (s.filter (· ≠ '\x00')))

def pipeDescriptors : List Nat := [63, 62, 61, 60]

def openPipes (job : Job) : List Nat := pipeDescriptors.filter fun fd => (job.stream? fd).isSome

variable (core : Core)

def openPipe (reads : Bool) (body : List Command) : Eval Raw := do
  let taken := openPipes (← theJob)
  match pipeDescriptors.find? fun fd => !taken.contains fd with
  | none => abandon "cannot make pipe for process substitution: Too many open files"
  | some fd =>
    let (src, t) ← onMachine (·.addPipe)
    let change (job : Job) : Job :=
      let job := taken.foldl Job.disconnect job
      if reads then job.connect 1 t else job.connect 0 src
    let _ ← inChild core change do
      deepen
      runList core { last := true } body
    changeJob fun job => job.connect fd (if reads then src else t)
    pure ("/dev/fd/" ++ Raw.ofNat fd)

def meansOf : Means := { output := substitution core, pipe := openPipe core }

def closingPipes (action : Eval Unit) : Eval Unit := do
  let pre := openPipes (← theJob)
  let close : Eval Unit := do
    let opened := (openPipes (← theJob)).filter fun fd => !pre.contains fd
    if !opened.isEmpty then changeJob fun job => opened.foldl Job.disconnect job
  try action catch stop => close; throw stop
  close

/-! ## Events -/

def runEvent (event : Nat) : Eval Unit := do
  let sh ← get
  match sh.traps.lookup event with
  | none | some [] => pure ()
  | some action =>
    if !sh.extras.events.contains event then
      actingOn event (core.script {} action)
      modify ({ · with status := sh.status, line := sh.line })

def beforeCommand : Nat := 65

def onFailure : Nat := 66

def onReturn : Nat := 67

def checkFailure (core : Core) (mode : Mode) : Eval Unit := do
  if (← get).status ≠ 0 && !mode.tested then
    runEvent core onFailure
    Shell.checkFailure mode

def noteStage : Eval Unit := modify fun sh =>
  { sh with extras := { sh.extras with stageCodes := [sh.status] } }

def settle (pids : List Nat) (shown : Raw) : Eval Unit := do
  let hit ← collect pids maxRounds []
  let codes := pids.map fun pid => ((hit.lookup pid).map codeOf).getD 0
  match pids.getLast?.bind fun pid => (hit.lookup pid).map fun fin => (pid, fin) with
  | some (pid, .killed sig) =>
    if sig ≠ 2 && sig ≠ 13 then
      let name := (signalDescription sig).toList
      complain (Raw.ofNat pid ++ ' ' :: name ++ List.replicate (24 - name.length) ' ' ++ shown)
  | _ => pure ()
  let last := codes.getLast?.getD 0
  let code := if ← hasOption "pipefail" then (codes.reverse.find? (· ≠ 0)).getD 0
    else last
  modify fun sh => { sh with status := code, extras := { sh.extras with stageCodes := codes } }
  noteKnown Child.isDone

/-! ## Redirections -/

def openFault (p : Raw) (e : SysFault) : Raw :=
  let p := printable p
  match e with
  | .exists => p ++ ": cannot overwrite existing file"
  | e => p ++ ": " ++ Raw.ofText e.description

def redirectBy (change : Redirect) : Eval Bool := do
  let means := meansOf core
  let single (t : Word) : Eval (Option Raw) := do
    match ← expandField means t with
    | [s] => pure (some s)
    | _ =>
      complain (Script.Word.text t ++ ": ambiguous redirect")
      pure none
  let openTo (fd : Nat) (mode : Script.Mode) (p : Raw) : Eval Bool :=
    connectFile (openFault p) fd mode p
  match change with
  | .chosen _ _ => pure false
  | .here fd body _ =>
    let bs := Raw.toBytes (← expandText means body)
    connect fd (← onMachine (·.addStream (.source bs)))
  | .duplicate fd t =>
    match ← single t with
    | none => pure false
    | some ['-'] =>
      changeJob (·.disconnect fd)
      pure true
    | some s =>
      let moves := s.getLast? = some '-'
      match Raw.toNat? (if moves then s.dropLast else s) with
      | some src =>
        let done ← connectCopy fd (Script.Word.text t) src
        if done && moves then changeJob (·.disconnect src)
        pure done
      | none =>
        if fd = 1 then if ← openTo 1 .write s then connectCopy 2 "1" 1 else pure false
        else
          complain (Script.Word.text t ++ ": ambiguous redirect")
          pure false
  | .file fd mode t =>
    let some p ← single t | pure false
    openTo fd mode p

def moved (fd : Nat) : Redirect → Redirect
  | .file _ mode t => .file fd mode t
  | .duplicate _ t => .duplicate fd t
  | .here _ body form => .here fd body form
  | .chosen name change => .chosen name change

def firstChosen : Nat := 10

def redirect (change : Redirect) : Eval Bool := do
  match change with
  | .chosen name (.duplicate _ [.written ['-'], .text ['-'] false]) =>
    match ((← get).value? name).bind Raw.toNat? with
    | some fd =>
      changeJob (·.disconnect fd)
      pure true
    | none =>
      complain (name ++ ": Bad file descriptor")
      pure false
  | .chosen name change =>
    let job ← theJob
    let taken := job.descriptors.map (·.1)
    let free := (List.range (taken.length + 1)).find? fun off => !taken.contains (firstChosen + off)
    let fd := firstChosen + free.getD 0
    if (← get).isFixed name then
      complain (name ++ ": readonly variable")
      complain (name ++ ": cannot assign fd to variable")
      pure false
    else if ← redirectBy core (moved fd change) then
      store name none false (Raw.ofNat fd)
      pure true
    else pure false
  | change => redirectBy core change

def redirectAll (core : Core) : List Redirect → Eval Bool
  | [] => pure true
  | x :: xs => do if ← redirect core x then redirectAll core xs else pure false

def changedBy (redirects : List Redirect) : List Nat :=
  redirects.flatMap fun
    | .duplicate 1 _ => [1, 2]
    | .chosen _ _ => []
    | change => [descriptorOf change]

def withRedirects (redirects : List Redirect) (action : Eval Unit) : Eval Unit :=
  if redirects.isEmpty then action
  else
    keepingDescriptors (changedBy redirects).eraseDups do
      if ← redirectAll core redirects then action else setStatus 1

/-! ## Simple commands -/

def assignOne : Assignment → Eval Unit
  | .mk name key appends v => do
    let means := meansOf core
    let sgn : Raw := if appends then "+=" else "="
    match Script.Word.bare v with
    | [.items xs] =>
      let given ← expandItems means xs
      let inside := Script.wordTexts (xs.map fun (_, _, w) => w)
      trace (name ++ sgn ++ '(' :: [' '].intercalate inside ++ ")")
      storeItems name appends given
    | v =>
      let key ← key.mapM (expandText means)
      let s ← expandText means v
      let t := name ++ (key.elim [] fun key => '[' :: key ++ [']']) ++ sgn
      traceAssignment t s
      store name key appends s

def withAssignments (assignments : List Assignment) (action : Eval Unit) : Eval Unit := do
  if assignments.isEmpty then action
  else
    let pre := (← get).bindings
    let ns := assignments.map Assignment.name
    let restore : Eval Unit := modify fun sh =>
      ns.foldl (fun sh name => sh.putVariable name (pre.lookup name)) sh
    try
      for assignment in assignments do
        let name := assignment.name
        if (← get).isFixed name then complain (name ++ ": readonly variable")
        else
          assignOne core assignment
          modify fun sh => sh.putVariable name
            ((sh.find? name).map ({ · with exported := true }))
      action
    catch stop => restore; throw stop
    restore

variable (mode : Mode)

def runProgram (redirects : List Redirect) (args : List Raw) : Eval Unit := do
  let name := args.headD []
  let hit ← findProgram name
  let start : Eval Unit := do
    if !(← redirectAll core redirects) then throw (.exit 1)
    match hit with
    | .error e => complainStart name e
    | .ok p =>
      let e ← become core p args
      complainStart name e
    throw (.exit (← get).status)
  match hit, redirects with
  | .error e, [] => complainStart name e
  | _, _ =>
    if mode.last && !(← hasTraps) then
      let sh ← get
      if sh.pid = sh.root then leaveLevel
      start
    else settle [← inChild core id start] ([' '].intercalate args)

variable (name : Raw)

def runFunction (body : Command) (args : List Raw) : Eval Unit := do
  let h ← get
  let (source, line) := (h.extras.sources.lookup name).getD ([], 1)
  let caller : Caller := { function := name, source, line := h.line }
  let isAside (sig : Nat) : Bool :=
    if sig = onFailure then !h.switches.contains 'E'
    else (sig = beforeCommand || sig = onReturn) && !h.switches.contains 'T'
  let aside := h.traps.filter fun q => isAside q.1
  set { h with
    line, args, depth := h.depth + 1, locals := [], loops := 0
    traps := h.traps.filter fun q => !isAside q.1
    extras := { h.extras with callers := caller :: h.extras.callers } }
  let restore : Eval Unit := modify fun sh =>
    let sh := sh.locals.foldl (fun sh (name, hit) => sh.putVariable name hit) sh
    { sh with
      args := h.args, depth := h.depth, locals := h.locals, loops := h.loops
      line := h.line
      traps := sh.traps ++ aside.filter fun q => (sh.traps.lookup q.1).isNone
      extras := { sh.extras with callers := h.extras.callers } }
  try
    core.command { mode with last := false } body
    runEvent core onReturn
  catch
    | .result code =>
      setStatus code
      runEvent core onReturn
      restore
      return
    | stop => restore; throw stop
  restore

def unwrap (disabled : List String) : Nat → List Raw → List Raw × Bool
  | 0, fs => (fs, false)
  | fuel + 1, fs =>
    match fs with
    | name :: xs =>
      if name = "command" then
        match unwrapCommand xs with
        | some (x :: more) => ((unwrap disabled fuel (x :: more)).1, true)
        | _ => (fs, false)
      else if name = "builtin" && (xs.head?.any fun next => ownNames.contains (String.ofList next)
            && !disabled.contains (String.ofList next)) then
        ((unwrap disabled fuel xs).1, true)
      else (fs, false)
    | [] => ([], false)

def expandWords (core : Core) : List Declared → List Word → Eval (List Declared)
  | fs, [] => pure fs
  | fs, w :: ws => do
    let means := meansOf core
    let ns := fs.map Declared.name
    let name := (unwrap [] ns.length ns).1.headD []
    let w := Script.Word.bare w
    let t := match w with
      | .text cs false :: _ =>
        if Script.declaringWords.contains (String.ofList name) then Script.target? true cs
        else none
      | _ => none
    let hit ← match t, w with
      | some t, [.text _ _, .items xs] =>
        pure [Declared.items t.name t.appends (← expandItems means xs)]
      | some _, w => pure [.word (← expandText means (Script.declared w))]
      | none, w => pure ((← expandField means w).map Declared.word)
    expandWords core (fs ++ hit) ws

def traceItems : Declared → Eval Unit
  | .word _ => pure ()
  | .items name appends given =>
    let inside := given.map fun (key, _, v) =>
      (key.elim [] fun key => '[' :: singleQuoted key ++ [']', '=']) ++ singleQuoted v
    trace (name ++ (if appends then "+=(" else "=(").toList ++ [' '].intercalate inside ++ ")")

def declaring? (name : String) (args : List Declared) : Option (Eval Unit) :=
  match name with
  | "declare" | "typeset" => some (declareAll false args)
  | "local" => some (declareAll true args)
  | "export" => some (declareAs 'x' args)
  | "readonly" => some (declareAs 'r' args)
  | _ => none

def noteWord (w : Raw) : Eval Unit := modify fun sh =>
  { sh with extras := { sh.extras with lastWord := w } }

def runSimple (assignments : List Assignment)
    (ws : List Word) (redirects : List Redirect) : Eval Unit := do
  modify ({ · with substituted := none })
  let declared ← expandWords core [] ws
  let expanded := declared.map Declared.name
  let (fs, aside) := unwrap (← get).extras.disabled expanded.length expanded
  let given := declared.drop (expanded.length - fs.length + 1)
  let traceWords : Eval Unit := do
    declared.forM traceItems
    trace ([' '].intercalate (expanded.map tracedWord))
  match fs with
  | [] =>
    assignments.forM (assignOne core)
    let code := (← get).substituted.getD 0
    withRedirects core redirects (setStatus code)
    noteWord []
  | name :: args =>
    let s := String.ofList name
    let functions := (← get).functions
    withAssignments core assignments do
      traceWords
      match if aside then none else functions.lookup name with
      | some body => withRedirects core redirects (runFunction core mode name body args)
      | none =>
        let own := if (← get).extras.disabled.contains s then none
          else match declaring? s given with
            | some action => some action
            | none =>
              if s = "compgen" then some (generate (meansOf core) args)
              else builtin? (core.within mode) s args
        let some action := own | runProgram core mode redirects fs
        if s = "exec" then
          if ← redirectAll core redirects then runBuiltin false name action else setStatus 1
        else withRedirects core redirects (runBuiltin false name action)
        if s = "." || s = "source" then runEvent core onReturn
    noteWord (expanded.getLast?.getD [])

/-! ## Loops and choices -/

def formulaValue (formula : Word) : Eval (Option Int) := do
  let s ← expandText (meansOf core) formula
  trace ("(( " ++ s ++ " ))")
  match ← calculated s with
  | .ok v => pure (some v)
  | .error (.unbound name) => quit (CalcFlaw.message (.unbound name))
  | .error flaw =>
    complain ("((: " ++ flaw.message)
    pure none

def isBlankWord (w : Word) : Bool :=
  (Script.Word.bare w).all fun
    | .text cs _ => cs.all fun c => c = ' ' || c = '\t' || c = '\n'
    | _ => false

def runCounted (start test step : Word) (body : List Command)
    (pre : Raw → Eval Unit) (post : Eval Unit) : Eval Unit := do
  let v (formula : Word) : Eval (Option Int) := do
    if isBlankWord formula then pure (some 1)
    else
      pre ("((" ++ Script.Word.text formula ++ "))")
      let hit ← formulaValue core formula
      post
      pure hit
  if (← v start).isNone then setStatus 1
  else
    asLoop do
      repeatFrom true fun isFirst => do
        tick
        match ← v test with
        | none =>
          setStatus 1
          pure none
        | some 0 =>
          if isFirst then setStatus 0
          pure none
        | some _ =>
          if ← inLoop (runList core mode body) then
            if (← v step).isNone then
              setStatus 1
              pure none
            else pure (some false)
          else pure none

def runEach (vs : List Raw) (body : List Command) (pre : Eval Unit) : Eval Unit := do
  if vs.isEmpty then setStatus 0
  asLoop do
    repeatFrom vs fun vs => do
      match vs with
      | [] => pure none
      | v :: xs =>
        tick
        pre
        if (← get).isFixed name then
          complain (name ++ ": readonly variable")
          setStatus 1
          pure none
        else
          store name none false v
          if ← inLoop (runList core mode body) then pure (some xs) else pure none

def timeText (isShort : Bool) (micros : Nat) : Raw :=
  let padded (w n : Nat) : Raw :=
    let ds := Raw.ofNat n
    List.replicate (w - ds.length) '0' ++ ds
  if isShort then
    "real " ++ Raw.ofNat (micros / 1000000) ++ '.' :: padded 2 (micros / 10000 % 100)
      ++ "\nuser 0.00\nsys 0.00\n"
  else
    "\nreal\t" ++ Raw.ofNat (micros / 60000000) ++ 'm'
      :: Raw.ofNat (micros / 1000000 % 60) ++ '.' :: padded 3 (micros / 1000 % 1000)
      ++ "s\nuser\t0m0.000s\nsys\t0m0.000s\n"

def runChoice (core : Core) (mode : Mode) (subject : Raw) (falls : Bool) :
    List (List Word × List Command × Script.AfterArm) → Eval Unit
  | [] => setStatus 0
  | (patterns, body, post) :: xs => do
    let grouped ← hasOption "extglob"
    let folds ← hasOption "nocasematch"
    let loc := localeOf (← get)
    let covers ← if falls then pure true
      else patterns.anyM fun w => do
        pure ((globOf loc grouped (← expand (meansOf core) w)).covers folds (loc.chars subject))
    if covers then
      let mode := if post = .leave then mode else { mode with last := false }
      if body.isEmpty then setStatus 0 else runList core mode body
      match post, xs with
      | .leave, _ | _, [] => pure ()
      | .fall, xs => runChoice core mode subject true xs
      | .retry, xs => runChoice core mode subject false xs
    else runChoice core mode subject false xs

/-! ## All commands -/

def currentSource (sh : Shell) : Raw :=
  match sh.extras.callers with
  | caller :: _ => caller.source
  | [] =>
    if sh.extras.givenText then "environment"
    else if sh.extras.source.isEmpty then "main"
    else sh.extras.source

def runCommand (cmd : Command) : Eval Unit := do
  let g : Mode := { mode with last := false }
  let means := meansOf core
  let note (doing : Raw ⊕ Command) : Eval Unit := modify fun sh =>
    if sh.extras.events.isEmpty then { sh with extras := { sh.extras with doing } }
    else sh
  let announce (doing : Raw ⊕ Command) : Eval Unit := do
    note doing
    runEvent core beforeCommand
  let start (line : Nat) (doing : Raw ⊕ Command) : Eval Unit := do
    tick
    modify ({ · with line })
    announce doing
  let settled (pids : List Nat) : Eval Unit := do
    settle pids []
    takeSignals core
    checkFailure core mode
  let around := (← get).line
  let leaveLine : Eval Unit := modify ({ · with line := around })
  match cmd with
  | .simple line assignments ws redirects =>
    start line (.inr cmd)
    closingPipes (runSimple core mode assignments ws redirects)
    noteStage
    takeSignals core
    checkFailure core mode
    leaveLine
  | .pipeline stages =>
    stages.forM fun
      | .simple line assignments ws redirects =>
        announce (.inr (.simple line assignments ws redirects))
      | _ => pure ()
    settled (← startStages core g id none stages)
  | .background cmd =>
    let cmd := match cmd with
      | .negated cmd => cmd
      | cmd => cmd
    if let .simple .. := cmd then announce (.inr cmd)
    runBackground core cmd
    noteStarted cmd.text
  | .timed isShort cmd =>
    let started := (← theMachine).clock
    core.command g cmd
    let micros := (← theMachine).clock - started
    let _ ← writeTo 2 (timeText isShort micros)
  | .subshell body =>
    note (.inr cmd)
    if mode.last && !(← hasTraps) then
      runList core mode body
      throw (.exit (← get).status)
    else settled [← inChild core id (runList core { mode with last := true } body)]
  | .each line name ws body =>
    modify ({ · with line })
    if !Script.isName name then
      complain ('`' :: name ++ "': not a valid identifier")
      setStatus 1
    else
      let vs ← match ws with
        | some ws => expandFields means ws
        | none => pure (← get).args
      let head := Command.eachHead name ws
      runEach core g name vs body do
        announce (.inl head)
        trace head
    leaveLine
  | .counted line x test step body =>
    let pre (s : Raw) : Eval Unit := do
      modify ({ · with line })
      announce (.inl s)
    runCounted core g x test step body pre leaveLine
  | .choose line w arms =>
    let head := "case " ++ Script.Word.text w ++ " in "
    start line (.inl head)
    trace head.dropLast
    let subject ← expandText means w
    runChoice core mode subject false arms
    leaveLine
  | .formula line formula =>
    start line (.inr cmd)
    setStatus (match ← formulaValue core formula with
      | some v => if v = 0 then 1 else 0
      | none => 1)
    noteStage
    checkFailure core mode
    leaveLine
  | .test line test =>
    start line (.inr cmd)
    setStatus (← runTest means false test)
    noteStage
    checkFailure core mode
    leaveLine
  | .define line name body =>
    modify fun sh =>
      let sources := sh.extras.sources.filter (·.1 ≠ name)
      { sh with
        functions := (name, body) :: sh.functions.filter (·.1 ≠ name)
        extras := { sh.extras with sources := (name, currentSource sh, line) :: sources }
        status := 0 }
  | .redirected line cmd redirects =>
    match cmd with
    | .formula _ _ | .test _ _ | .subshell _ => modify ({ · with line })
    | _ => pure ()
    closingPipes do
      keepingDescriptors (changedBy redirects).eraseDups do
        if ← redirectAll core redirects then core.command g cmd
        else
          setStatus 1
          checkFailure core mode
    leaveLine
  | .negated _ | .both _ _ | .either _ _ | .group _ | .cond _ _ _ | .loop _ _ _ =>
    Shell.runCommand core mode cmd

/-! ## Scripts -/

def complainGrammar (s : Raw) (firstLine l : Nat) (flaw : Script.Flaw) : Eval Unit := do
  let sh ← get
  let src := match sh.extras.callers with
    | caller :: _ => caller.source
    | [] => sh.extras.source
  let name := if src.isEmpty then sh.name else src
  let label := sh.extras.label
  let tellAt (l : Nat) (s : Raw) : Eval Unit := do
    let lead := name ++ ": ".toList ++ (if label.isEmpty then [] else label ++ ": ".toList)
      ++ "line ".toList ++ Raw.ofNat l ++ ": ".toList
    let _ ← writeTo 2 (lead ++ s ++ "\n")
  let tell := tellAt l
  if let .openOperand first := flaw then tellAt first (Script.Flaw.unmatched ')').message.toList
  if !flaw.message.isEmpty then tell flaw.message.toList
  let shown := ((s.splitOn '\n')[l - firstLine]?).getD []
  if let .nearToken _ := flaw then tell ('`' :: shown ++ "'")

def warnUnended (hit : List (Nat × Nat × Raw)) : Eval Unit := do
  for (last, first, delimiter) in hit do
    let line := (← get).line
    modify ({ · with line := last })
    complain ("warning: here-document at line " ++ Raw.ofNat first
      ++ " delimited by end-of-file (wanted `" ++ delimiter ++ "')")
    modify ({ · with line })

def runLines (start : Source) : Eval Unit := do
  repeatFrom (start, false) fun (src, ran) => do
    let groups ← hasOption "extglob"
    let (rd, src) ← readCommands maxRounds
      { src with input := { src.input with groups, locale := localeOf (← get) } }
    let input := src.input
    let display (s : Raw) : Eval Unit := do
      if !s.isEmpty && (← isOn 'v') then
        let _ ← writeTo 2 (if s.getLast? = some '\n' then s else s ++ "\n")
    match rd with
    | .error (line, flaw) =>
      display (input.rest.lines.take (line - input.line + 1)).flatten
      complainGrammar input.rest input.line line flaw
      match flaw with
      | .openItems => setStatus 1
      | .badTest _ false => pure ()
      | _ => setStatus 2
      pure none
    | .ok (none, post) =>
      display input.rest
      warnUnended post.unended
      if !ran then setStatus 0
      pure none
    | .ok (some commands, post) =>
      warnUnended post.unended
      display (input.rest.take (post.position - input.position))
      if !(← isOn 'n') then
        let isEnd := post.rest.isEmpty && !post.atLineStart
        let line := if post.atLineStart then post.line - 1 else post.line
        modify ({ · with line })
        try runList core { mode with last := mode.last && isEnd } commands
        catch
          | .abandoned => setStatus 1
          | stop => throw stop
      pure (some ({ src with input := { post with unended := [] } }, ran || !commands.isEmpty))

def runScript (s : Raw) : Eval Unit := do
  runLines core mode { input := { rest := s, line := (← get).line, extended := true } }

def runStream (i : Nat) : Eval Unit := do
  let isInput := (← theJob).stream? 0 = some i
  let more : Eval Raw := do
    let read ← lift (if isInput then Run.readLine i else Run.readSome i streamBlock)
    pure (Raw.ofBytes (read.toOption.getD []))
  runLines core mode
    { input := { rest := [], line := (← get).line, extended := true }, more, goesOn := true }

end Assay.Shell.Extended
