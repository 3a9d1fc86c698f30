import Assay.FileTree.Mode
import Assay.Script.Reader
import Assay.Shell.Expand
import Assay.Tool.Condition
import Assay.Tool.Format

/-! # The shell's own commands -/

namespace Assay.Shell

def specialNames : List String :=
  (": . break continue eval exec exit export local readonly return set shift times trap " ++
    "unset").splitOn

def plainNames : List String :=
  ("[ alias bg cd chdir command echo false fg getopts hash jobs kill printf pwd read test true type " ++
    "ulimit umask unalias wait").splitOn

def declaringNames : List String := ["export", "local", "readonly"]

def output (s : Raw) : Eval Unit := do
  if s.isEmpty then setStatus 0
  else if ← writeTo 1 s then setStatus 0
  else
    let name := (← get).within.getD []
    complain (name ++ ": I/O error")
    setStatus 1

def numberArgument (arg : Raw) : Eval Nat := do
  let some n := arg.toNat? | refuse
  if n ≤ 2147483647 then pure n else refuse
where refuse : Eval Nat := fail 2 ("Illegal number: " ++ arg)

def optionsOf : List Char → List Char → List Raw → Eval (Given × List Raw) :=
  optionsWith (fun ch => fail 2 ("Illegal option -" ++ [ch]))
    fun ch => fail 2 ("No arg for -" ++ ch :: " option")

/-! ## Programs -/

def findProgram (name : Raw) : Eval (Except SysFault Raw) := do
  let sh ← get
  let hit := (← theMachine).tree.findProgram (← theJob).cwd ((sh.value? "PATH").getD []) name
  match hit with
  | .ok p =>
    if !name.contains '/' && (sh.found.lookup name).isNone then
      set { sh with found := sh.found ++ [(name, p)] }
    pure hit
  | .error err =>
    set { sh with found := sh.found.filter fun q => q.1 ≠ name }
    pure (if name.isEmpty then .error .denied else .error err)

def complainStart (isFound : Bool) (name : Raw) (err : SysFault) : Eval Unit := do
  match err with
  | .notFound | .notDirectory =>
    complain (name ++ ": not found")
    setStatus 127
  | err =>
    complain (name ++ ": " ++ Raw.ofText err.description)
    setStatus (if isFound && err ≠ .tooManyLinks && err ≠ .nameTooLong then 126 else 127)

variable (core : Core)

def becomeIn (environment : List (Raw × Raw)) (shell name p : Raw) (args : List Raw) :
    Eval SysFault := do
  let sh ← get
  changeJob ({ · with environment, saved := [], caught := [] })
  let started ← lift do
    match ← core.start sh.pid p args with
    | .error .execFormat => core.start sh.pid shell (name :: p :: args.drop 1)
    | started => pure started
  match started with
  | .ok fin => throw (.ended fin)
  | .error err => pure err

def become (p : Raw) (args : List Raw) : Eval SysFault := do
  becomeIn core (← get).environment "/bin/sh" "/bin/sh" p args

def execProgram (args : List Raw) : Eval Unit := do
  let name := args.headD []
  match ← findProgram name with
  | .error err => complainStart true name err
  | .ok p => complainStart true name (← become core p args)
  throw (.exit (← get).status)

/-! ## The working directory -/

def plainPath (p : Raw) : Raw :=
  let ns := (p.splitOn '/').foldl (fun ns name =>
    if name.isEmpty || name = ['.'] then ns
    else if name = ['.', '.'] then ns.drop 1
    else name :: ns) ([] : List Raw)
  '/' :: ['/'].intercalate ns.reverse

def enterDirectory (physical : Bool) (t : Raw) : Eval Bool := do
  let sh ← get
  let absolute := if t.head? = some '/' then t
    else sh.directory ++ "/" ++ t
  let path := if physical then t else plainPath absolute
  match (← theMachine).tree.locate .follow (← theJob).cwd ⟨path.toText⟩ with
  | .ok (p, .directory) =>
    changeJob ({ · with cwd := p })
    let directory := if physical then Raw.ofText p.path.text else path
    let publish (name v : Raw) : Eval Unit := do
      assign name v
      modify fun sh => sh.putVariable name (some { (sh.find? name).getD {} with exported := true })
    publish "OLDPWD" sh.directory
    modify ({ · with directory })
    publish "PWD" directory
    pure true
  | _ => pure false

variable (args : List Raw)

def searchedFor (sh : Shell) (t : Raw) : List Raw :=
  let isFixed := t matches '/' :: _ | ['.'] | '.' :: '/' :: _ | ['.', '.'] | '.' :: '.' :: '/' :: _
  let search := (sh.value? "CDPATH").getD []
  if isFixed || search.isEmpty then [] else search.splitOn ':'

def changeDirectory : Eval Unit := do
  let (opts, args) ← optionsOf "LP" [] args
  let physical := (opts.getLast?.map (·.1)) = some 'P'
  let sh ← get
  let v (name : String) : Raw := (sh.value? name.toList).getD []
  let (t, shows) := match args with
    | [] => (v "HOME", false)
    | ['-'] :: _ => (v "OLDPWD", true)
    | t :: _ => (t, false)
  let places := searchedFor sh t
  let t := if t.isEmpty then ['.'] else t
  let job ← theJob
  let tree := (← theMachine).tree
  let candidates := places.filterMap fun p =>
    let path : Raw := if p.isEmpty then t else p ++ "/" ++ t
    if tree.isDirectory job.cwd ⟨path.toText⟩ then some (path, !p.isEmpty) else none
  let (path, shown) := candidates.headD (t, false)
  if ← enterDirectory physical path then
    if shows || shown then output ((← get).directory ++ "\n") else setStatus 0
  else fail 2 ("can't cd to " ++ t)

def showDirectory : Eval Unit := do
  let (opts, _) ← optionsOf "LP" [] args
  if (opts.getLast?.map (·.1)) = some 'P' then
    output (Raw.ofText (← theJob).cwd.path.text ++ "\n")
  else output ((← get).directory ++ "\n")

/-! ## Reading lines -/

def unquoteLine : Raw → List (Char × Bool) × Bool
  | [] => ([], false)
  | ['\\'] => ([], true)
  | '\\' :: c :: xs =>
    let (ms, goesOn) := unquoteLine xs
    ((c, true) :: ms, goesOn)
  | c :: xs =>
    let (ms, goesOn) := unquoteLine xs
    ((c, false) :: ms, goesOn)

def readMarked (raw : Bool) : Nat → Eval (List (Char × Bool) × Bool)
  | 0 => pure ([], false)
  | fuel + 1 => do
    let some i := (← theJob).stream? 0 | pure ([], false)
    match ← lift (Run.readLine i) with
    | .error _ => pure ([], false)
    | .ok bs =>
      let l := (Raw.ofBytes bs).filter (· ≠ '\x00')
      let ended := l.getLast? = some '\n'
      let l := Raw.chomp l
      if raw then pure (l.map fun c => (c, false), ended)
      else
        let (ms, goesOn) := unquoteLine l
        if goesOn && ended then
          let (more, ended) ← readMarked raw fuel
          pure (ms ++ more, ended)
        else pure (ms, ended)

structure Sharing where
  ended : List Raw := []
  current : Raw := []
  left : Nat
  cut : Option Raw := none
  afterBlank : Bool := false

def Sharing.take (separators : Raw) (sharing : Sharing) : Char × Bool → Sharing
  | (c, true) => { sharing with current := c :: sharing.current, afterBlank := false }
  | (c, false) =>
    let separates := separators.contains c
    let isBlank := separates && (c = ' ' || c = '\t' || c = '\n')
    let longer := c :: sharing.current
    if sharing.left = 0 then
      if isBlank then
        { sharing with current := longer, cut := some (sharing.cut.getD sharing.current) }
      else
        let cut := if separates && sharing.afterBlank then sharing.cut else none
        { sharing with current := longer, cut, afterBlank := false }
    else if sharing.afterBlank then
      if isBlank then sharing
      else { sharing with current := if separates then [] else [c], afterBlank := false }
    else if !separates then { sharing with current := longer }
    else if isBlank && sharing.current.isEmpty then sharing
    else if sharing.left = 1 then
      { sharing with
        left := 0, current := longer, cut := some sharing.current, afterBlank := isBlank }
    else
      { sharing with
        ended := sharing.current.reverse :: sharing.ended
        current := []
        left := sharing.left - 1
        afterBlank := isBlank }

def shareOut (separators : Raw) (ns : List Raw) (ms : List (Char × Bool)) :
    List (Raw × Raw) :=
  let sharing := ms.foldl (Sharing.take separators) { left := ns.length }
  let last := (sharing.cut.getD sharing.current).reverse
  let fs := (last :: sharing.ended).reverse
  (List.range ns.length).zip ns |>.map fun (i, name) => (name, fs[i]?.getD [])

def readVariables : Eval Unit := do
  let (opts, ns) ← optionsOf "r" "p" args
  if ns.isEmpty then fail 2 "arg count"
  let (ms, ended) ← readMarked (opts.any (·.1 = 'r')) 100000
  for (name, value) in shareOut (separators (← get)) ns ms do
    needName name
    assign name value
  setStatus (if ended then 0 else 1)

/-! ## Options of scripts -/

def optionKind? (ch : Char) : Raw → Option Bool
  | [] => none
  | x :: xs =>
    if x = ch then some (xs.head? = some ':')
    else optionKind? ch xs

def forgetVariable (name : Raw) : Eval Unit := do
  if ((← get).find? name).any (·.fixed) then fail 2 (name ++ ": is read only")
  modify (·.putVariable name none)

structure OptionWording where
  (unknown missing : Char → Raw)
  forgets : Bool

def readOption (wording : OptionWording) (cs t : Raw) (given : List Raw) : Eval Unit := do
  let sh ← get
  let ws := if given.isEmpty then sh.args else given
  let isBeyond := sh.optionIndex > ws.length + 1
  let i := if isBeyond then 1 else sh.optionIndex
  let cur := if i ≤ 1 then [] else ws[i - 2]?.getD []
  let off := if isBeyond then 0 else sh.optionOffset
  let within := if off = 0 || i ≤ 1 then [] else cur.drop off
  let conclude (i off : Nat) (ch : Char) (code : Nat) : Eval Unit := do
    assign "OPTIND" (Raw.ofNat i)
    assign t [ch]
    modify ({ · with optionIndex := i, optionOffset := off })
    setStatus code
  let start : Option (Raw × Nat) := match within with
    | _ :: _ => some (within, i)
    | [] =>
      match ws[i - 1]? with
      | some ('-' :: x :: xs) => some (x :: xs, i + 1)
      | _ => none
  match start with
  | none => conclude i 0 '?' 1
  | some (['-'], next) => if within.isEmpty then conclude next 0 '?' 1 else pure ()
  | some (ch :: xs, next) =>
    let quiet := cs.head? = some ':'
    let w := ws[next - 2]?.getD []
    let off := if xs.isEmpty then 0 else w.length - xs.length
    let known := if quiet then cs.drop 1 else cs
    match if ch = ':' then none else optionKind? ch known with
    | none =>
      if quiet then assign "OPTARG" [ch]
      else
        let _ ← writeTo 2 (wording.unknown ch)
        forgetVariable "OPTARG"
      conclude next off '?' 0
    | some false =>
      if wording.forgets then forgetVariable "OPTARG" else assign "OPTARG" []
      conclude next off ch 0
    | some true =>
      match xs, ws[next - 1]? with
      | _ :: _, _ =>
        assign "OPTARG" xs
        conclude next 0 ch 0
      | [], some v =>
        assign "OPTARG" v
        conclude (next + 1) 0 ch 0
      | [], none =>
        if quiet then
          assign "OPTARG" [ch]
          conclude next 0 ':' 0
        else
          let _ ← writeTo 2 (wording.missing ch)
          forgetVariable "OPTARG"
          conclude next 0 '?' 0
  | some ([], _) => pure ()

/-! ## Limits -/

def limits : List (Char × String × Nat × Option Nat) :=
  [('t', "time(seconds)", 1, none), ('f', "file(blocks)", 512, none),
    ('d', "data(kbytes)", 1024, none), ('s', "stack(kbytes)", 1024, some 8192),
    ('c', "coredump(blocks)", 512, some 0), ('m', "memory(kbytes)", 1024, none),
    ('l', "locked memory(kbytes)", 1024, some 8192), ('p', "process", 1, none),
    ('n', "nofiles", 1, some 1048576), ('v', "vmemory(kbytes)", 1024, none),
    ('w', "locks", 1, none), ('r', "rtprio", 1, some 0)]

def limitOf (job : Job) (ch : Char) (isHighest : Bool) : Option Nat :=
  match job.limits.lookup (ch, isHighest), limits.lookup ch with
  | some v, _ => v
  | none, some (_, unit, v) =>
    if isHighest && (ch = 's' || ch = 'c') then none else v.map (· * unit)
  | none, none => none

def limitText (unit : Nat) (limit : Option Nat) : Raw :=
  limit.elim "unlimited" fun limit => Raw.ofNat (limit / unit)

def setLimit (ch : Char) (sorts : List Bool) (limit : Option Nat) : Eval (Option SysFault) := do
  let job ← theJob
  let exceeds (high : Option Nat) : Bool := high.any fun high => limit.all (· > high)
  if sorts.contains true && exceeds (limitOf job ch true) then pure (some .notPermitted)
  else if !sorts.contains true && exceeds (limitOf job ch true) then pure (some .invalidArgument)
  else
    changeJob fun job => { job with
      limits := (sorts.map fun sort => ((ch, sort), limit)) ++ job.limits }
    pure none

def showLimit : Eval Unit := do
  let cs := 'H' :: 'S' :: 'a' :: limits.map (·.1)
  let (opts, ops) ← optionsOf cs [] args
  let isGiven (ch : Char) : Bool := opts.any (·.1 = ch)
  let chosen := (opts.reverse.find? fun option => option.1 ≠ 'H' && option.1 ≠ 'S').map (·.1)
  let isHighest := isGiven 'H' && !isGiven 'S'
  let job ← theJob
  let ch := chosen.getD 'f'
  let unit := ((limits.lookup ch).map (·.2.1)).getD 1
  match ops with
  | [] =>
    if ch = 'a' then
      output (limits.flatMap fun (ch, name, unit, _) =>
        name.toList ++ List.replicate (20 - name.length) ' '
          ++ ' ' :: limitText unit (limitOf job ch isHighest) ++ "\n")
    else output (limitText unit (limitOf job ch isHighest) ++ "\n")
  | v :: xs =>
    if ch = 'a' || !xs.isEmpty then fail 2 "too many arguments"
    let limit := v.toNat?.map (· * unit)
    if limit.isNone && v ≠ "unlimited" then fail 2 "bad number"
    let sorts := (if isGiven 'H' || !isGiven 'S' then [true] else [])
      ++ if isGiven 'S' || !isGiven 'H' then [false] else []
    let some err ← setLimit ch sorts limit | setStatus 0
    fail 2 ("error setting limit (" ++ err.description.toList ++ ")")

/-! ## Signals -/

def signalName? (n : Nat) : Option String := (signalNames.find? (·.2 = n)).map (·.1)

def decodeSignal (s : Raw) : Option Nat := signalNumber? s

def listSignals : Eval Unit := do
  match args with
  | [] =>
    let ns := signalNames.map fun (name, n) => if n = 0 then "0" else name
    output (ns.flatMap (·.toList ++ "\n"))
  | arg :: _ =>
    let n ← numberArgument arg
    let sig := if n > 128 then n - 128 else n
    match if sig = 0 then none else signalName? sig with
    | some name => output (name.toList ++ "\n")
    | none => fail 2 ("invalid signal number or exit status: " ++ arg)

def jobNamed (s : Raw) : Eval Child := do
  let kids := (← get).children
  let missing : Eval Child :=
    if s.length ≤ 1 || s = "%%" || s = "%+" then fail 2 "No current job"
    else fail 2 ("No such job: " ++ s)
  match s with
  | ['%'] | ['%', '%'] | ['%', '+'] =>
    match kids.getLast? with
    | some child => pure child
    | none => missing
  | '%' :: xs =>
    match Raw.toNat? xs with
    | some (i + 1) =>
      match kids[i]? with
      | some child => pure child
      | none => missing
    | _ => missing
  | _ => missing

def refuseKill : Eval Unit :=
  fail 2 ("Usage: kill [-s sigspec | -signum | -sigspec] [pid | job]... or\n"
    ++ "kill -l [exitstatus]")

def sendSignals : Eval Unit := do
  let direct := match args with
    | ('-' :: name) :: targets => (decodeSignal name).map fun sig => (sig, targets)
    | _ => none
  let (lists, sig, targets) ← match direct with
    | some (sig, targets) => pure (false, sig, targets)
    | none =>
      let (opts, targets) ← optionsOf "l" "s" args
      let sig ← match opts.find? (·.1 = 's') with
        | none => pure 15
        | some (_, name) =>
          match decodeSignal name with
          | some sig => pure sig
          | none => fail 2 ("invalid signal number or name: " ++ name)
      pure (opts.any (·.1 = 'l'), sig, targets)
  if lists then listSignals targets
  else if targets.isEmpty then refuseKill
  else
    setStatus 0
    for t in targets do
      let pids ← match t with
        | '%' :: _ =>
          let job ← jobNamed t
          pure (if (← get).switches.contains 'm' then job.pids.take 1 else [])
        | '-' :: ds =>
          let _ ← numberArgument ds
          pure []
        | _ => pure [← numberArgument t]
      let sent ← pids.mapM fun pid => onMachine (·.signal pid sig)
      if sent.isEmpty || sent.contains false then
        complain "No such process\n"
        setStatus 1
    lift Run.rest

def setTrap (sig : Nat) (action : Option Raw) : Eval Unit := do
  modify fun sh =>
    let others := sh.traps.filter (·.1 ≠ sig)
    { sh with traps := match action with
        | some action => others ++ [(sig, action)]
        | none => others }
  changeJob fun job =>
    let ignored := job.ignored.filter (· ≠ sig)
    let caught := job.caught.filter (· ≠ sig)
    match action with
    | some [] => { job with ignored := sig :: ignored, caught }
    | some _ => { job with ignored, caught := sig :: caught }
    | none => { job with ignored, caught }

def setTraps : Eval Unit := do
  let (_, args) ← match args with
    | ['-'] :: _ => pure ([], args)
    | _ => optionsOf [] [] args
  match args with
  | [] =>
    output (((← get).traps.mergeSort fun l r => l.1 ≤ r.1).flatMap fun (sig, action) =>
      "trap -- " ++ singleQuote action ++ ' ' :: ((signalName? sig).getD "").toList
        ++ "\n")
  | x :: ns =>
    let (action, signals) :=
      if ns.isEmpty then (none, args)
      else if x.toNat?.isSome then (none, args)
      else (some x, ns)
    let action := if action = some "-" then none else action
    setStatus 0
    for name in signals do
      match signalNumber? name with
      | some sig => setTrap sig action
      | none =>
        let _ ← writeTo 2 ("trap: " ++ name ++ ": bad trap\n")
        setStatus 1
        return

/-! ## Settings and variables -/

def switchNames : List (String × Option Char) :=
  [("errexit", some 'e'), ("noglob", some 'f'), ("ignoreeof", some 'I'), ("interactive", some 'i'),
    ("monitor", some 'm'), ("noexec", some 'n'), ("stdin", some 's'), ("xtrace", some 'x'),
    ("verbose", some 'v'), ("vi", some 'V'), ("emacs", some 'E'), ("noclobber", some 'C'),
    ("allexport", some 'a'), ("notify", some 'b'), ("nounset", some 'u'), ("nolog", none),
    ("debug", none)]

def setSwitch (on : Bool) (switch : Char) : Eval Unit :=
  modify fun sh =>
    let others := sh.switches.filter (· ≠ switch)
    { sh with switches := if on then others ++ [switch] else others }

def setNamed (on : Bool) (name : Raw) : Eval Unit := do
  match switchNames.lookup (String.ofList name) with
  | some (some switch) => setSwitch on switch
  | some none => pure ()
  | none => fail 2 ("Illegal option " ++ (if on then '-' else '+') :: "o " ++ name)

def showSwitches (asCommands : Bool) : Eval Unit := do
  let switches := (← get).switches
  let isOn (switch : Option Char) : Bool := switch.any switches.contains
  if asCommands then
    output (switchNames.flatMap fun (name, switch) =>
      "set " ++ (if isOn switch then '-' else '+') :: "o " ++ name.toList ++ "\n")
  else
    output ("Current option settings\n" ++ switchNames.flatMap fun (name, switch) =>
      name.toList ++ List.replicate (16 - name.length) ' '
        ++ (if isOn switch then "on\n" else "off\n").toList)

def switchLetters : List Char := switchNames.filterMap (·.2)

def showVariables (lead : Raw) (shown : Variable → Bool) : Eval Unit := do
  let sh ← get
  let hit := sh.bindings.filter fun (_, hit) => shown hit
  output ((hit.mergeSort fun l r => !(r.1 < l.1 : Bool)).flatMap fun (name, hit) =>
    match hit.value with
    | some v => lead ++ name ++ '=' :: singleQuote v ++ "\n"
    | none => if lead.isEmpty then [] else lead ++ name ++ "\n")

def changeSettings : List Raw → Eval Unit
  | [] => setStatus 0
  | ['-', '-'] :: args => do
    modify (·.withArgs args)
    setStatus 0
  | ['-'] :: args => do
    setSwitch false 'x'
    setSwitch false 'v'
    if !args.isEmpty then modify (·.withArgs args)
    setStatus 0
  | [['-', 'o']] => showSwitches false
  | [['+', 'o']] => showSwitches true
  | ['-', 'o'] :: name :: args => do
    setNamed true name
    changeSettings args
  | ['+', 'o'] :: name :: args => do
    setNamed false name
    changeSettings args
  | (sgn :: x :: cs) :: args => do
    if sgn = '-' || sgn = '+' then
      for switch in x :: cs do
        if switchLetters.contains switch then setSwitch (sgn = '-') switch
        else fail 2 ("Illegal option " ++ [sgn, switch])
      changeSettings args
    else
      modify (·.withArgs ((sgn :: x :: cs) :: args))
      setStatus 0
  | args => do
    modify (·.withArgs args)
    setStatus 0

def runSet : Eval Unit :=
  if args.isEmpty then showVariables [] fun _ => true else changeSettings args

def splitAssignment (arg : Raw) : Raw × Option Raw :=
  let name := arg.takeWhile (· ≠ '=')
  (name, if name.length < arg.length then some (arg.drop (name.length + 1)) else none)

def declareAll (cmd : String) (args : List Raw) (shown : Variable → Bool)
    (change : Variable → Variable) : Eval Unit := do
  let (opts, args) ← optionsOf "p" [] args
  if args.isEmpty || !opts.isEmpty then showVariables (cmd.toList ++ " ") shown
  else
    setStatus 0
    for arg in args do
      let (name, value) := splitAssignment arg
      needName name
      if let some value := value then assign name value
      modify fun sh => sh.putVariable name (some (change ((sh.find? name).getD {})))

def makeLocal : Eval Unit := do
  if (← get).depth = 0 then fail 2 "not in a function"
  setStatus 0
  for arg in args do
    let (name, value) := splitAssignment arg
    if name = "-" then
      modify fun sh =>
        { sh with locals := ("-", some { value := some sh.switches }) :: sh.locals }
    else
      needName name
      modify fun sh => { sh with locals := (name, sh.find? name) :: sh.locals }
      if let some value := value then assign name value

def forget : Eval Unit := do
  let (opts, ns) ← optionsOf "fv" [] args
  setStatus 0
  for name in ns do
    if (opts.getLast?.map (·.1)) = some 'f' then
      modify fun sh => { sh with functions := sh.functions.filter fun q => q.1 ≠ name }
    else
      needName name
      forgetVariable name

def maskText (mask : Nat) : Raw :=
  let granted := 0o777 ^^^ (mask &&& 0o777)
  "u=" ++ Mode.letters (granted / 64) ++ ",g=" ++ Mode.letters (granted / 8)
    ++ ",o=" ++ Mode.letters granted

def changeMask : Eval Unit := do
  let (opts, args) ← optionsOf "S" [] args
  let umask := (← theJob).umask
  match args with
  | [] => output ((if opts.isEmpty then Mode.octalText 4 umask else maskText umask) ++ "\n")
  | s :: _ =>
    if s.head?.any Char.isDigit then
      match Mode.octal? s with
      | some mask => changeJob ({ · with umask := mask &&& 0o777 })
      | none => fail 2 ("Illegal number: " ++ s)
    else
      match Mode.change? true 0 s (0o777 ^^^ umask) with
      | some granted => changeJob ({ · with umask := 0o777 ^^^ (granted &&& 0o777) })
      | none => fail 2 ("Illegal mode: " ++ s)
    setStatus 0

def setAliases : Eval Unit := do
  let ln (name s : Raw) : Raw := name ++ '=' :: singleQuote s ++ "\n"
  match args with
  | [] =>
    let sorted := (← get).aliases.mergeSort fun l r => bucket l.1 ≤ bucket r.1
    output (sorted.flatMap fun (name, s) => ln name s)
  | args =>
    setStatus 0
    for arg in args do
      let (name, s) := match arg with
        | x :: xs =>
          let (name, s) := splitAssignment xs
          (x :: name, s)
        | [] => ([], none)
      match s with
      | some s =>
        modify fun sh =>
          if (sh.aliases.lookup name).isSome then
            { sh with aliases := sh.aliases.map fun q => if q.1 = name then (name, s) else q }
          else { sh with aliases := sh.aliases ++ [(name, s)] }
      | none =>
        match (← get).aliases.lookup name with
        | some s =>
          let status := (← get).status
          output (ln name s)
          setStatus status
        | none =>
          let _ ← writeTo 2 ("alias: " ++ name ++ " not found\n")
          setStatus 1

def forgetAliases : Eval Unit := do
  let (opts, ns) ← optionsOf "a" [] args
  setStatus 0
  if !opts.isEmpty then modify ({ · with aliases := [] })
  else
    for name in ns do
      if ((← get).aliases.lookup name).isNone then
        let _ ← writeTo 2 ("unalias: " ++ name ++ " not found\n")
        setStatus 1
      modify fun sh => { sh with aliases := sh.aliases.filter fun q => q.1 ≠ name }

/-! ## Jobs -/

def noteEnded (ended : Ended) : Eval Unit :=
  modify fun sh =>
    { sh with children := sh.children.map fun child =>
        if child.pids.contains ended.pid then
          { child with endings := (ended.pid, ended.ending) :: child.endings }
        else child }

def awaitChange : Eval (Option Ended) := do
  let pid := (← get).pid
  lift (Run.await fun m =>
    match m.takeChild? pid with
    | some (ended, m) => some (some ended, m)
    | none =>
      let caught := ((m.job? pid).map (·.caught)).getD []
      if m.signals.any fun (t, sig) => t = pid && caught.contains sig then some (none, m)
      else none)

def waitUntil (holds : Shell → Bool) : Eval (Option Nat) := do
  repeatFrom () fun _ => do
    if holds (← get) then pure none
    else
      let some ended ← awaitChange | pure none
      noteEnded ended; pure (some ())
  if holds (← get) then pure none
  else
    let pid := (← get).pid
    let caught := (← theJob).caught
    pure (((← theMachine).signals.find? fun (t, sig) => t = pid && caught.contains sig).map (·.2))

def reportSignal (fin : Ending) : Eval Unit := do
  match fin with
  | .killed sig =>
    if sig ≠ 2 && sig ≠ 13 then let _ ← writeTo 2 ((signalDescription sig).toList ++ "\n")
  | .exited _ => pure ()

def waitFor : Eval Unit := do
  let (_, args) ← optionsOf [] [] args
  if args.isEmpty then
    let some sig ← waitUntil (·.children.all Child.isDone) | setStatus 0
    setStatus (128 + sig)
  else
    for arg in args do
      let child ← match arg with
        | '%' :: _ => pure (some (← jobNamed arg))
        | _ =>
          let pid ← numberArgument arg
          pure ((← get).children.find? (·.pids.contains pid))
      let some child := child | setStatus 127
      let cur (sh : Shell) : Child := (sh.children.find? (·.pids = child.pids)).getD child
      let wasDone := child.isDone
      match ← waitUntil fun sh => (cur sh).isDone with
      | some sig =>
        setStatus (128 + sig)
        return
      | none =>
        match (cur (← get)).ending? with
        | some fin =>
          if !wasDone then reportSignal fin
          setStatus (codeOf fin)
        | none => setStatus 127

def noteAllEnded : Eval Unit := do
  let pid := (← get).pid
  repeatFrom () fun _ => do
    match ← onMachine fun m =>
        match m.takeChild? pid with
        | some (ended, m) => (some ended, m)
        | none => (none, m) with
    | some ended => noteEnded ended; pure (some ())
    | none => pure none

def showJobs : Eval Unit := do
  let (opts, _) ← optionsOf "lp" [] args
  noteAllEnded
  let kids := (← get).children
  let ls := kids.zipIdx.map fun (child, i) =>
    if opts.any (·.1 = 'p') then Raw.ofNat (child.pids.headD 0) ++ "\n"
    else
      let mark := if i + 1 = kids.length then '+'
        else if i + 2 = kids.length then '-' else ' '
      let lead := '[' :: Raw.ofNat (i + 1) ++ [']', ' ', mark, ' ']
      let lead := if opts.any (·.1 = 'l') then lead ++ Raw.ofNat (child.pids.headD 0) ++ " "
        else lead
      let st := match child.isDone, child.ending? with
        | true, some (.exited 0) => "Done"
        | true, some (.exited code) => "Done(" ++ Raw.ofNat code ++ ")"
        | true, some (.killed sig) => (signalDescription sig).toList
        | _, _ => "Running"
      let l := lead ++ st
      l ++ List.replicate (33 - l.length) ' ' ++ "\n"
  modify fun sh => { sh with children := sh.children.filter fun child => !child.isDone }
  output ls.flatten

def refuseJob : Eval Unit := do
  let child ← jobNamed (args.headD "%")
  let _ := child
  fail 2 "job not created under job control"

/-! ## What names stand for -/

def describe (verbose : Bool) (name : Raw) : Eval Bool := do
  let sh ← get
  let s := String.ofList name
  let tell (short long : Raw) : Eval Bool := do
    output ((if verbose then name ++ long else short) ++ "\n")
    pure ((← get).status = 0)
  if Script.reservedWords.contains s then tell name " is a shell keyword"
  else
    match sh.aliases.lookup name with
    | some s => tell ("alias " ++ name ++ '=' :: singleQuote s) (" is an alias for " ++ s)
    | none =>
      if (sh.functions.lookup name).isSome then tell name " is a shell function"
      else if specialNames.contains s then tell name " is a special shell builtin"
      else if plainNames.contains s then tell name " is a shell builtin"
      else
        let known := (sh.found.lookup name).isSome
        let missing : Eval Bool := do
          if verbose then output (name ++ ": not found\n")
          pure false
        match ← findProgram name with
        | .ok p =>
          let e := (← theMachine).tree.entryAt? (← theJob).cwd p
          if e.any Entry.isExecutable || (name.contains '/' && e.isSome) then
            tell p ((if known then " is a tracked alias for " else " is ").toList ++ p)
          else missing
        | .error _ => missing

def describeAll (ns : List Raw) : Eval Unit := do
  let mut code := 0
  for name in ns do
    if !(← describe true name) then code := if (← get).status = 1 then 1 else 127
  setStatus code

def describeCommand : Eval Unit := do
  let (opts, ns) ← optionsOf "pvV" [] args
  match ns, opts.reverse.find? (·.1 ≠ 'p') with
  | name :: _, some (ch, _) => setStatus (if ← describe (ch = 'V') name then 0 else 127)
  | _, _ => setStatus 0

def rememberPrograms : Eval Unit := do
  let (opts, ns) ← optionsOf "rv" [] args
  if opts.any (·.1 = 'r') then
    modify ({ · with found := [] })
    setStatus 0
  else if ns.isEmpty then output ((← get).found.flatMap fun (_, p) => p ++ "\n")
  else
    setStatus 0
    for name in ns do
      let sh ← get
      let s := String.ofList name
      let isOwn := specialNames.contains s || plainNames.contains s
        || (sh.functions.lookup name).isSome
      if !isOwn then
        match ← findProgram name with
        | .ok _ => pure ()
        | .error _ =>
          complain (name ++ ": not found")
          setStatus 1

/-! ## The table -/

def testCondition : Eval Unit := do
  let m ← theMachine
  let view := Tool.Condition.View.ofJob m (← theJob) false
  match view.evaluate args with
  | .ok holds => setStatus (if holds then 0 else 1)
  | .error msg => fail 2 msg

def runPrintf : Eval Unit := do
  let (_, args) ← optionsOf [] [] args
  match args with
  | [] => fail 2 "usage: printf format [arg ...]"
  | format :: args =>
    let work := Tool.Format.render Tool.Format.shellDialect format args
    for complaint in Tool.Format.complaints work.events do
      complain complaint
    output (Tool.Format.texts work.events)
    if work.flawed then setStatus 2
    else if work.doubtful && (← get).status = 0 then setStatus 1

def runFile (args : List Raw) : Eval Unit := do
  let (_, args) ← optionsOf [] [] args
  match args with
  | [] => setStatus 0
  | name :: _ =>
    let t := (← theMachine).tree
    let cwd := (← theJob).cwd
    let candidates := (((← get).value? "PATH").getD []).splitOn ':' |>.map fun dir =>
      if dir.isEmpty then name else dir ++ "/" ++ name
    let p ←
      if name.contains '/' then pure name
      else
        match candidates.find? fun p => t.isFile cwd ⟨p.toText⟩ with
        | some p => pure p
        | none => fail 2 (name ++ ": not found")
    match ← lift (Run.openFile (← get).pid .toRead ⟨p.toText⟩) with
    | .error _ => fail 2 ("cannot open " ++ p ++ ": No such file")
    | .ok i =>
      let h ← get
      set { h with
        within := some p, line := 1, sourced := h.sourced + 1
        reached := 1 :: h.reached }
      let restore : Eval Unit := do
        lift (Run.release (← get).pid i)
        modify ({ · with sourced := h.sourced, line := h.line, reached := h.reached })
      try core.stream {} i
      catch stop =>
        restore
        match stop with
        | .result code => setStatus code
        | stop => throw stop
      restore

def levelsOf : Eval Nat := do
  match args with
  | [] => pure 1
  | levels :: _ =>
    match ← numberArgument levels with
    | 0 => fail 2 ("Illegal number: " ++ levels)
    | levels => pure levels

def builtin? (name : String) (args : List Raw) : Option (Eval Unit) :=
  match name with
  | ":" | "true" => some (setStatus 0)
  | "false" => some (setStatus 1)
  | "times" => some (output "0m0.000000s 0m0.000000s\n0m0.000000s 0m0.000000s\n")
  | "ulimit" => some (showLimit args)
  | "echo" => some (output (Tool.echoEscaped args))
  | "printf" => some (runPrintf args)
  | "test" => some (testCondition args)
  | "[" => some do
    if args.getLast? = some "]" then testCondition args.dropLast else fail 2 "missing ]"
  | "cd" | "chdir" => some (changeDirectory args)
  | "pwd" => some (showDirectory args)
  | "umask" => some (changeMask args)
  | "read" => some (readVariables args)
  | "getopts" => some do
    match args with
    | cs :: t :: given =>
      readOption
        { unknown := fun ch => "Illegal option -" ++ [ch, '\n']
          missing := fun ch => "No arg for -" ++ ch :: " option\n"
          forgets := false } cs t given
    | _ => fail 2 "Usage: getopts optstring var [arg...]"
  | "kill" => some (sendSignals args)
  | "wait" => some (waitFor args)
  | "jobs" => some (showJobs args)
  | "fg" | "bg" => some (refuseJob args)
  | "trap" => some (setTraps args)
  | "set" => some (runSet args)
  | "export" => some
    (declareAll "export" args (·.exported) ({ · with exported := true }))
  | "readonly" => some (declareAll "readonly" args (·.fixed) ({ · with fixed := true }))
  | "local" => some (makeLocal args)
  | "unset" => some (forget args)
  | "alias" => some (setAliases args)
  | "unalias" => some (forgetAliases args)
  | "hash" => some (rememberPrograms args)
  | "type" => some (describeAll args)
  | "command" => some (describeCommand args)
  | "eval" => some do
    let line := (← get).line
    core.script {} ([' '].intercalate args)
    modify ({ · with line })
  | "." => some (runFile core args)
  | "exec" => some do if args.isEmpty then setStatus 0 else execProgram core args
  | "exit" => some do
    match args with
    | [] => throw (.exit (← get).status)
    | code :: _ => throw (.exit (← numberArgument code))
  | "return" => some do
    match args with
    | [] => throw (.result (← get).status)
    | code :: _ => throw (.result (← numberArgument code))
  | "break" => some do
    let levels ← levelsOf args
    setStatus 0
    if (← get).loops > 0 then throw (.leave (min levels (← get).loops))
  | "continue" => some do
    let levels ← levelsOf args
    setStatus 0
    if (← get).loops > 0 then throw (.again (min levels (← get).loops))
  | "shift" => some do
    let k ← match args with
      | [] => pure 1
      | k :: _ => numberArgument k
    let sh ← get
    if k > sh.args.length then fail 2 "can't shift that many"
    set { sh.withArgs (sh.args.drop k) with status := 0 }
  | _ => none

end Assay.Shell
