import Assay.Shell.Extended.Input

/-! # Signals and commands in the background -/

namespace Assay.Shell.Extended

/-! ## Signals and events -/

def eventNames : List (String × Nat) := [("DEBUG", 65), ("ERR", 66), ("RETURN", 67)]

variable (text : Raw)

def eventNumber? : Option Nat :=
  let hi := text.map Char.toUpper
  let bare := if "SIG".toList.isPrefixOf hi then hi.drop 3 else hi
  match eventNames.lookup (String.ofList hi) with
  | some n => some n
  | none => if bare.isEmpty then none else signalNumber? bare

def eventName (n : Nat) : Raw :=
  match eventNames.find? fun q => q.2 = n with
  | some (name, _) => name.toList
  | none =>
    match signalName? n with
    | some "EXIT" => "EXIT"
    | some name => "SIG" ++ name.toList
    | none => Raw.ofNat n

variable (args : List Raw)

def setTraps : Eval Unit := do
  let (opts, args) ← match args with
    | ['-'] :: _ => pure ([], args)
    | _ => optionsOf "lp" [] args
  let list (chosen : Nat → Bool) : Eval Unit := do
    let traps := (← get).traps.mergeSort fun l r => l.1 ≤ r.1
    output ((traps.filter fun q => chosen q.1).flatMap fun (sig, action) =>
      "trap -- " ++ singleQuoted action ++ ' ' :: eventName sig ++ "\n")
  if args.isEmpty then list fun _ => true
  else if isGiven opts 'p' then list (args.filterMap eventNumber?).contains
  else
    let x := args.headD []
    let isReset := args.length = 1 || x = "-" || x.toNat?.isSome
    let (action, signals) :=
      if x = "-" then (none, args.drop 1)
      else if isReset then (none, args)
      else (some x, args.drop 1)
    if args.length = 1 && (eventNumber? x).isNone && x ≠ "-" then refuseUse
    let mut code := 0
    for name in signals do
      match eventNumber? name with
      | some sig => setTrap sig action
      | none =>
        complain (name ++ ": invalid signal specification")
        code := 1
    setStatus code

def listSignals : Eval Unit := do
  let mut code := 0
  for arg in args do
    match arg.toNat?, eventNumber? arg with
    | some n, _ =>
      match signalName? (if n > 128 then n - 128 else n) with
      | some name => output (name.toList ++ "\n")
      | none =>
        complain (arg ++ ": invalid signal specification")
        code := 1
    | none, some n => output (Raw.ofNat n ++ "\n")
    | none, none =>
      complain (arg ++ ": invalid signal specification")
      code := 1
  setStatus code

/-! ## Commands in the background -/

def liveChildren (sh : Shell) : List Child := sh.children.filter fun child => !child.isKnown

def noteKnown (chosen : Child → Bool) : Eval Unit := modify fun sh =>
  { sh with children := sh.children.map fun child =>
      if chosen child then { child with isKnown := true } else child }

def noteStarted : Eval Unit := modify fun sh =>
  match sh.children.reverse with
  | [] => sh
  | last :: others =>
    let ns := (others.filter fun child => !child.isKnown).map (·.number)
    { sh with
      children := others.reverse ++ [{ last with text, number := ns.foldl max 0 + 1 }] }

def hasPart (part : Raw) : Raw → Bool
  | [] => part.isEmpty
  | c :: xs => part.isPrefixOf (c :: xs) || hasPart part xs

inductive Named where
  | found (child : Child)
  | nothing | unclear

def childNamed : Eval Named := do
  let kids := liveChildren (← get)
  let only (test : Child → Bool) : Named := match kids.filter test with
    | [] => .nothing
    | [child] => .found child
    | _ => .unclear
  let atEnd (i : Nat) : Named := match kids.reverse[i]? with
    | some child => .found child
    | none => .nothing
  match text with
  | ['%'] | ['%', '%'] | ['%', '+'] => pure (atEnd 0)
  | ['%', '-'] => pure (atEnd (if kids.length > 1 then 1 else 0))
  | '%' :: '?' :: part => pure (only fun child => hasPart part child.text)
  | '%' :: xs =>
    match Raw.toNat? xs with
    | some n => pure (only (·.number = n))
    | none => pure (only fun child => xs.isPrefixOf child.text)
  | _ => pure .nothing

def background? : Eval (Option Child) := do
  match ← childNamed text with
  | .found child => pure (some child)
  | .nothing =>
    complain (text ++ ": no such job")
    pure none
  | .unclear =>
    complain (text.drop 1 ++ ": ambiguous job spec")
    complain (text ++ ": no such job")
    pure none

def sendSignals : Eval Unit := do
  let chosen (name : Raw) : Eval Nat := do
    let some sig := eventNumber? name | failWith 1 (name ++ ": invalid signal specification")
    pure sig
  match args with
  | ['-', 'l'] :: xs | ['-', 'L'] :: xs => listSignals xs
  | _ =>
    let (sig, targets) ← match args with
      | ['-', 's'] :: name :: xs | ['-', 'n'] :: name :: xs => pure (← chosen name, xs)
      | ['-', '-'] :: xs => pure (15, xs)
      | ('-' :: name) :: xs => pure (← chosen name, xs)
      | xs => pure (15, xs)
    if targets.isEmpty then refuseUse
    let mut code := 0
    for t in targets do
      match t, integer? t with
      | '%' :: _, _ =>
        let some child ← background? t | code := 1
        child.pids.forM fun pid => do
          let _ ← onMachine (·.signal pid sig)
      | _, some n =>
        let sent ← if n ≤ 0 then pure true
          else onMachine (·.signal n.toNat sig)
        if !sent then
          complain ('(' :: Raw.ofInt n ++ ") - No such process")
          code := 1
      | _, none =>
        complain (t ++ ": arguments must be process or job IDs")
        code := 1
    setStatus code
    lift Run.rest

def jobLine (last : List Nat) (child : Child) : Raw :=
  let mark := if last[0]? = some child.number then '+'
    else if last[1]? = some child.number then '-' else ' '
  let st : Raw := match child.isDone, child.ending? with
    | true, some (.exited 0) => "Done"
    | true, some (.exited code) => "Exit " ++ Raw.ofNat code
    | true, some (.killed sig) => (signalDescription sig).toList
    | _, _ => "Running"
  '[' :: Raw.ofNat child.number ++ [']', mark, ' ', ' '] ++ st
    ++ List.replicate (24 - st.length) ' ' ++ child.text
    ++ (if child.isDone then [] else " &") ++ ['\n']

def listJobs : Eval Unit := do
  let (opts, ns) ← optionsOf "p" [] args
  noteAllEnded
  noteKnown Child.isDone
  let kids := liveChildren (← get)
  let chosen ← if ns.isEmpty then pure kids else ns.filterMapM background?
  output (chosen.flatMap fun child =>
    if isGiven opts 'p' then Raw.ofNat (child.pids.headD 0) ++ ['\n']
    else jobLine (kids.reverse.map (·.number)) child)
  if chosen.length < ns.length then setStatus 1

def disown : Eval Unit := do
  let (_, ns) ← optionsOf [] [] args
  noteAllEnded
  noteKnown Child.isDone
  let chosen ← if ns.isEmpty then
      match (liveChildren (← get)).getLast? with
      | some child => pure [child]
      | none => failWith 1 "current: no such job"
    else ns.filterMapM background?
  noteKnown fun child => chosen.any (·.pids = child.pids)
  setStatus (if chosen.length < ns.length then 1 else 0)

def waitForChild (child : Child) : Eval Bool := do
  let cur (sh : Shell) : Child := (sh.children.find? (·.pids = child.pids)).getD child
  match ← waitUntil fun sh => (cur sh).isDone with
  | some sig =>
    setStatus (128 + sig)
    pure false
  | none =>
    noteKnown (·.pids = child.pids)
    match (cur (← get)).ending? with
    | some fin => setStatus (codeOf fin)
    | none => setStatus 127
    pure true

def waitFor : Eval Unit := do
  let (opts, args) ← optionsOf "fn" [] args
  if isGiven opts 'n' then
    let wanted := args.filterMap Raw.toNat?
    let isWanted (child : Child) : Bool :=
      !child.isForeign && !child.isKnown && (wanted.isEmpty || child.pids.any wanted.contains)
    let named ← (args.filter (·.head? = some '%')).filterMapM background?
    let chosen (child : Child) : Bool :=
      if args.isEmpty then isWanted child
      else (!wanted.isEmpty && isWanted child) || named.any (·.pids = child.pids)
    if !(← get).children.any chosen then setStatus 127
    else
      let isFirst (child : Child) : Bool := chosen child && child.isDone
      let _ ← waitUntil (·.children.any isFirst)
      let some child := (← get).children.find? isFirst | setStatus 127
      noteKnown (·.pids = child.pids)
      setStatus ((child.ending?.map codeOf).getD 127)
  else if args.isEmpty then
    match ← waitUntil fun sh =>
        sh.children.all fun child => child.isForeign || child.isDone with
    | some sig => setStatus (128 + sig)
    | none =>
      noteKnown Child.isDone
      setStatus 0
  else
    for arg in args do
      match arg, arg.toNat? with
      | '%' :: _, _ =>
        let some child ← background? arg | setStatus 127
        if !(← waitForChild child) then return
      | _, some pid =>
        match (← get).children.find? fun child => child.pids.contains pid && !child.isForeign with
        | some child =>
          if !(← waitForChild child) then return
        | none =>
          complain ("pid " ++ arg ++ " is not a child of this shell")
          setStatus 127
      | _, none =>
        complain ('`' :: arg ++ "': not a pid or valid job spec")
        setStatus 1

end Assay.Shell.Extended
