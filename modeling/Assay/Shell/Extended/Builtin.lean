import Assay.Calendar.Layout
import Assay.Shell.Extended.Completion

/-! # Commands of the extended language -/

namespace Assay.Shell.Extended

/-! ## Texts -/

def escapesOnto (loc : Text.Locale) (fuel : Nat) (read : Raw) (cs : Raw) : Raw × Bool :=
  match fuel, cs with
  | 0, _ => (read.reverse, false)
  | _, [] => (read.reverse, false)
  | _ + 1, '\\' :: 'c' :: _ => (read.reverse, true)
  | fuel + 1, '\\' :: '0' :: xs =>
    let (code, xs) := Raw.takeOctal 3 0 xs
    escapesOnto loc fuel (Char.ofNat (code % 256) :: read) xs
  | fuel + 1, '\\' :: c :: xs =>
    if "abeEfnrtv\\xuU".contains c then
      let (s, xs) := Script.takeEscape loc (c :: xs)
      escapesOnto loc fuel (s.reverse ++ read) xs
    else escapesOnto loc fuel (c :: '\\' :: read) xs
  | fuel + 1, c :: xs => escapesOnto loc fuel (c :: read) xs

def echoText (loc : Text.Locale) (newline escapes : Bool) : List Raw → Raw
  | ('-' :: x :: xs) :: args =>
    let cs := x :: xs
    if cs.all fun c => c = 'n' || c = 'e' || c = 'E' then
      let escapes := cs.foldl (fun escapes c =>
        if c = 'e' then true else if c = 'E' then false else escapes) escapes
      echoText loc (newline && !cs.contains 'n') escapes args
    else finish (('-' :: cs) :: args)
  | args => finish args
where
  finish (args : List Raw) : Raw :=
    let s := [' '].intercalate args
    let (s, stops) := if escapes then escapesOnto loc (s.length + 1) [] s
      else (s, false)
    if stops || !newline then s else s ++ "\n"

def formatEscape (loc : Text.Locale) (inArgument : Bool) (cs : Raw) : Tool.Escape :=
  let coded (what : String) : Tool.Escape :=
    match Script.takeEscape loc cs with
    | (s, xs) =>
      if xs.length + 1 < cs.length then .text s xs
      else
        let lead := cs.take 1
        .doubtful (("missing " ++ what ++ " digit for \\").toList ++ lead) s xs
  match cs with
  | 'x' :: _ => coded "hex"
  | 'u' :: _ | 'U' :: _ => coded "unicode"
  | 'E' :: xs => .text "\x1b" xs
  | 'c' :: xs => if inArgument then .stop else .text "\\c" xs
  | c :: xs =>
    if !inArgument && "\"'?".contains c then .text [c] xs
    else Tool.Escape.orElse inArgument Tool.Escape.literal cs
  | [] => Tool.Escape.literal []

def formatDialect (loc : Text.Locale) (zone : Calendar.Zone) (now : Int) : Tool.Format.Dialect :=
  let about (s : Raw) (xs : String) : Raw := s ++ xs.toList
  { partly := fun arg => about (numberFlaw arg) ""
    noNumber := fun arg => about (numberFlaw arg) ""
    tooLarge := fun arg => "warning: " ++ about arg ": Numerical result out of range"
    noDirective := fun directive =>
      '`' :: (directive.getLast?.toList ++ "': invalid format character")
    noLetter := fun directive => '`' :: about directive "': missing format character"
    flags := "#'-+ 0"
    quoted := fun arg => (Tool.Format.afterQuote? arg).map fun xs =>
      let x := xs.headD '\x00'
      let c := ((loc.chars xs).head?.filter (!Raw.isStray ·)).getD x
      (c.toNat, none)
    sizeGiven := fun _ _ k => .ok k
    noSize := []
    bearsLarge := true
    formatEscape := formatEscape loc false
    argumentEscape := formatEscape loc true
    more := fun ch =>
      if ch = 'q' then some fun conversion arg =>
        Tool.Format.text conversion (backslashed (arg.getD []))
      else if ch = 'Q' then some fun conversion arg =>
        let arg := arg.getD []
        let cut := match conversion.places? with
          | some places => arg.take places
          | none => arg
        Tool.Format.text { conversion with precision := none } (backslashed cut)
      else none
    timed := some fun format secs =>
      let format := if format.isEmpty then "%X".toList else format
      Calendar.layout zone { seconds := secs.getD now } format false }

def writeEvents : Raw → List Tool.Format.Event → Eval Unit
  | pending, [] => output pending
  | pending, .text s :: xs => writeEvents (pending ++ s) xs
  | pending, .complaint s :: xs => do
    let last := (pending.reverse.takeWhile (· ≠ '\n')).reverse
    output (pending.take (pending.length - last.length))
    complain s
    writeEvents last xs

variable (args : List Raw)

def runPrintf : Eval Unit := do
  let (opts, args) ← optionsOf [] "v" args
  match args with
  | [] => refuseUse
  | format :: args =>
    let now := (Calendar.ofClock (← theMachine).clock).seconds
    let zone := ((← get).value? "TZ").elim {} Calendar.Zone.ofText
    let work := Tool.Format.render (formatDialect (localeOf (← get)) zone now) format args
    match lastGiven? opts 'v' with
    | some name =>
      for complaint in Tool.Format.complaints work.events do
        complain complaint
      checkName name
      storeNamed name (Tool.Format.texts work.events)
      setStatus 0
    | none => writeEvents [] work.events
    if (work.flawed || work.doubtful) && (← get).status = 0 then setStatus 1

/-! ## Directories -/

def goTo (physical : Bool) (t : Raw) (shown : Raw) : Eval Unit := do
  if !(← enterDirectory physical t) then
    let sh ← get
    let p := if t.head? = some '/' then t
      else sh.directory ++ "/" ++ t
    match (← theMachine).tree.locate .follow (← theJob).cwd
        ⟨Raw.toText (if physical then t else plainPath p)⟩ with
    | .error e => failWith 1 (printable shown ++ ": " ++ Raw.ofText e.description)
    | .ok _ => failWith 1 (printable shown ++ ": Not a directory")

def changeDirectory : Eval Unit := do
  let (opts, args) ← optionsOf "LPe@" [] args
  let modes := opts.filter fun option => option.1 = 'L' || option.1 = 'P'
  let physical := (modes.getLast?.map (·.1)) = some 'P' || (modes.isEmpty && (← isOn 'P'))
  let sh ← get
  let v (name : String) : Option Raw := sh.value? name.toList
  if args.length > 1 then failWith 1 "too many arguments"
  match args with
  | [] =>
    match v "HOME" with
    | none => failWith 1 "HOME not set"
    | some home =>
      goTo physical home home
      setStatus 0
  | ['-'] :: _ =>
    match v "OLDPWD" with
    | none => failWith 1 "OLDPWD not set"
    | some path =>
      goTo physical path path
      output ((← get).directory ++ "\n")
  | t :: _ =>
    let job ← theJob
    let tree := (← theMachine).tree
    let isThere (p : Raw) : Bool := tree.isDirectory job.cwd ⟨Raw.toText (p ++ '/' :: t)⟩
    match (searchedFor sh t).find? isThere with
    | some p =>
      if p.isEmpty then
        goTo physical t t
        setStatus 0
      else
        goTo physical (p ++ '/' :: t) t
        output ((← get).directory ++ "\n")
    | none =>
      if !t.isEmpty then goTo physical t t
      setStatus 0

def showDirectory : Eval Unit := do
  let (opts, _) ← optionsOf "LP" [] args
  if (opts.getLast?.map (·.1)) = some 'P' then
    output (Raw.ofText (← theJob).cwd.path.text ++ "\n")
  else output ((← get).directory ++ "\n")

def homely (home : Option Raw) (p : Raw) : Raw :=
  match home with
  | some home =>
    if home.length > 1 && p = home then "~"
    else if home.length > 1 && (home ++ "/").isPrefixOf p then '~' :: p.drop home.length
    else p
  | none => p

def showDirectories : Eval Unit := do
  let sh ← get
  let ps := (sh.directory :: sh.extras.directories).map (homely (sh.value? "HOME"))
  output ([' '].intercalate ps ++ "\n")

def setDirectories (directories : List Raw) : Eval Unit :=
  modify fun sh => { sh with extras := { sh.extras with directories } }

def pushDirectory : Eval Unit := do
  let sh ← get
  match args, sh.extras.directories with
  | [], [] => failWith 1 "no other directory"
  | [], x :: xs =>
    goTo false x x
    setDirectories (sh.directory :: xs)
  | t :: _, directories =>
    goTo false t t
    setDirectories (sh.directory :: directories)
  showDirectories

def popDirectory : Eval Unit := do
  match (← get).extras.directories, args with
  | [], _ => failWith 1 "directory stack empty"
  | x :: xs, [] =>
    goTo false x x
    setDirectories xs
    showDirectories
  | _, t :: _ => failWith 1 (t ++ ": invalid argument")

/-! ## Limits -/

def changeMask : Eval Unit := do
  let (opts, args) ← optionsOf "S" [] args
  let umask := (← theJob).umask
  match args with
  | [] => output ((if isGiven opts 'S' then maskText umask else Mode.octalText 4 umask) ++ "\n")
  | s :: _ =>
    if s.head?.any Char.isDigit then
      match Mode.octal? s with
      | some mask =>
        changeJob ({ · with umask := mask &&& 0o777 })
        setStatus 0
      | none => failWith 1 (s ++ ": octal number out of range")
    else
      match Mode.change? true 0 s (0o777 ^^^ umask) with
      | some granted =>
        changeJob ({ · with umask := 0o777 ^^^ (granted &&& 0o777) })
        setStatus 0
      | none => failWith 1 ('`' :: s.take 1 ++ "': invalid symbolic mode operator")

/-! ## Control -/

def levelsOf : Eval Nat := do
  match args with
  | [] => pure 1
  | levels :: xs =>
    match integer? levels with
    | some n =>
      if !xs.isEmpty then
        abandon "too many arguments"
      else if n ≤ 0 then
        complain (levels ++ ": loop count out of range")
        setStatus 1
        throw (.leave (← get).loops)
      else pure n.toNat
    | none =>
      complain (levels ++ ": numeric argument required")
      throw (.exit ((← get).status ||| 128))

def leaveLoops (make : Nat → Stop) : Eval Unit := do
  if (← get).loops = 0 then
    complain "only meaningful in a `for', `while', or `until' loop"
    setStatus 0
  else
    let levels ← levelsOf args
    setStatus 0
    throw (make (min levels (← get).loops))

def codeArgument : Eval Nat := do
  match args with
  | [] => pure (← get).status
  | code :: xs =>
    match integer? code with
    | none =>
      complain (code ++ ": numeric argument required")
      pure 2
    | some n =>
      if xs.isEmpty then pure (n % 256).toNat
      else
        abandon "too many arguments"

def shiftArgs : Eval Unit := do
  let k ← match args with
    | [] => pure 1
    | k :: _ =>
      match integer? k with
      | some n => pure n
      | none => failWith 1 (k ++ ": numeric argument required")
  let sh ← get
  if k < 0 then failWith 1 (args.headD [] ++ ": shift count out of range")
  else if k > sh.args.length then setStatus 1
  else set { sh.withArgs (sh.args.drop k.toNat) with status := 0 }

def showHistory : Eval Unit := do
  let (opts, ops) ← optionsOf "canrwps" "d" args
  match ops with
  | [] => setStatus 0
  | n :: xs =>
    if !opts.isEmpty then setStatus 0
    else if !xs.isEmpty then
      abandon "too many arguments"
    else if (integer? n).isNone then failWith 1 (n ++ ": numeric argument required")
    else setStatus 0

def runLet : Eval Unit := do
  if args.isEmpty then failWith 1 "expression expected"
  for arg in args do
    match ← calculated arg with
    | .ok v => setStatus (if v = 0 then 1 else 0)
    | .error (.unbound name) => quit (CalcFlaw.message (.unbound name))
    | .error flaw => failWith 1 flaw.message

def showCaller : Eval Unit := do
  let sh ← get
  match sh.extras.callers with
  | caller :: callers =>
    let source := match callers with
      | outer :: _ => outer.source
      | [] => if sh.extras.givenText then "environment" else sh.name
    output (Raw.ofNat caller.line ++ ' ' :: source ++ "\n")
  | [] => if sh.extras.givenText then setStatus 1 else output "0 NULL\n"

variable (core : Core)

def runLabelled (label s : Raw) : Eval Unit := do
  let h := (← get).extras
  let restore : Eval Unit := modify fun sh =>
    { sh with extras := { sh.extras with label := h.label, level := h.level } }
  modify fun sh => { sh with extras := { sh.extras with label, level := h.level + 1 } }
  try core.script {} s catch stop => restore; throw stop
  restore

def runFile (args : List Raw) : Eval Unit := do
  let (_, args) ← optionsOf [] [] args
  match args with
  | [] =>
    complain "filename argument required"
    refuseUse
  | name :: more =>
    let h ← get
    let t := (← theMachine).tree
    let cwd := (← theJob).cwd
    let directories := ((h.value? "PATH").getD []).splitOn ':'
    let candidates := directories.map fun dir => if dir.isEmpty then name else dir ++ "/" ++ name
    let p := if name.contains '/' then name
      else (candidates.find? fun p => t.isFile cwd ⟨p.toText⟩).getD name
    let refuse (reason : Raw) : Eval Unit := do
      modify ({ · with within := none })
      complain (printable name ++ ": " ++ reason)
      modify ({ · with within := h.within })
      throw (.failed 1)
    if t.isDirectory cwd ⟨p.toText⟩ then
      complain (name ++ ": is a directory")
      throw (.failed 1)
    match ← lift (Run.openFile h.pid .toRead ⟨p.toText⟩) with
    | .error e => refuse (Raw.ofText e.description)
    | .ok i =>
      let bs ← lift (Run.readAll i)
      lift (Run.release h.pid i)
      let caller : Caller := { function := "source", source := p, line := h.line }
      set { h with
        within := none, line := 1, sourced := h.sourced + 1
        args := if more.isEmpty then h.args else more
        extras := { h.extras with
          callers := caller :: h.extras.callers, label := []
          level := h.extras.level + 1 } }
      let restore : Eval Unit := modify fun sh =>
        { sh with
          sourced := h.sourced, line := h.line
          args := if more.isEmpty then sh.args else h.args
          extras := { sh.extras with
            callers := h.extras.callers, label := h.extras.label
            level := h.extras.level } }
      try core.script {} (Raw.ofBytes (bs.toOption.getD []))
      catch stop =>
        restore
        match stop with
        | .result code =>
          setStatus code
          return
        | stop => throw stop
      restore

def complainStart (name : Raw) (e : SysFault) : Eval Unit := do
  let isDirectory := (← theMachine).tree.isDirectory (← theJob).cwd ⟨name.toText⟩
  let name := printable name
  match e with
  | .notFound | .notDirectory =>
    if name.contains '/' then complain (name ++ ": " ++ Raw.ofText e.description)
    else complain (name ++ ": command not found")
    setStatus (if e = .notDirectory then 126 else 127)
  | e =>
    if name.isEmpty then
      complain ": command not found"
      setStatus 127
    else
      let reason := if isDirectory && name.contains '/' then "Is a directory".toList
        else Raw.ofText e.description
      complain (name ++ ": " ++ reason)
      setStatus 126

def environmentFor (sh : Shell) (p : Raw) : List (Raw × Raw) :=
  let shown := sh.bindings.filterMap fun (name, hit) =>
    if hit.exported && hit.items.isNone && name ≠ "_" then hit.value.map fun v => (name, v)
    else none
  shown.mergeSort (fun l r => Items.bucketOf l.1 ≤ Items.bucketOf r.1) ++ [(['_'], p)]

def leaveLevel : Eval Unit := modify fun sh =>
  let name := "SHLVL"
  match sh.find? name with
  | some hit =>
    let level := (hit.value.bind Raw.toNat?).getD 1
    sh.putVariable name (some { hit with value := some (Raw.ofNat (level - 1)) })
  | none => sh

def become (p : Raw) (args : List Raw) : Eval SysFault := do
  becomeIn core (environmentFor (← get) p) "/usr/bin/bash" "bash" p args

def execProgram (args : List Raw) : Eval Unit := do
  let (_, args) ← optionsOf [] [] args
  match args with
  | [] => setStatus 0
  | name :: _ =>
    let refuse (e : SysFault) : Eval Unit := do
      match e with
      | .notFound =>
        complain (name ++ (if name.contains '/' then ": cannot execute: No such file or directory"
          else ": not found").toList)
        throw (.exit 127)
      | e =>
        let isDirectory := (← theMachine).tree.isDirectory (← theJob).cwd ⟨name.toText⟩
        let reason := if isDirectory then "Is a directory".toList
          else Raw.ofText e.description
        let within := (← get).within
        modify ({ · with within := none })
        complain (name ++ ": " ++ reason)
        modify ({ · with within })
        complain (name ++ ": cannot execute: " ++ reason)
        throw (.exit 126)
    match ← findProgram name with
    | .error e => refuse e
    | .ok p =>
      leaveLevel
      refuse (← become core p args)

/-! ## The table -/

def builtin? (name : String) (args : List Raw) : Option (Eval Unit) :=
  let declared := args.map Declared.word
  match name with
  | ":" | "true" => some (setStatus 0)
  | "false" => some (setStatus 1)
  | "times" => some (output "0m0.000s 0m0.000s\n0m0.000s 0m0.000s\n")
  | "echo" => some do output (echoText (localeOf (← get)) true false args)
  | "printf" => some (runPrintf args)
  | "test" => some (testWords args)
  | "[" => some do
    if args.getLast? = some "]" then testWords args.dropLast else failWith 2 "missing `]'"
  | "cd" => some (changeDirectory args)
  | "pwd" => some (showDirectory args)
  | "pushd" => some (pushDirectory args)
  | "popd" => some (popDirectory args)
  | "dirs" => some showDirectories
  | "umask" => some (changeMask args)
  | "read" => some (readText args)
  | "mapfile" | "readarray" => some (readLines args)
  | "getopts" => some do
    match args with
    | cs :: t :: given =>
      let sh ← get
      readOption
        { unknown := fun ch => sh.name ++ ": illegal option -- " ++ [ch, '\n']
          missing := fun ch => sh.name ++ ": option requires an argument -- " ++ [ch, '\n']
          forgets := true } cs t given
    | _ => refuseUse
  | "kill" => some (sendSignals args)
  | "wait" => some (waitFor args)
  | "jobs" => some (listJobs args)
  | "fg" | "bg" => some (failWith 1 "no job control")
  | "disown" => some (disown args)
  | "enable" => some (turnOwn args)
  | "help" => some (giveHelp args)
  | "complete" => some (setStatus 0)
  | "bind" => some (bindKeys args)
  | "logout" => some (failWith 1 "not login shell: use `exit'")
  | "history" => some (showHistory args)
  | "suspend" => some do
    let (_, ops) ← optionsOf "f" [] args
    if !ops.isEmpty then
      abandon "too many arguments"
    failWith 1 "cannot suspend: no job control"
  | "trap" => some (setTraps args)
  | "set" => some (runSet args)
  | "shopt" => some (changeOptions args)
  | "declare" | "typeset" => some (declareAll false declared)
  | "local" => some (declareAll true declared)
  | "export" => some (declareAs 'x' declared)
  | "readonly" => some (declareAs 'r' declared)
  | "unset" => some (forget args)
  | "alias" => some (setAliases args)
  | "unalias" => some (forgetAliases args)
  | "hash" => some (rememberPrograms args)
  | "type" => some (describeAll args)
  | "command" => some (describeCommand args)
  | "builtin" => some do
    match args with
    | [] => setStatus 0
    | name :: _ => failWith 1 (name ++ ": not a shell builtin")
  | "let" => some (runLet args)
  | "caller" => some showCaller
  | "eval" => some do
    let line := (← get).line
    let args := if args.head? = some "--" then args.drop 1 else args
    modify ({ · with within := none })
    runLabelled core "eval" ([' '].intercalate args)
    modify ({ · with line })
  | "." | "source" => some (runFile core args)
  | "exec" => some (execProgram core args)
  | "exit" => some do throw (.exit (← codeArgument args))
  | "return" => some do
    let sh ← get
    if sh.depth = 0 && sh.sourced = 0 then
      failWith 2 "can only `return' from a function or sourced script"
    else throw (.result (← codeArgument args))
  | "break" => some (leaveLoops args .leave)
  | "continue" => some (leaveLoops args .again)
  | "shift" => some (shiftArgs args)
  | _ => none

end Assay.Shell.Extended
