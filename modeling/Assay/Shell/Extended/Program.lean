import Assay.Shell.Extended.Run
import Assay.Shell.Program

/-! # The shell of the extended language as a program -/

namespace Assay.Shell.Extended

structure Invocation where
  switches : List (Bool × Char) := []
  (settings options : List (Bool × Raw) := [])
  (runsText runsInput : Bool := false)
  operands : List Raw := []
  showsVersion : Bool := false

def longOptions : List (String × Option Char) :=
  [("debug", none), ("debugger", none), ("dump-po-strings", some 'n'), ("dump-strings", some 'n'),
    ("help", none), ("init-file", none), ("login", none), ("noediting", none), ("noprofile", none),
    ("norc", none), ("posix", none), ("pretty-print", some 'n'), ("rcfile", none),
    ("restricted", some 'r'), ("verbose", some 'v'), ("version", none)]

def usageText (name : Raw) : Raw :=
  "Usage:\t".toList ++ name ++ " [GNU long option] [option] ...\n\t".toList ++ name
    ++ " [GNU long option] [option] script-file ...\nGNU long options:\n"
    ++ (longOptions.flatMap fun (name, _) => "\t--".toList ++ name.toList ++ ['\n'])
    ++ "Shell options:\n"
    ++ "\t-ilrsD or -c command or -O shopt_option\t\t(invocation only)\n"
    ++ "\t-abefhkmnptuvxBCEHPT or -o option\n"

inductive InvocationFlaw where
  | unknown (option : Raw)
  | missing (option : Raw)

namespace Invocation

def takeLetters (on : Bool) : Invocation → Raw → Except InvocationFlaw (Invocation × List Char)
  | hit, [] => .ok (hit, [])
  | hit, c :: xs => do
    let sgn := if on then '-' else '+'
    if c = 'o' || c = 'O' then
      let (hit, needs) ← takeLetters on hit xs
      pure (hit, c :: needs)
    else
      let hit ←
        if c = 'c' then pure { hit with runsText := true }
        else if c = 's' then pure { hit with runsInput := true }
        else if c = 'l' then
          pure { hit with options := hit.options ++ [(on, "login_shell".toList)] }
        else if c = 'i' || c = 'D' then pure hit
        else if c = 'r' || (namedSwitches.any (·.2 = c)) then
          pure { hit with switches := hit.switches ++ [(on, c)] }
        else throw (.unknown [sgn, c])
      takeLetters on hit xs

def takeNeeded (on : Bool) : Invocation → List Char → List Raw →
    Except InvocationFlaw (Invocation × List Raw)
  | hit, [], xs => .ok (hit, xs)
  | hit, c :: needs, name :: xs =>
    let hit := if c = 'o' then { hit with settings := hit.settings ++ [(on, name)] }
      else { hit with options := hit.options ++ [(on, name)] }
    takeNeeded on hit needs xs
  | _, c :: _, [] => .error (.missing ['-', c])

def read (hit : Invocation) (fuel : Nat) (args : List Raw) : Except InvocationFlaw Invocation :=
  match fuel, args with
  | 0, args => .ok { hit with operands := args }
  | _, ['-', '-'] :: operands => .ok { hit with operands }
  | _, ['-'] :: operands => .ok { hit with operands }
  | fuel + 1, (sgn :: x :: cs) :: xs =>
    if sgn ≠ '-' && sgn ≠ '+' then .ok { hit with operands := (sgn :: x :: cs) :: xs }
    else
      let name := String.ofList (if x = '-' then cs else x :: cs)
      match if sgn = '-' then longOptions.lookup name else none with
      | some c =>
        let switches := hit.switches ++ (c.map fun c => (true, c)).toList
        let cfg := if name = "posix" then [(true, name.toList)] else []
        let xs := if name = "rcfile" || name = "init-file" then xs.drop 1 else xs
        let showsVersion := hit.showsVersion || name = "version"
        read { hit with switches, showsVersion, settings := hit.settings ++ cfg } fuel xs
      | none => do
        if x = '-' then throw (.unknown (sgn :: x :: cs))
        let (hit, needs) ← takeLetters (sgn = '-') hit (x :: cs)
        let (hit, xs) ← takeNeeded (sgn = '-') hit needs xs
        read hit fuel xs
  | _, operands => .ok { hit with operands }

end Invocation

def ownVariables (sh : Shell) : List (String × String × Bool × Raw) :=
  let hit := (sh.value? "SHLVL").bind Raw.toNat?
  [("BASH_VERSION", "", false, "5.2.15(1)-release"),
    ("BASH_LOADABLES_PATH", "", true, ("/usr/local/lib/bash:/usr/lib/bash:/opt/local/lib/bash:"
      ++ "/usr/pkg/lib/bash:/opt/pkg/lib/bash:.").toList),
    ("EUID", "ir", false, "0"), ("UID", "ir", false, "0"),
    ("PPID", "ir", false, Raw.ofNat sh.parent), ("HOSTNAME", "", true, "localhost"),
    ("HOSTTYPE", "", false, "x86_64"), ("IFS", "", false, " \t\n"),
    ("MACHTYPE", "", false, "x86_64-pc-linux-gnu"), ("OPTERR", "", false, "1"),
    ("OPTIND", "i", false, "1"), ("OSTYPE", "", false, "linux-gnu"),
    ("PS4", "", true, "+ "), ("SHELL", "", true, "/bin/bash"),
    ("SHLVL", "x", false, Raw.ofNat (hit.getD 0 + 1)), ("TERM", "", true, "dumb")]

def ofJob (job : Job) (t : FileTree) (started : Nat) (name : Raw) : Shell :=
  let plain := Shell.ofJob job t name
  let unwanted := ["PS1", "PS2"].map String.toList
  let given := plain.bindings.filter fun (name, hit) => hit.exported || !unwanted.contains name
  let sh := ({ plain with bindings := given, extended := true } : Shell)
  let sh := (ownVariables sh).foldl (fun sh (name, cs, keeps, v) =>
    let old := sh.find? name.toList
    let isExported := cs.contains 'x' || old.any (·.exported)
    if keeps && old.any (·.exported) then sh
    else sh.putVariable name.toList (some
      { value := some v, exported := isExported, fixed := cs.contains 'r'
        traits := if cs.contains 'i' then "i" else [] })) sh
  let p := (sh.value? "PATH").getD []
  let program := if name.contains '/' then name
    else match t.findProgram job.cwd p name with
      | .ok p => p
      | .error _ => "/bin/bash"
  let sh := sh.putVariable "BASH" (some { value := some program })
  let sh := match sh.ownItems? "BASH_VERSINFO" with
    | some xs => sh.putVariable "BASH_VERSINFO"
      (some { value := some [], items := some xs, fixed := true })
    | none => sh
  let sh := if (sh.find? "OLDPWD").isSome then sh
    else sh.putVariable "OLDPWD" (some { exported := true })
  withSettings { sh with
    switches := "hB"
    extras := { sh.extras with
      options := startOptions ++ ["interactive-comments"], lastWord := name, started } }

def isBinary (content : Text.Bytes) : Bool := ((content.take 80).takeWhile (· ≠ 10)).contains 0

def turnAll (hit : Invocation) : Eval Bool := do
  for (on, c) in hit.switches do
    turnSwitch on c
  for (on, name) in hit.settings do
    if name = "posix" && on then assign "POSIXLY_CORRECT" "y"
    if !(← turnSetting on name) then
      complain ((← get).name ++ ": " ++ name ++ ": invalid option name")
      return false
  for (on, name) in hit.options do
    if optionNames.contains (String.ofList name) then turnOption on (String.ofList name)
    else
      complain (name ++ ": invalid shell option name")
      return false
  pure true

def run (core : Core) (job : Job) (texts : List Raw) (args : List Raw) : Run Ending := do
  let t := (← get).tree
  let name := args.headD "bash"
  let start := ofJob job t (← get).clock name
  let start := { start with extras := { start.extras with texts } }
  let refuse (code : Nat) (msg : Raw) : Run Ending :=
    perform start do
      let _ ← writeTo 2 msg
      pure (.exited code)
  let finish (hit : Invocation) (sh : Shell) (action : Eval Unit) : Run Ending :=
    perform { sh with line := 0 } do
      if ← turnAll hit then
        modify ({ · with line := 1 })
        conclude core action
      else pure (.exited 2)
  match Invocation.read {} (args.length + 1) (args.drop 1) with
  | .error (.unknown option) =>
    refuse 2 (name ++ ": " ++ option ++ ": invalid option\n" ++ usageText name)
  | .error (.missing option) =>
    refuse 2 (name ++ ": " ++ option ++ ": option requires an argument\n")
  | .ok hit =>
    if hit.showsVersion then
      return ← perform start do
        let _ ← writeTo 1 (texts.headD [])
        pure (.exited 0)
    let withLetter (c : Char) (extras : Extras) : Shell :=
      { start with switches := start.switches ++ [c], extras }
    match hit.runsText, hit.runsInput, hit.operands with
    | true, _, [] => refuse 2 (name ++ ": -c: option requires an argument\n")
    | true, _, s :: xs =>
      let sh := withLetter 'c' { start.extras with givenText := true, label := "-c" }
      let sh := sh.putVariable "BASH_EXECUTION_STRING" (some { value := some s })
      finish hit { sh with name := xs.headD name, args := xs.drop 1 }
        (core.script { last := true } s)
    | false, false, p :: xs =>
      let opened ← do
        match ← Run.openFile job.pid .toRead ⟨p.toText⟩ with
        | .error .notFound =>
          match t.findProgram job.cwd ((start.value? "PATH").getD []) p with
          | .ok y => Run.openFile job.pid .toRead ⟨y.toText⟩
          | .error e => pure (.error e)
        | opened => pure opened
      if t.isDirectory job.cwd ⟨p.toText⟩ then refuse 126 (p ++ ": " ++ p ++ ": Is a directory\n")
      else
        match opened with
        | .error e =>
          refuse (if e = .notFound then 127 else 126)
            (name ++ ": " ++ p ++ ": " ++ Raw.ofText e.description ++ "\n")
        | .ok i =>
          let bs := (← Run.readSome i 80).toOption.getD []
          modify (·.unread i bs.length)
          if isBinary bs then refuse 126 (p ++ ": " ++ p ++ ": cannot execute binary file\n")
          else
            finish hit
              { start with
                name := p, args := xs
                extras := { start.extras with source := p } }
              (core.stream {} i)
    | false, _, xs =>
      match job.stream? 0 with
      | none => pure (.exited 0)
      | some i => finish hit { withLetter 's' start.extras with args := xs } (core.stream {} i)

end Assay.Shell.Extended
