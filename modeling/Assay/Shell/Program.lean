import Assay.Shell.Run

/-! # The shell as a program -/

namespace Assay.Shell

structure Invocation where
  switches : List Char := []
  (runsText runsInput : Bool := false)
  operands : List Raw := []

def Invocation.turn (hit : Invocation) (on : Bool) (switch : Char) : Invocation :=
  let others := hit.switches.filter (· ≠ switch)
  { hit with switches := if on then others ++ [switch] else others }

def Invocation.read (hit : Invocation) : List Raw → Except Raw Invocation
  | [] => .ok hit
  | ['-', '-'] :: operands => .ok { hit with operands }
  | ['-'] :: operands => .ok { hit with operands }
  | [sgn, 'o'] :: name :: xs =>
    if sgn ≠ '-' && sgn ≠ '+' then .ok { hit with operands := [sgn, 'o'] :: name :: xs }
    else
      match switchNames.lookup (String.ofList name) with
      | some (some switch) => Invocation.read (hit.turn (sgn = '-') switch) xs
      | some none => Invocation.read hit xs
      | none => .error ("Illegal option " ++ sgn :: "o " ++ name)
  | (sgn :: x :: cs) :: xs =>
    if sgn ≠ '-' && sgn ≠ '+' then .ok { hit with operands := (sgn :: x :: cs) :: xs }
    else
      match (x :: cs).foldlM (fun hit c => takeLetter hit (sgn = '-') c)
          hit with
      | .ok hit => Invocation.read hit xs
      | .error c => .error ("Illegal option " ++ [sgn, c])
  | operands => .ok { hit with operands }
where
  takeLetter (hit : Invocation) (on : Bool) (c : Char) : Except Char Invocation :=
    if c = 'c' then .ok { hit with runsText := true }
    else if c = 'l' || c = 'p' then .ok hit
    else if switchLetters.contains c then
      let hit := if c = 's' then { hit with runsInput := on } else hit
      .ok (hit.turn on c)
    else .error c

def ownVariables (parent : Nat) : List (String × Raw) :=
  [("IFS", " \t\n"), ("OPTIND", "1"), ("PPID", Raw.ofNat parent),
    ("PS1", "# "), ("PS2", "> "), ("PS4", "+ ")]

def ownPath : Raw := "/usr/local/sbin:/usr/local/bin:/usr/sbin:/usr/bin:/sbin:/bin"

def ofJob (job : Job) (t : FileTree) (name : Raw) : Shell :=
  let given := job.environment.filter fun q => Script.isName q.1
  let sh : Shell :=
    { pid := job.pid, root := job.pid, parent := job.parent, name
      bindings := given.map fun (name, v) =>
        (name, { value := some v, exported := true : Variable }) }
  let sh := (ownVariables job.parent).foldl (fun (sh : Shell) (name, v) =>
    let name := name.toList
    let isGiven := (sh.find? name).isSome
    if isGiven && name.take 2 = "PS" then sh
    else sh.putVariable name (some { value := some v, exported := isGiven })) sh
  let sh := if (sh.find? "PATH").isSome then sh
    else sh.putVariable "PATH" (some { value := some ownPath })
  let directory := match sh.value? "PWD" with
    | some path =>
      match t.locate .follow [] ⟨path.toText⟩ with
      | .ok (p, _) =>
        if path.head? = some '/' && p = job.cwd then path
        else Raw.ofText job.cwd.path.text
      | .error _ => Raw.ofText job.cwd.path.text
    | none => Raw.ofText job.cwd.path.text
  { sh.putVariable "PWD" (some { value := some directory, exported := true })
    with directory }

def perform (sh : Shell) (action : Eval Ending) : Run Ending := do
  match ← action.run.run sh with
  | (.ok fin, _) | (.error (.ended fin), _) => pure fin
  | (.error _, _) => pure (.exited 2)

def run (core : Core) (job : Job) (args : List Raw) : Run Ending := do
  let t := (← get).tree
  let name := args.headD "sh"
  let finish (sh : Shell) (action : Eval Unit) : Run Ending := perform sh (conclude core action)
  let refuse (msg : Raw) : Run Ending :=
    perform { ofJob job t name with line := 0 } do
      complain msg
      pure (.exited 2)
  match Invocation.read {} (args.drop 1) with
  | .error msg => refuse msg
  | .ok hit =>
    let sh := { ofJob job t name with switches := hit.switches }
    if hit.runsText then
      match hit.operands with
      | [] => refuse "-c requires an argument"
      | s :: xs =>
        finish { sh with name := xs.headD name, args := xs.drop 1 } (core.script { last := true } s)
    else
      match hit.runsInput, hit.operands with
      | false, p :: args =>
        match ← Run.openFile job.pid .toRead ⟨p.toText⟩ with
        | .error e => refuse (openFault false p e)
        | .ok i => finish { sh with name := p, args } (core.stream {} i)
      | _, args =>
        let sh := { sh with switches := (sh.switches.filter (· ≠ 's')) ++ "s" }
        match job.stream? 0 with
        | none => pure (.exited 0)
        | some i => finish { sh with args } (core.stream {} i)

end Assay.Shell
