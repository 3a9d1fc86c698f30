import Assay.Shell.Extended.Input

/-! # What names stand for -/

namespace Assay.Shell.Extended

def keywords : List String :=
  ("if then else elif fi case esac for while until do done in function time \x7b \x7d ! " ++
    "[[ ]] coproc").splitOn

def ownNames : List String :=
  (". : [ alias bg bind break builtin caller cd command compgen complete continue declare " ++
    "dirs disown echo enable eval exec exit export false fg getopts hash help history jobs " ++
    "kill let local logout mapfile popd printf pushd pwd read readarray readonly return set " ++
    "shift shopt source suspend test times trap true type typeset umask unalias unset " ++
    "wait").splitOn

inductive Meaning where
  | keyword | function | own
  | file (path : Raw) (known : Bool)

def runnable (name : Raw) : Eval (List Raw) := do
  let sh ← get
  let t := (← theMachine).tree
  let cwd := (← theJob).cwd
  let places := ((sh.value? "PATH").getD []).splitOn ':'
  let candidates := if name.contains '/' then [name]
    else places.map fun p => (if p.isEmpty then "." else p) ++ '/' :: name
  pure (candidates.filter fun path => (t.entryAt? cwd path).any Entry.isExecutable)

def meaningsOf (name : Raw) (withFunctions : Bool) : Eval (List Meaning) := do
  let sh ← get
  let s := String.ofList name
  let known := (sh.found.lookup name).isSome
  let fs ← if name.isEmpty then pure [] else runnable name
  pure ((if keywords.contains s then [.keyword] else [])
    ++ (if withFunctions && (sh.functions.lookup name).isSome then [.function] else [])
    ++ (if ownNames.contains s && !sh.extras.disabled.contains s then [.own] else [])
    ++ (fs.zipIdx.map fun (p, i) => Meaning.file p (known && i = 0)))

def Meaning.sentence (sh : Shell) (name : Raw) : Meaning → Raw
  | .keyword => name ++ " is a shell keyword"
  | .function => name ++ " is a function\n"
      ++ ((sh.functions.lookup name).map (·.functionText name)).getD []
  | .own => name ++ " is a shell builtin"
  | .file p isKnown =>
    if isKnown then name ++ " is hashed (" ++ p ++ ")"
    else name ++ " is " ++ p

def Meaning.kind : Meaning → String
  | .keyword => "keyword"
  | .function => "function"
  | .own => "builtin"
  | .file _ _ => "file"

variable (args : List Raw)

def describeAll : Eval Unit := do
  let (opts, ns) ← optionsOf "afptP" [] args
  let has := isGiven opts
  let mut code := 0
  for name in ns do
    let meanings ← meaningsOf name (!has 'f')
    let fs := meanings.filter fun
      | .file _ _ => true
      | _ => false
    let chosen := if has 'P' then fs else meanings
    let chosen := if has 'a' then chosen else chosen.take 1
    if chosen.isEmpty then
      if !has 't' && !has 'p' && !has 'P' then complain (name ++ ": not found")
      code := 1
    let sh ← get
    for meaning in chosen do
      match meaning with
      | .file p _ =>
        output ((if has 't' then "file".toList
          else if has 'p' || has 'P' then p
          else meaning.sentence sh name) ++ "\n")
      | meaning =>
        if has 't' then output (meaning.kind.toList ++ "\n")
        else if !has 'p' then output (meaning.sentence sh name ++ "\n")
  setStatus code

def describeCommand : Eval Unit := do
  let (opts, ns) ← optionsOf "pvV" [] args
  let verbose := isGiven opts 'V'
  let mut found := false
  for name in ns do
    match ← meaningsOf name true with
    | meaning :: _ =>
      found := true
      let sh ← get
      output ((match verbose, meaning with
        | false, .file p _ => p
        | false, _ => name
        | true, .file p _ => name ++ " is " ++ p
        | true, meaning => meaning.sentence sh name) ++ "\n")
    | [] => if verbose then complain (name ++ ": not found")
  setStatus (if found || ns.isEmpty then 0 else 1)

def rememberPrograms : Eval Unit := do
  let (opts, ns) ← optionsOf "dlrt" "p" args
  if isGiven opts 'r' then
    modify ({ · with found := [] })
    setStatus 0
  else if ns.isEmpty then
    let hit := (← get).found
    if hit.isEmpty then output "hash: hash table empty\n"
    else output ("hits\tcommand\n".toList
      ++ hit.flatMap fun (_, p) => "   1\t".toList ++ p ++ ['\n'])
  else
    let mut code := 0
    for name in ns do
      if !name.contains '/' && !ownNames.contains (String.ofList name) then
        match ← findProgram name with
        | .ok _ => pure ()
        | .error _ =>
          complain (name ++ ": not found")
          code := 1
    setStatus code

def setAliases : Eval Unit := do
  let (_, args) ← optionsOf "p" [] args
  let ln (name s : Raw) : Raw := "alias " ++ name ++ '=' :: singleQuoted s ++ "\n"
  let sorted := (← get).aliases.mergeSort fun l r => !(r.1 < l.1 : Bool)
  if args.isEmpty then output (sorted.flatMap fun (name, s) => ln name s)
  else
    let mut code := 0
    for arg in args do
      let (name, s) := splitAssignment arg
      match s with
      | some s => modify fun sh =>
        { sh with aliases := (name, s) :: sh.aliases.filter fun q => q.1 ≠ name }
      | none =>
        match (← get).aliases.lookup name with
        | some s => output (ln name s)
        | none =>
          complain (name ++ ": not found")
          code := 1
    setStatus code

def forgetAliases : Eval Unit := do
  let (opts, ns) ← optionsOf "a" [] args
  if isGiven opts 'a' then
    modify ({ · with aliases := [] })
    setStatus 0
  else
    let mut code := 0
    for name in ns do
      if ((← get).aliases.lookup name).isNone then
        complain (name ++ ": not found")
        code := 1
      modify fun sh => { sh with aliases := sh.aliases.filter fun q => q.1 ≠ name }
    setStatus code

def turnOwn : Eval Unit := do
  let (opts, ns) ← optionsOf "n" [] args
  let isOff := isGiven opts 'n'
  let disabled := (← get).extras.disabled
  if ns.isEmpty then
    let chosen := ownNames.filter fun name => disabled.contains name = isOff
    output (chosen.flatMap fun name =>
      (if isOff then "enable -n " else "enable ").toList ++ name.toList ++ "\n")
  else
    let mut code := 0
    for name in ns do
      let s := String.ofList name
      if !ownNames.contains s then
        complain (name ++ ": not a shell builtin")
        code := 1
      else modify fun sh => { sh with extras := { sh.extras with
        disabled := if isOff then s :: sh.extras.disabled.erase s
          else sh.extras.disabled.erase s } }
    setStatus code

end Assay.Shell.Extended
