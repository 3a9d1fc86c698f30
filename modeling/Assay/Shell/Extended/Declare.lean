import Assay.Shell.Extended.Test
import Assay.Shell.Extended.Usage

/-! # Commands that declare -/

namespace Assay.Shell.Extended

def output (bs : Raw) : Eval Unit := do
  if bs.isEmpty then setStatus 0
  else
    let some e ← tryWrite 1 bs | setStatus 0
    complain ("write error: " ++ e.description.toList)
    setStatus 1

/-! ## Variables -/

inductive Declared where
  | word (s : Raw)
  | items (name : Raw) (appends : Bool) (given : Given)

structure Manner where
  (adds removes : List Char := [])
  isLocal : Bool := false
  names : Bool := true

variable (sh : Shell)

def sortedVariables : List (Raw × Variable) := sh.bindings.mergeSort fun l r => !(r.1 < l.1 : Bool)

variable (manner : Manner)

def Manner.apply (hit : Variable) : Variable :=
  let cs := "ilunc".toList
  let opposed (c : Char) : List Char := match c with
    | 'l' => "uc"
    | 'u' => "lc"
    | 'c' => "lu"
    | _ => []
  let traits := hit.traits.filter fun c =>
    !manner.removes.contains c && !manner.adds.any fun y => (opposed y).contains c
  let more := cs.filter fun c => manner.adds.contains c && !traits.contains c
  let items := match hit.items with
    | some items => some items
    | none =>
      if manner.adds.contains 'A' then
        some (hit.value.elim (.keyed []) fun v => Items.setNamed (.keyed []) "0" v)
      else if manner.adds.contains 'a' then
        some (hit.value.elim (.indexed []) fun v => Items.indexed [(0, v)])
      else none
  { hit with
    traits := traits ++ more
    items
    exported := (hit.exported || manner.adds.contains 'x') && !manner.removes.contains 'x'
    fixed := hit.fixed || manner.adds.contains 'r' }

def Manner.flaw? (hit : Variable) : Option String :=
  match hit.items with
  | some (.indexed _) =>
    if manner.adds.contains 'A' then some "cannot convert indexed to associative array" else none
  | some (.keyed _) =>
    if manner.adds.contains 'a' then some "cannot convert associative to indexed array" else none
  | none => none

def makeLocal (name : Raw) : Eval Unit := do
  let sh ← get
  if (sh.locals.lookup name).isNone then
    let sh := { sh with locals := (name, sh.find? name) :: sh.locals }
    set (sh.putVariable name (some {}))

def declareOne (name : Raw) (shown : Raw) (key : Option Raw)
    (assigned : Option (Sum (Bool × Raw) (Bool × Given))) : Eval Nat := do
  if !Script.isName name then
    complain ('`' :: shown ++ "': not a valid identifier")
    return 1
  if manner.isLocal then makeLocal name
  let sh ← get
  let name := if manner.adds.contains 'n' || manner.removes.contains 'n' then name
    else sh.resolved name
  let hit := (sh.find? name).getD {}
  if hit.fixed && (assigned.isSome || manner.removes.contains 'r') then
    let within := sh.within
    if !manner.names then modify ({ · with within := none })
    complain (name ++ ": readonly variable")
    modify ({ · with within })
    return 1
  if let some flaw := manner.flaw? hit then
    complain (name ++ ": " ++ flaw.toList)
    return 1
  let last := manner.adds.filter (· = 'r')
  let x : Manner := { manner with adds := manner.adds.filter (· ≠ 'r') }
  let isItems := match assigned with
    | some (.inr _) => true
    | _ => key.isSome
  let x := if isItems && hit.items.isNone && !x.adds.contains 'A' then
      { x with adds := 'a' :: x.adds }
    else x
  let cleared := match assigned with
    | some (.inr (false, _)) => { hit with value := none }
    | _ => hit
  modify (·.putVariable name (some (x.apply cleared)))
  match assigned with
  | some (.inl (appends, v)) =>
    if !manner.names then traceAssignment (name ++ "=") v
    if manner.adds.contains 'n' then
      modify fun sh => sh.putVariable name
        ((sh.find? name).map ({ · with value := some v }))
    else store name key appends v
  | some (.inr (appends, given)) => storeItems name appends given
  | none => pure ()
  modify fun sh => sh.putVariable name
    ((sh.find? name).map fun hit => { hit with fixed := hit.fixed || !last.isEmpty })
  pure 0

def declareArg : Declared → Eval Nat
  | .items name appends given => declareOne manner name name none (some (.inr (appends, given)))
  | .word s =>
    match Script.target? true s with
    | some t =>
      let key := t.key
      declareOne manner t.name s key (some (.inl (t.appends, s.drop t.length)))
    | none =>
      let (name, key) := splitName s
      declareOne { manner with adds := if key.isSome then 'a' :: manner.adds else manner.adds }
        name s none none

def signedOptions (cs : List Char) : List Declared → Eval (List (Char × Char) × List Declared)
  | .word ['-', '-'] :: xs => pure ([], xs)
  | .word (sgn :: x :: more) :: xs => do
    if sgn ≠ '-' && sgn ≠ '+' then pure ([], .word (sgn :: x :: more) :: xs)
    else
      for c in x :: more do
        if !cs.contains c then refuseOption sgn c
      let (hit, xs) ← signedOptions cs xs
      pure (((x :: more).map fun c => (sgn, c)) ++ hit, xs)
  | args => pure ([], args)

def showDeclarations (shown : Raw → Variable → Bool) : Eval Unit := do
  let hit := (sortedVariables (← get)).filter fun (name, hit) => shown name hit
  output (hit.flatMap fun (name, hit) => declaration name hit ++ "\n")

def showNamed (ns : List Raw) : Eval Unit := do
  let mut code := 0
  for name in ns do
    match known? (← get) name with
    | some hit => output (declaration name hit ++ "\n")
    | none =>
      complain (name ++ ": not found")
      code := 1
  setStatus code

def Declared.name : Declared → Raw
  | .word s => s
  | .items name _ _ => name

def showFunctions (isBrief : Bool) (ns : List Raw) : Eval Unit := do
  let functions := (← get).functions
  let known := (if ns.isEmpty then (functions.map (·.1)).mergeSort fun l r => !(r < l : Bool)
    else ns).filter fun name => (functions.lookup name).isSome
  let lead : Raw := if ns.isEmpty then "declare -f " else []
  output (known.flatMap fun name =>
    if isBrief then lead ++ name ++ "\n"
    else ((functions.lookup name).map (·.functionText name ++ ['\n'])).getD [])
  if known.length < ns.length then setStatus 1

def declareAll (isLocal : Bool) (args : List Declared) : Eval Unit := do
  if isLocal && (← get).depth = 0 then failWith 1 "can only be used in a function"
  let (opts, args) ← signedOptions "aAfFgiIlnprtuxc" args
  let has (c : Char) : Bool := opts.contains ('-', c)
  let manner : Manner :=
    { adds := (opts.filter (·.1 = '-')).map (·.2)
      removes := (opts.filter (·.1 = '+')).map (·.2)
      isLocal := isLocal || ((← get).depth > 0 && !has 'g') }
  let sh ← get
  let isShown (hit : Variable) : Bool :=
    let cs := traitLetters hit
    (manner.adds.filter "aAilnrux".toList.contains).all cs.contains
  if has 'F' || has 'f' then showFunctions (has 'F') (args.map Declared.name)
  else if has 'p' && !args.isEmpty then showNamed (args.map Declared.name)
  else if args.isEmpty then
    if isLocal then showDeclarations fun name _ => (sh.locals.lookup name).isSome
    else showDeclarations fun _ hit => isShown hit
  else
    let mut code := 0
    for arg in args do
      let res ← declareArg manner arg
      if res ≠ 0 then code := res
    setStatus code

def declareAs (c : Char) (args : List Declared) : Eval Unit := do
  let (opts, args) ← signedOptions "aAnp" args
  let has (c : Char) : Bool := opts.contains ('-', c)
  if args.isEmpty || has 'p' then showDeclarations fun _ hit => (traitLetters hit).contains c
  else
    let arrays := (opts.map (·.2)).filter fun c => c = 'a' || c = 'A'
    let manner : Manner :=
      if has 'n' then { removes := [c], names := false }
      else { adds := c :: arrays, names := false }
    let mut code := 0
    for arg in args do
      let res ← declareArg manner arg
      if res ≠ 0 then code := res
    setStatus code

def forgetOne (opts : List (Char × Raw)) (s : Raw) : Eval Nat := do
  let sh ← get
  let (name, key) := splitName s
  let forgetFunction : Eval Nat := do
    modify fun sh => { sh with functions := sh.functions.filter (·.1 ≠ s) }
    pure 0
  if isGiven opts 'f' then forgetFunction
  else if !Script.isName name then
    if isGiven opts 'v' then
      complain ('`' :: s ++ "': not a valid identifier")
      pure 1
    else forgetFunction
  else
    let name := if isGiven opts 'n' then name else sh.resolved name
    match sh.find? name with
    | none => if isGiven opts 'v' then pure 0 else forgetFunction
    | some hit =>
      if hit.fixed then
        complain (name ++ ": cannot unset: readonly variable")
        pure 1
      else
        match key with
        | none =>
          modify (·.putVariable name none)
          pure 0
        | some key =>
          if key = "@" || key = "*" then
            modify fun sh => sh.putItems name (if sh.isKeyed name then .keyed [] else .indexed [])
            return 0
          let key ←
            if sh.isKeyed name then pure key
            else
              let i ← calculate key
              let k := (itemsOf hit).nextIndex
              pure (Raw.ofInt (if i < 0 then i + k else i))
          modify (·.putItems name ((itemsOf hit).erase key))
          pure 0

variable (args : List Raw)

def forget : Eval Unit := do
  let (opts, ns) ← optionsOf "fvn" [] args
  let mut code := 0
  for name in ns do
    let res ← forgetOne opts name
    if res ≠ 0 then code := res
  setStatus code

/-! ## Settings -/

def settingNames : List String :=
  ("allexport braceexpand emacs errexit errtrace functrace hashall histexpand history ignoreeof " ++
    "interactive-comments keyword monitor noclobber noexec noglob nolog notify nounset onecmd " ++
    "physical pipefail posix privileged verbose vi xtrace").splitOn

def startOptions : List String :=
  ("checkwinsize cmdhist complete_fullquote extquote force_fignore globasciiranges globskipdots " ++
    "hostcomplete interactive_comments patsub_replacement progcomp promptvars sourcepath").splitOn

def optionNames : List String :=
  ("autocd assoc_expand_once cdable_vars cdspell checkhash checkjobs checkwinsize cmdhist compat31 " ++
    "compat32 compat40 compat41 compat42 compat43 compat44 complete_fullquote direxpand dirspell " ++
    "dotglob execfail expand_aliases extdebug extglob extquote failglob force_fignore " ++
    "globasciiranges globskipdots globstar gnu_errfmt histappend histreedit histverify hostcomplete " ++
    "huponexit inherit_errexit interactive_comments lastpipe lithist localvar_inherit " ++
    "localvar_unset login_shell mailwarn no_empty_cmd_completion nocaseglob nocasematch " ++
    "noexpand_translation nullglob patsub_replacement progcomp progcomp_alias promptvars " ++
    "restricted_shell shift_verbose sourcepath varredir_close xpg_echo").splitOn

def withSettings : Shell :=
  let joined (ns : List String) : Option Variable :=
    some { value := some (":".intercalate ns).toList, fixed := true }
  let opts := settingNames.filter fun name => isSettingOn sh name.toList
  let options := optionNames.filter sh.extras.options.contains
  (sh.putVariable "SHELLOPTS" (joined opts)).putVariable "BASHOPTS"
    (joined options)

def turnSwitch (on : Bool) (c : Char) : Eval Unit :=
  modify fun sh =>
    let others := sh.switches.filter (· ≠ c)
    withSettings { sh with switches := if on then others ++ [c] else others }

def turnOption (on : Bool) (name : String) : Eval Unit :=
  modify fun sh =>
    let others := sh.extras.options.filter (· ≠ name)
    withSettings { sh with extras := { sh.extras with
        options := if on then others ++ [name] else others } }

def turnSetting (on : Bool) (name : Raw) : Eval Bool := do
  let s := String.ofList name
  if !settingNames.contains s then pure false
  else
    match namedSwitches.lookup s with
    | some c => turnSwitch on c
    | none => turnOption on s
    pure true

def settingLine (name : String) (on : Bool) : Raw :=
  name.toList ++ List.replicate (15 - name.length) ' '
    ++ '\t' :: (if on then "on\n" else "off\n").toList

def showSettings (asCommands : Bool) : Eval Unit := do
  let sh ← get
  output (settingNames.flatMap fun name =>
    let on := isSettingOn sh name.toList
    if asCommands then "set " ++ (if on then '-' else '+') :: "o " ++ name.toList ++ ['\n']
    else settingLine name on)

def ownArrays : List String :=
  "BASH_ALIASES BASH_ARGC BASH_ARGV BASH_CMDS BASH_LINENO BASH_SOURCE DIRSTACK GROUPS".splitOn

def showVariables : Eval Unit := do
  let sh ← get
  let own : List (Raw × Variable) := ownArrays.map fun name =>
    (name.toList, { items := some (.indexed []), value := some [] })
  let codes := sh.extras.stageCodes.map Raw.ofNat
  let own := if codes.isEmpty then own
    else ("PIPESTATUS", { items := some (Items.ofList codes) }) :: own
  let sh := own.foldl (fun sh (name, hit) =>
    if (sh.find? name).isSome then sh else sh.putVariable name (some hit)) sh
  let sh := sh.putVariable "_" (some { value := some sh.extras.lastWord })
  output ((sortedVariables sh).flatMap fun (name, hit) =>
    match hit.items, hit.value with
    | some xs, _ => name ++ '=' :: itemsText xs ++ "\n"
    | none, some v => name ++ '=' :: listedValue v ++ "\n"
    | none, none => [])
  if !sh.extras.options.contains "posix" then showFunctions false []

def changeSettings : List Raw → Eval Unit
  | [] => setStatus 0
  | ['-', '-'] :: args => do
    modify (·.withArgs args)
    setStatus 0
  | ['-'] :: args => do
    turnSwitch false 'x'
    turnSwitch false 'v'
    if !args.isEmpty then modify (·.withArgs args)
    setStatus 0
  | [['-', 'o']] => showSettings false
  | [['+', 'o']] => showSettings true
  | (sgn :: x :: cs) :: args => do
    if sgn ≠ '-' && sgn ≠ '+' then
      modify (·.withArgs ((sgn :: x :: cs) :: args))
      setStatus 0
    else
      for c in x :: cs do
        if c ≠ 'o' && !(namedSwitches.any (·.2 = c)) then refuseOption sgn c
      for c in x :: cs do
        if c ≠ 'o' then turnSwitch (sgn = '-') c
      if (x :: cs).contains 'o' then
        match args with
        | name :: args =>
          if ← turnSetting (sgn = '-') name then changeSettings args
          else failWith 2 (name ++ ": invalid option name")
        | [] => showSettings (sgn = '+')
      else changeSettings args
  | args => do
    modify (·.withArgs args)
    setStatus 0

def runSet : Eval Unit := if args.isEmpty then showVariables else changeSettings args

def changeOptions : Eval Unit := do
  let (opts, ns) ← optionsOf ['q', 's', 'u'] [] args
  let has := isGiven opts
  let isOn (name : String) : Eval Bool := do pure ((← get).extras.options.contains name)
  let show_ (name : String) : Eval Unit := do
    if !has 'q' then output (settingLine name (← isOn name))
  if ns.isEmpty then
    let hides (on : Bool) : Bool := if on then has 'u' else has 's'
    (← optionNames.filterM fun name => do pure !(hides (← isOn name))).forM show_
    setStatus 0
  else
    let mut code := 0
    for name in ns.map String.ofList do
      if !optionNames.contains name then
        complain (name.toList ++ ": invalid shell option name")
        code := 1
      else if has 's' || has 'u' then turnOption (has 's') name
      else
        if !(← isOn name) then code := 1
        show_ name
    setStatus code

end Assay.Shell.Extended
