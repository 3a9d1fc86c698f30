import Assay.Tool.Misc
import Assay.Tool.Stream

/-! # Tools that start programs -/

namespace Assay.Tool

/-! ## Time -/

def microsOf? (s : Raw) : Option Nat :=
  let (ds, factor) := match s.reverse with
    | 's' :: xs => (xs.reverse, 1)
    | 'm' :: xs => (xs.reverse, 60)
    | 'h' :: xs => (xs.reverse, 3600)
    | 'd' :: xs => (xs.reverse, 86400)
    | _ => (s, 1)
  match Decimal.takeAmount ds with
  | some (.finite false num den, []) =>
    if ds.head?.any Format.isSpace then none
    else some (num * factor * 1000000 / den)
  | _ => none

def sleep (args : List Raw) : Act Nat := do
  let flags ← flagsOf "" "" "" args
  needOperand flags
  let isEndless (arg : Raw) : Bool := arg = "infinity" || arg = "inf"
  let mut total := 0
  let mut flawed := false
  for arg in flags.operands do
    match microsOf? arg with
    | some micros => total := total + micros
    | none =>
      if !isEndless arg then
        complain ("invalid time interval " ++ cite arg)
        flawed := true
  if flawed then
    pointToHelp
    throw (.exited 1)
  if flags.operands.any isEndless then lift Run.stuck
  lift (Run.sleep total)
  pure 0

def family (m : Machine) : Nat → Nat → List Nat
  | 0, pid => [pid]
  | d + 1, pid => pid :: (m.jobs.filter (·.parent = pid)).flatMap fun job => family m d job.pid

def signalFamily (pid sig : Nat) : Act Unit :=
  modify fun m => (family m 20 pid).foldl (fun m pid => (m.signal pid sig).2) m

def signalOf? (ns : List (String × Nat)) (s : Raw) : Option Nat :=
  match s.toNat? with
  | some n => if n ≤ 64 then some n else none
  | none =>
    let name := s.map Char.toUpper
    let name := if "SIG".toList.isPrefixOf name then name.drop 3 else name
    ns.lookup (String.ofList name)

def toolSignals : List (String × Nat) :=
  [("HUP", 1), ("INT", 2), ("QUIT", 3), ("ABRT", 6), ("KILL", 9), ("USR1", 10), ("USR2", 12),
    ("PIPE", 13), ("ALRM", 14), ("TERM", 15), ("CONT", 18), ("STOP", 19)]

variable (args : List Raw)

def timeout : Act Nat := do
  let opts : Options :=
    { plain := "v", valued := "sk"
      long := "signal=s kill-after=k verbose=v foreground=f preserve-status=p"
      mixed := false }
  let flags ← flagsOr 125 opts args
  let sig ← match flags.value? 's' with
    | none => pure 15
    | some s =>
      match signalOf? toolSignals s with
      | some sig => pure sig
      | none => abortUsage 125 (cite s ++ ": invalid signal")
  let microsOr (s : Raw) : Act Nat := do
    let some micros := microsOf? s | abortUsage 125 ("invalid time interval " ++ cite s)
    pure micros
  match flags.operands with
  | duration :: program :: xs =>
    let kill ← match flags.value? 'k' with
      | none => pure none
      | some s => pure (some (← microsOr s))
    let micros ← microsOr duration
    let child ← inChild id fun job => do
      become (fun name => "failed to run command " ++ cite name) (program :: xs) job
    let clock := (← get).clock
    let ended ←
      if micros = 0 then pure (some (← waitFor child))
      else lift (Run.awaitUntil (clock + micros) (·.takeEnded? child))
    let codeOf (fin : Ending) : Nat := match fin with
      | .exited code => code
      | .killed sig => 128 + sig
    match ended with
    | some (.killed sig) => throw (.killed sig)
    | some fin => pure (codeOf fin)
    | none =>
      let send (sig : Nat) : Act Unit := do
        if flags.has 'v' then
          let name := (toolSignals.find? (·.2 = sig)).map (·.1.toList)
          complain ("sending signal " ++ name.getD (Raw.ofNat sig)
            ++ " to command " ++ cite program)
        signalFamily child sig
        if sig = 9 && !flags.has 'f' then throw (.killed 9)
      send sig
      let clock := (← get).clock
      let fin ← match kill with
        | none => waitFor child
        | some micros =>
          match ← lift (Run.awaitUntil (clock + micros) fun m =>
              m.takeEnded? child) with
          | some fin => pure fin
          | none =>
            send 9
            waitFor child
      if fin = .killed 9 then pure 137
      else if flags.has 'p' then pure (codeOf fin)
      else pure 124
  | _ =>
    pointToHelp
    pure 125

/-! ## The environment -/

def nameAndValue (arg : Raw) : Raw × Option Raw :=
  let name := arg.takeWhile (· ≠ '=')
  (name, if name.length < arg.length then some (arg.drop (name.length + 1)) else none)

inductive SplitFault where
  | openQuote | escapeAtEnd | escapeInQuotes
  | badEscape (c : Char)
  | badVariable (xs : Raw)

def SplitFault.message : SplitFault → Raw
  | .openQuote => "no terminating quote in -S string"
  | .escapeAtEnd => "invalid backslash at end of string in -S"
  | .escapeInQuotes => "'\\c' must not appear in double-quoted -S string"
  | .badEscape c => "invalid sequence '\\" ++ [c] ++ "' in -S"
  | .badVariable xs => "only $\x7bVARNAME\x7d expansion is supported, error at: " ++ xs

structure Splitting where
  words : List Raw := []
  word : Option Raw := none
  quote : Option Char := none

namespace Splitting

def add (st : Splitting) (cs : Raw) : Splitting :=
  { st with word := some (cs.reverse ++ st.word.getD []) }

def finish (st : Splitting) : Splitting :=
  match st.word with
  | some w => { st with words := w.reverse :: st.words, word := none }
  | none => st

def run (env : List (Raw × Raw)) : Nat → Splitting → Raw → Except SplitFault (List Raw)
  | 0, st, _ => .ok st.finish.words.reverse
  | _, st, [] => if st.quote.isSome then .error .openQuote else .ok st.finish.words.reverse
  | fuel + 1, st, c :: xs =>
    let isBlank := c = ' ' || ('\t' ≤ c && c ≤ '\r')
    if st.quote = some '\'' then
      if c = '\'' then run env fuel { st with quote := none } xs
      else if c = '\\' && (xs.head? = some '\\' || xs.head? = some '\'') then
        run env fuel (st.add (xs.take 1)) (xs.drop 1)
      else run env fuel (st.add [c]) xs
    else if c = '"' then
      run env fuel { st.add [] with quote := if st.quote = some '"' then none else some '"' } xs
    else if c = '\'' && st.quote.isNone then run env fuel { st.add [] with quote := some '\'' } xs
    else if isBlank && st.quote.isNone then run env fuel st.finish xs
    else if c = '#' && st.quote.isNone && st.word.isNone then .ok st.finish.words.reverse
    else if c = '\\' then
      match xs with
      | [] => .error .escapeAtEnd
      | 'c' :: _ =>
        if st.quote = some '"' then .error .escapeInQuotes else .ok st.finish.words.reverse
      | '_' :: xs =>
        if st.quote = some '"' then run env fuel (st.add " ") xs
        else run env fuel st.finish xs
      | escaped :: xs =>
        match [('f', '\x0c'), ('n', '\n'), ('r', '\r'), ('t', '\t'), ('v', '\x0b'), ('"', '"'),
            ('#', '#'), ('$', '$'), ('\'', '\''), ('\\', '\\')].lookup escaped with
        | some c => run env fuel (st.add [c]) xs
        | none => .error (.badEscape escaped)
    else if c = '$' then
      let name := (xs.drop 1).takeWhile fun c => c.isAlphanum || c = '_'
      if xs.head? = some '\x7b' && !name.isEmpty && !(name.head?.any Char.isDigit)
          && xs[name.length + 1]? = some '\x7d' then
        let st := match env.lookup name with
          | some v => st.add v
          | none => st
        run env fuel st (xs.drop (name.length + 2))
      else .error (.badVariable (c :: xs))
    else run env fuel (st.add [c]) xs

end Splitting

/-- The letters before the one in a word that asks for an argument to be split, and that argument,
if it is in the word itself. -/
def splitOption? (w : Raw) : Option (Raw × Option Raw) :=
  let long := "--split-string"
  if w = long then some ([], none)
  else if (long ++ ['=']).isPrefixOf w then some ([], some (w.drop (long.length + 1)))
  else
    match w with
    | '-' :: cs =>
      let lead := cs.takeWhile fun ch => ch = 'i' || ch = 'v' || ch = '0'
      match cs.drop lead.length with
      | ['S'] => some (lead, none)
      | 'S' :: xs => some (lead, some xs)
      | _ => none
    | _ => none

def spliceArgs (env : List (Raw × Raw)) : Nat → List Raw → List Raw → Except SplitFault (List Raw)
  | 0, seen, args => .ok (seen.reverse ++ args)
  | _, seen, [] => .ok seen.reverse
  | fuel + 1, seen, w :: args =>
    if w.head? ≠ some '-' || w = "--" || w = "-" then .ok (seen.reverse ++ w :: args)
    else
      match splitOption? w with
      | some (lead, some s) => do
        let ws ← Splitting.run env (s.length + 1) {} s
        spliceArgs env fuel (withLead lead seen) (ws ++ args)
      | some (lead, none) =>
        match args with
        | s :: args => do
          let ws ← Splitting.run env (s.length + 1) {} s
          spliceArgs env fuel (withLead lead seen) (ws ++ args)
        | [] => .ok (seen.reverse ++ [w])
      | none =>
        if w = "-u" || w = "-C" then
          spliceArgs env fuel (args.take 1 ++ w :: seen) (args.drop 1)
        else spliceArgs env fuel (w :: seen) args
where
  withLead (lead : Raw) (seen : List Raw) : List Raw :=
    if lead.isEmpty then seen else ('-' :: lead) :: seen

def complainOfSpaces : Act Unit := complain "use -[v]S to pass options in shebang lines"

def env : Act Nat := do
  let job := (← read).job
  let args ← match spliceArgs job.environment (4 * args.length + 100) [] args with
    | .ok args => pure args
    | .error e => abort 125 e.message
  let opts : Options :=
    { plain := "i0v"
      valued := "uCS \t\n\x0b\x0c\r"
      long := "ignore-environment=i null=0 unset=u chdir=C split-string=S debug=v"
      mixed := false }
  let flags ← flagsOr 125 opts args
  if let some (blank, _) := flags.options.find? fun q => q.1 = ' ' || q.1 < '\x20' then
    complain ("invalid option -- '" ++ [blank, '\''])
    complainOfSpaces
    pointToHelp
    throw (.exited 125)
  let (ignores, ops) := match flags.operands with
    | ['-'] :: xs => (true, xs)
    | ops => (flags.has 'i', ops)
  let start := if ignores then [] else job.environment
  if let some (_, name) := flags.options.find? fun q =>
      q.1 = 'u' && (q.2.isEmpty || q.2.contains '=') then
    abort 125 ("cannot unset " ++ cite name ++ ": Invalid argument")
  let start := flags.options.foldl (fun environment (option, v) =>
    if option = 'u' then environment.filter fun q => q.1 ≠ v else environment) start
  let assigned := ops.takeWhile (·.contains '=')
  let environment := assigned.foldl (fun environment arg =>
    let (name, v) := nameAndValue arg
    let v := v.getD []
    if environment.any fun q => q.1 = name then
      environment.map fun q => if q.1 = name then (name, v) else q
    else environment ++ [(name, v)]) start
  let cmd := ops.drop assigned.length
  if flags.has '0' && !cmd.isEmpty then abortUsage 125 "cannot specify --null (-0) with command"
  if (flags.value? 'C').isSome && cmd.isEmpty then
    abortUsage 125 "must specify command with --chdir (-C)"
  let cwd ← match flags.value? 'C' with
    | none => pure job.cwd
    | some path =>
      match ← locate .follow path with
      | .ok (p, .directory) => pure p
      | .ok _ =>
        abort 125 ("cannot change directory to " ++ quote path ++ ": " ++ faultText .notDirectory)
      | .error e => abort 125 ("cannot change directory to " ++ quote path ++ ": " ++ faultText e)
  match cmd with
  | [] =>
    let fin : Raw := if flags.has '0' then "\x00" else "\n"
    emit (environment.flatMap fun (name, v) => name ++ "=" ++ v ++ fin)
    pure 0
  | program :: _ =>
    let fin ← tryCatch (become cite cmd { job with environment, cwd }) fun fin => do
      if fin = .exited 127 && program.contains ' ' then complainOfSpaces
      throw fin
    throw fin

def nohup : Act Nat := do
  let job := (← read).job
  match (← flagsOr 125 { plain := [], mixed := false } args).operands with
  | [] => abortUsage 125 "missing operand"
  | cmd =>
    throw (← become (fun name => "failed to run command " ++ cite name) cmd
      { job with ignored := 1 :: job.ignored })

/-- The adjustments at the start of arguments that are options by themselves, such as `-5` and
`--5`, written as values of an option. -/
def spellAdjustments : List Raw → List Raw
  | [] => []
  | arg :: args =>
    match arg with
    | '-' :: xs =>
      let ds := match xs with
        | '-' :: ds | '+' :: ds => ds
        | ds => ds
      if ds.head?.any Char.isDigit then "-n" :: xs :: spellAdjustments args
      else if arg = "-n" then arg :: args.take 1 ++ spellAdjustments (args.drop 1)
      else if arg = "--" then arg :: args
      else arg :: spellAdjustments args
    | _ => arg :: args
termination_by args => args.length
decreasing_by all_goals simp +arith

def nice : Act Nat := do
  let flags ← flagsOr 125 { plain := [], valued := "n", long := "adjustment=n",
                            mixed := false } (spellAdjustments args)
  let job := (← read).job
  let adjustment : Int ← match flags.value? 'n' with
    | none => pure 10
    | some s =>
      let body := s.dropWhile Format.isSpace
      let sgn : Int := if body.head? = some '-' then -1 else 1
      let ds := if body.head? = some '-' || body.head? = some '+' then body.drop 1 else body
      match Raw.toNat? ds with
      | some n => pure (sgn * n)
      | none => abort 125 ("invalid adjustment " ++ cite s)
  if flags.operands.isEmpty then
    if flags.has 'n' then abortUsage 125 "a command must be given with an adjustment"
    emitLine (Raw.ofInt job.niceness)
    pure 0
  else
    let niceness := max (-20) (min 19 (job.niceness + adjustment))
    throw (← become cite flags.operands { job with niceness })

def stdbuf : Act Nat := do
  let flags ← flagsOr 125
    { plain := [], valued := "ioe",
      long := "input=i output=o error=e", mixed := false } args
  for (option, s) in flags.options do
    if s = "L" then if option = 'i' then abortUsage 125 "line buffering stdin is meaningless"
    else if (countOf? s).isNone then abort 125 ("invalid mode " ++ cite s)
  if flags.operands.isEmpty then abortUsage 125 "missing operand"
  if flags.options.isEmpty then abortUsage 125 "you must specify a buffering mode option"
  throw (← become (fun name => "failed to run command " ++ cite name) flags.operands (← read).job)

def setsid : Act Nat := do
  let flags ← flagsOr 1
    { plain := "cfw", long := "ctty=c fork=f wait=w", mixed := false } args
  if flags.operands.isEmpty then abortUsage 1 "no command specified"
  if flags.has 'c' then
    abort 1 "failed to set the controlling terminal: Inappropriate ioctl for device"
  throw (← become (fun name => "failed to execute " ++ name) flags.operands (← read).job)

end Assay.Tool
