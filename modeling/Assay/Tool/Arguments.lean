import Assay.Tool.Stream

/-! # Arguments that are read -/

namespace Assay.Tool

namespace Gathering

/-! ## Settings -/

structure Settings where
  command : List Raw
  delimiter? : Option Char := none
  mark? : Option Raw := none
  (count? lines? : Option Nat := none)
  room : Nat := 131072
  (isStrict shows : Bool := false)
  slots : Nat := 1
  endWord? : Option Raw := none
  runsEmpty : Bool := true

namespace Settings

def sizeOf (ws : List Raw) : Nat := ws.foldl (fun k w => k + w.length + 1) 0

def startSize (opts : Settings) : Nat := if opts.mark?.isSome then 0 else sizeOf opts.command

end Settings

/-! ## State -/

inductive Reading where
  | gap | plain
  | quoted (mark : Char)
  | escaped

structure State where
  reading : Reading := .gap
  text : Raw := []
  length : Nat := 0
  isFirst : Bool := true
  isSeen : Bool := false
  last : Char := ' '
  hasWarned : Bool := false
  words : List Raw := []
  (size lines : Nat := 0)
  hasRun : Bool := false
  running : List Nat := []
  code : Nat := 0

/-! ## Runs -/

def State.waitOne (st : State) (name : Raw) : Act (State × Option (Raw × Nat)) := do
  let (pid, fin) ← lift (Run.await fun m =>
    st.running.findSome? fun pid => (m.takeEnded? pid).map fun (fin, m) => ((pid, fin), m))
  let st := { st with running := st.running.filter (· ≠ pid) }
  pure <| match fin with
    | .exited 0 => (st, none)
    | .exited 255 => (st, some (name ++ ": exited with status 255; aborting", 124))
    | .exited _ => ({ st with code := 123 }, none)
    | .killed sig => (st, some (name ++ ": terminated by signal " ++ Raw.ofNat sig, 125))

def State.waitAll (name : Raw) : Nat → State → Act (Nat × Bool)
  | 0, st => pure (st.code, false)
  | fuel + 1, st => do
    if st.running.isEmpty then pure (st.code, false)
    else
      match ← st.waitOne name with
      | (st, none) => waitAll name fuel st
      | (_, some (s, code)) =>
        complain s
        pure (code, true)

def State.leave {α : Type} (st : State) (opts : Settings) (code : Nat) : Act α := do
  let (late, isFatal) ← st.waitAll (opts.command.headD []) (st.running.length + 1)
  throw (.exited (if isFatal then late else code))

def State.quit {α : Type} (st : State) (opts : Settings) (s : Raw) : Act α := do
  complain s
  st.leave opts 1

def canStart (job : Job) (name : Raw) : Act Bool := do
  let t := (← get).tree
  pure <| match t.findProgram job.cwd ((job.fromEnvironment? "PATH").getD
      "/bin:/usr/bin") name with
    | .ok p => (t.entryAt? job.cwd p).any Entry.isExecutable
    | .error _ => false

variable (opts : Settings) (st : State)

def State.start (args : List Raw) : Act State := do
  let name := opts.command.headD []
  let (st, fatal?) ←
    if opts.slots ≠ 0 && st.running.length ≥ opts.slots then st.waitOne name
    else pure (st, none)
  if let some (text, code) := fatal? then
    complain text
    st.leave opts code
  let shown := [' '].intercalate (args.map nameText)
  if opts.shows then report (shown ++ "\n")
  let job := (← read).job
  let input : Nat ← lift (modifyGet (·.addStream (.device .null)))
  let isStarting ← canStart job (args.headD [])
  let child ← inChild id fun job => become id args (job.connect 0 input)
  if !isStarting then
    match ← waitFor child with
    | .exited code => st.leave opts code
    | .killed _ => pure ()
  lift Run.tick
  pure { st with hasRun := true, running := st.running ++ [child] }

def State.flush : Act State := do
  let st ← st.start opts (opts.command ++ st.words.reverse)
  pure { st with words := [], size := opts.startSize, lines := 0 }

def replaceAll (mark v : Raw) : Nat → Raw → Raw
  | 0, s => s
  | _, [] => []
  | fuel + 1, c :: xs =>
    if !mark.isEmpty && mark.isPrefixOf (c :: xs) then
      v ++ replaceAll mark v fuel ((c :: xs).drop mark.length)
    else c :: replaceAll mark v fuel xs

def State.insert (mark : Raw) (st : State) (l : Raw) : Act State := do
  if mark.isEmpty then st.quit opts "command too long"
  let args := opts.command.take 1 ++ (opts.command.drop 1).map fun part =>
    replaceAll mark l (part.length + 1) part
  if Settings.sizeOf args > opts.room then st.quit opts "argument list too long"
  st.start opts args

def State.push (w : Raw) : Act State := do
  let k := w.length + 1
  let st ←
    if st.size + k > opts.room then
      if st.words.isEmpty then
        st.quit opts "cannot fit single argument within argument list size limit"
      else if opts.isStrict && (opts.count?.isSome || opts.lines?.isSome) then
        st.quit opts "argument list too long"
      else st.flush opts
    else pure st
  let st :=
    { st with
      words := w.takeWhile (· ≠ '\x00') :: st.words
      size := st.size + k }
  if opts.count?.any (st.words.length ≥ ·) then st.flush opts else pure st

/-! ## Reading -/

def State.flushIfPossible : Act State :=
  if opts.mark?.isSome || st.words.isEmpty || opts.isStrict then pure st
  else st.flush opts

def State.endLine : Act State := do
  match opts.mark? with
  | some mark => st.insert opts mark (st.text.reverse.takeWhile (· ≠ '\x00'))
  | none =>
    if opts.lines?.any (st.lines ≥ ·) && !st.words.isEmpty then st.flush opts
    else pure st

def State.restart (reading : Reading) : State :=
  { st with reading, text := [], length := 0, isSeen := false }

def State.quitUnmatched {α : Type} (opts : Settings) (mark : Char) (st : State) : Act α := do
  let st ← st.flushIfPossible opts
  st.quit opts ("unmatched " ++ (if mark = '"' then "double" else "single").toList
    ++ " quote; by default quotes are special to xargs unless you use the -0 option")

def State.addChar (c : Char) (st : State) : Act State := do
  if st.length + opts.startSize + 1 ≥ opts.room then
    let st ← st.flushIfPossible opts
    st.quit opts "argument line too long"
  if c = '\x00' && opts.delimiter?.isNone && !st.hasWarned then
    complain ("WARNING: a NUL character occurred in the input.  It cannot be passed through in "
      ++ "the argument list.  Did you mean to use the --null option?").toList
  pure { st with
    text := c :: st.text
    length := st.length + 1
    isSeen := true
    hasWarned := st.hasWarned || c = '\x00' }

def State.isEnd : Bool := opts.endWord? = some st.text.reverse

def State.delimitedChar (delim c : Char) (st : State) : Act (Next State) := do
  if c ≠ delim then .more <$> st.addChar opts c
  else
    let st := { st with lines := st.lines + 1 }
    let pushed ← match opts.mark? with
      | some _ => pure st
      | none => st.push opts st.text.reverse
    .more <$> (·.restart .gap) <$> ({ pushed with text := st.text } : State).endLine opts

def State.plainChar (c : Char) (st : State) : Act (Next State) := do
  if c = '\n' then
    let lines := if st.last = ' ' || st.last = '\t' then st.lines else st.lines + 1
    let st := { st with lines }
    if st.length = 0 && !st.isSeen then pure (.more { st with reading := .gap })
    else if st.isEnd opts then
      if st.isFirst then pure (.stop (st.restart .gap))
      else .stop <$> (·.restart .gap) <$> st.endLine opts
    else
      let pushed ← match opts.mark? with
        | some _ => pure st
        | none => st.push opts st.text.reverse
      let st ← ({ pushed with text := st.text } : State).endLine opts
      pure (.more { st.restart .gap with isFirst := true })
  else if opts.mark?.isNone && (c = ' ' || c = '\t') then
    if st.isEnd opts then
      if st.isFirst then pure (.stop (st.restart .gap))
      else .stop <$> (·.restart .gap) <$> st.endLine opts
    else
      let st ← st.push opts st.text.reverse
      pure (.more { st.restart .gap with isFirst := false })
  else if c = '\\' then pure (.more { st with reading := .escaped })
  else if c = '\'' || c = '"' then pure (.more { st with reading := .quoted c })
  else .more <$> st.addChar opts c

def State.wordChar (c : Char) (st : State) : Act (Next State) :=
  match st.reading with
  | .gap =>
    if c = ' ' || ('\t' ≤ c && c ≤ '\r') then pure (.more st)
    else ({ st with reading := .plain } : State).plainChar opts c
  | .plain => st.plainChar opts c
  | .quoted mark =>
    if c = '\n' then st.quitUnmatched opts mark
    else if c = mark then pure (.more { st with reading := .plain, isSeen := true })
    else .more <$> st.addChar opts c
  | .escaped => .more <$> ({ st with reading := .plain } : State).addChar opts c

def State.readChars (opts : Settings) : List Char → State → Act (Next State)
  | [], st => pure (.more st)
  | c :: xs, st => do
    let next ← match opts.delimiter? with
      | some delim => st.delimitedChar opts delim c
      | none => st.wordChar opts c
    match next with
    | .more st => readChars opts xs { st with last := c }
    | .stop st => pure (.stop st)

def State.readEnd : Act State := do
  if st.length = 0 then pure st
  else
    let isEnd := opts.delimiter?.isNone && st.isFirst && st.isEnd opts
    if let .quoted mark := st.reading then if opts.delimiter?.isNone then st.quitUnmatched opts mark
    if isEnd then pure st
    else
      let pushed ← match opts.mark? with
        | some _ => pure st
        | none => st.push opts st.text.reverse
      ({ pushed with text := st.text } : State).endLine opts

def run (input : Nat) : Act Nat := do
  let start : State := { size := opts.startSize }
  if opts.startSize > opts.room then
    start.quit opts "cannot fit single argument within argument list size limit"
  let (st, isOver) ← foldBlocks input 4096 (fun (st, _) bs => do
    match ← State.readChars opts (Raw.ofBytes bs) st with
    | .more st => pure (.more (st, false))
    | .stop st => pure (.stop (st, true))) Run.maxReads (start, false)
  let st ← if isOver then pure st else st.readEnd opts
  let st ←
    if opts.mark?.isNone && (!st.words.isEmpty || (opts.runsEmpty && !st.hasRun)) then st.flush opts
    else pure st
  let (code, _) ← st.waitAll (opts.command.headD []) (st.running.length + 1)
  pure code

/-! ## Options -/

def options : Options :=
  { plain := "0trx"
    valued := "nIdLPsE"
    optional := "i"
    long := "null=0 delimiter=d replace=i max-lines=L max-args=n no-run-if-empty=r max-chars=s " ++
      "verbose=t exit=x max-procs=P"
    mixed := false }

def numberOf (option : Char) (least : Int) (isFatal : Bool) (s : Raw) : Act Nat := do
  let trimmed := s.dropWhile fun c => c = ' ' || ('\t' ≤ c && c ≤ '\r')
  let (isNegative, ds) := match trimmed with
    | '-' :: ds => (true, ds)
    | '+' :: ds => (false, ds)
    | ds => (false, ds)
  match Raw.toNat? ds with
  | none =>
    abortUsage 1 ("invalid number \"" ++ s ++ "\" for -" ++ option :: " option")
  | some k =>
    let v : Int := if isNegative then -k else k
    if v < least then
      let msg := "value " ++ s ++ " for -" ++ option
        :: " option should be >= " ++ Raw.ofNat least.toNat
      if isFatal then abortUsage 1 msg
      complain msg
      pure least.toNat
    else pure v.toNat

def delimiterOf (s : Raw) : Act Char :=
  match s with
  | [c] => pure c
  | ['\\', 'n'] => pure '\n'
  | ['\\', 't'] => pure '\t'
  | ['\\', '0'] => pure '\x00'
  | ['\\', '\\'] => pure '\\'
  | '\\' :: _ => abort 1 ("Invalid escape sequence " ++ s ++ " in input delimiter specification.")
  | _ =>
    abort 1 ("Invalid input delimiter specification " ++ s
      ++ (": the delimiter must be either a single character or an escape sequence "
        ++ "starting with \\.").toList)

def Settings.add : Char × Raw → Act Settings
  | ('0', _) => pure { opts with delimiter? := some '\x00' }
  | ('d', s) => do pure { opts with delimiter? := some (← delimiterOf s) }
  | ('E', s) => pure { opts with endWord? := if s.isEmpty then none else some s }
  | ('I', s) => pure (replacing s)
  | ('i', s) => pure (replacing (if s.isEmpty then "\x7b\x7d" else s))
  | ('L', s) => do
    let k ← numberOf 'L' 1 true s
    pure { opts with lines? := some k, count? := none, mark? := none, isStrict := true }
  | ('n', s) => do
    let k ← numberOf 'n' 1 true s
    if opts.mark?.isSome && k = 1 then return opts
    pure { opts with count? := some k, lines? := none, mark? := none }
  | ('s', s) => do pure { opts with room := min 2091298 (← numberOf 's' 1 false s) }
  | ('t', _) => pure { opts with shows := true }
  | ('r', _) => pure { opts with runsEmpty := false }
  | ('x', _) => pure { opts with isStrict := true }
  | ('P', s) => do pure { opts with slots := ← numberOf 'P' 0 true s }
  | _ => pure opts
where
  replacing (mark : Raw) : Settings :=
    { opts with mark? := some mark, count? := none, lines? := none }

end Gathering

def xargs (args : List Raw) : Act Nat := do
  let flags ← flagsOr 1 Gathering.options args
  let command := if flags.operands.isEmpty then ["echo".toList] else flags.operands
  let opts ← flags.options.foldlM Gathering.Settings.add { command }
  let opts ←
    if opts.delimiter?.isSome && opts.endWord?.isSome then do
      complain "warning: the -E option has no effect if -0 or -d is used.\n".toList
      pure { opts with endWord? := none }
    else pure opts
  match ← openOperand "-" with
  | .ok i => Gathering.run opts i
  | .error e => abort 1 ("error closing file: " ++ faultText e)

end Assay.Tool
