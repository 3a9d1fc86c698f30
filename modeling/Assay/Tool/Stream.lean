import Assay.Tool.Basic

/-! # Tools for streams -/

namespace Assay.Tool

def placeOfStream (i : Nat) : Act (Option Place) := do
  match (← get).streams[i]? with
  | some (.file p _ _) => pure (some p)
  | _ => pure none

def placeOf (fd : Nat) : Act (Option Place) := do
  let some i := (← read).job.stream? fd | pure none
  placeOfStream i

def operandFault (arg : Raw) (err : SysFault) : Raw := nameText arg ++ ": " ++ faultText err

/-! ## Copying -/

def visible (c : Char) : Raw :=
  let plain (code : Nat) : Raw :=
    if code < 32 then ['^', Char.ofNat (code + 64)]
    else if code = 127 then "^?"
    else [Char.ofNat code]
  let code := c.toNat
  if code < 128 then plain code else "M-" ++ plain (code - 128)

structure CopyStyle where
  (numbersAll numbersFilled marksEnds marksTabs showsHidden squeezes : Bool := false)
  deriving DecidableEq

/-- What was copied so far: the number of lines, whether the last line had no end, and how many
empty lines have just been copied. -/
structure Copied where
  count : Nat := 0
  within : Bool := false
  blanks : Nat := 0

def inColumn (w : Nat) (s : Raw) : Raw := List.replicate (w - s.length) ' ' ++ s

def copyLine (style : CopyStyle) (copied : Copied) (ended : Raw) : Copied × Raw :=
  let l := ended.chomp
  let hasEnd := ended.getLast? = some '\n'
  let isBlank := l.isEmpty && hasEnd && !copied.within
  if isBlank && style.squeezes && copied.blanks ≥ 1 then (copied, [])
  else
    let numbered := !copied.within && (if style.numbersFilled then !isBlank else style.numbersAll)
    let count := if numbered then copied.count + 1 else copied.count
    let lead := if numbered then inColumn 6 (Raw.ofNat count) ++ "\t" else []
    let body := l.flatMap fun c =>
      if c = '\t' then if style.marksTabs then "^I" else [c]
      else if style.showsHidden then visible c
      else [c]
    let body := if style.marksEnds && !style.showsHidden && hasEnd && body.getLast? = some '\r' then
        body.dropLast ++ "^M"
      else body
    let fin : Raw := if hasEnd then if style.marksEnds then "$\n" else "\n" else []
    ({ count, within := !hasEnd, blanks := if isBlank then copied.blanks + 1 else 0 },
      lead ++ body ++ fin)

def isOutputFile (i : Nat) : Act Bool := do
  match ← placeOfStream i, ← placeOf 1 with
  | some src, some t =>
    match (← get).tree.get? t with
    | some (.file content _) => pure (src = t && !content.isEmpty)
    | _ => pure false
  | _, _ => pure false

variable (args : List Raw)

def cat : Act Nat := do
  let flags ← flagsOf "AbeEnstTuv" ""
    ("show-all=A number-nonblank=b show-ends=E number=n squeeze-blank=s show-tabs=T " ++
      "show-nonprinting=v") args
  let all := flags.has 'A'
  let style : CopyStyle :=
    { numbersAll := flags.has 'n', numbersFilled := flags.has 'b'
      marksEnds := all || flags.has 'e' || flags.has 'E'
      marksTabs := all || flags.has 't' || flags.has 'T'
      showsHidden := all || flags.has 'e' || flags.has 't' || flags.has 'v'
      squeezes := flags.has 's' }
  let mut code := 0
  let mut copied : Copied := {}
  for arg in orInput flags.operands do
    match ← openOperand arg with
    | .error err =>
      complain (operandFault arg err)
      code := 1
    | .ok i =>
      if ← isOutputFile i then
        complain (nameText arg ++ ": input file is output file")
        code := 1
      else if style = {} then
        let _ ← foldBlocks i Run.blockSize (fun _ bs => do
          emitBytes bs
          pure (.more ())) Run.maxReads ()
      else
        let res ← foldLines i copied fun copied l => do
          let (copied, s) := copyLine style copied l
          emit s
          pure (.more copied)
        copied := match res with
          | .more copied => copied
          | .stop copied => copied
      closeOperand arg i
  closeInput "closing standard input" flags.operands code

def tee : Act Nat := do
  let flags ← flagsOr 1
    { plain := "aip", optional := "\x01"
      long := "append=a ignore-interrupts=i output-error=\x01" } args
  let modes := "warn warn-nopipe exit exit-nopipe".splitOn
  if let some s := flags.value? '\x01' then
    if !s.isEmpty && !modes.any fun mode => s.isPrefixOf mode.toList then
      refuseChoice s "--output-error" modes
  let opening := if flags.has 'a' then Machine.Opening.toAppend else .toWrite
  let mut code := 0
  let mut targets : List (Raw × Option Nat) := []
  for arg in flags.operands do
    match ← openStream opening arg with
    | .ok i => targets := targets ++ [(nameText arg, some i)]
    | .error err =>
      complain (operandFault arg err)
      code := 1
  match (← read).job.stream? 0 with
  | none =>
    complain "read error: Bad file descriptor"
    closeInput "standard input" [] 1
  | some i =>
    let output := ("'standard output'".toList, (← read).job.stream? 1)
    let left ← foldBlocks i Run.blockSize (fun targets bs => do
      let mut left := []
      for (name, t) in targets do
        let fault? ← match t with
          | some t => writeTo t bs
          | none => pure (some .badDescriptor)
        let some err := fault? | left := left ++ [(name, t)]
        complain (name ++ ": ".toList ++ faultText err)
      pure (.more left)) Run.maxReads (output :: targets)
    pure (if left.length ≤ targets.length then 1 else code)

/-! ## Counting -/

structure Counts where
  (lines words chars bytes longest current : Nat := 0)
  inWord : Bool := false

namespace Counts

def step (counts : Counts) (b : UInt8) : Counts :=
  let blank := b = 32 || (9 ≤ b && b ≤ 13)
  let shown := 32 ≤ b && b < 127
  let isEnd := b = 10 || b = 13 || b = 12
  let current := if isEnd then 0
    else if b = 9 then counts.current + (8 - counts.current % 8)
    else if shown then counts.current + 1
    else counts.current
  { lines := if b = 10 then counts.lines + 1 else counts.lines
    words := if !blank && shown && !counts.inWord then counts.words + 1 else counts.words
    chars := counts.chars + 1
    bytes := counts.bytes + 1
    longest := max counts.longest current
    current
    inWord := if blank then false else counts.inWord || shown }

def add (l r : Counts) : Counts :=
  { lines := l.lines + r.lines
    words := l.words + r.words
    chars := l.chars + r.chars
    bytes := l.bytes + r.bytes
    longest := max l.longest r.longest }

end Counts

def listedOperands (p : Raw) (ops : List Raw) : Act (List Raw) := do
  if let extra :: _ := ops then
    complain ("extra operand " ++ quote extra)
    report "file operands cannot be combined with --files0-from\n"
    pointToHelp
    throw (.exited 1)
  match ← takeOperand p with
  | .ok bs =>
    let ns := (Raw.ofBytes bs).splitOn '\x00'
    pure (if ns.getLast? = some [] then ns.dropLast else ns)
  | .error err => abort 1 ("cannot open " ++ quote p ++ " for reading: " ++ faultText err)

def wc : Act Nat := do
  let flags ← flagsOr 1
    { plain := "clwmL", valued := "\x01"
      long := "bytes=c chars=m lines=l words=w max-line-length=L files0-from=\x01" } args
  let all := !flags.options.any (·.1 ≠ '\x01')
  let chosen (counts : Counts) : List Nat :=
    (if all || flags.has 'l' then [counts.lines] else [])
      ++ (if all || flags.has 'w' then [counts.words] else [])
      ++ (if flags.has 'm' then [counts.chars] else [])
      ++ (if all || flags.has 'c' then [counts.bytes] else [])
      ++ (if flags.has 'L' then [counts.longest] else [])
  let (ops, isNamed) ← match flags.value? '\x01' with
    | some path => pure (← listedOperands path flags.operands, true)
    | none => pure (orInput flags.operands, !flags.operands.isEmpty)
  let mut plain := true
  let mut size := 0
  for arg in ops do
    let e ←
      if arg = "-" then
        match ← placeOf 0 with
        | some p => pure (((← get).tree.get? p))
        | none => pure (if ((← read).job.stream? 0).isNone then some (.file [] 0) else none)
      else
        match ← locate .follow arg with
        | .ok (_, e) => pure (some e)
        | .error _ => pure (some (.file [] 0))
    match e with
    | some (.file content _) => size := size + content.length
    | _ => plain := false
  let w :=
    if ops.length = 1 && (chosen {}).length = 1 then 1
    else if plain then (Raw.ofNat size).length
    else 7
  let row (counts : Counts) (name : Raw) : Raw :=
    let cells := (chosen counts).map fun k => inColumn w (Raw.ofNat k)
    [' '].intercalate cells ++ (if name.isEmpty then [] else ' ' :: name)
  let mut code := 0
  let mut total : Counts := {}
  for arg in ops do
    let name := if isNamed then arg else []
    match ← takeOperand arg with
    | .ok bs =>
      let counts := bs.foldl Counts.step {}
      emitLine (row counts name)
      total := total.add counts
    | .error err =>
      let isInput := arg = "-"
      complain (operandFault (if isInput then "standard input" else arg) err)
      if isInput || err = .isDirectory then emitLine (row {} name)
      code := 1
  if ops.length > 1 then emitLine (row total "total")
  closeInput "-" flags.operands code

end Assay.Tool
