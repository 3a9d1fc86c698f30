import Assay.Tool.Basic

/-! # Ends of files -/

namespace Assay.Tool

structure Portion where
  (inBytes turned : Bool := false)
  count : Nat := 10

inductive Headings where
  | always | several | never
  deriving DecidableEq

def portionUnits : String := "bkKmMGTPEZY0"

def portionCount (inBytes : Bool) (s : Raw) : Act Nat :=
  amountOr 1 ("invalid number of " ++ if inBytes then "bytes" else "lines") portionUnits 0
    Amount.largest s

def recordsLength (ending : UInt8) (k taken : Nat) : Bytes → Nat × Nat
  | [] => (taken, k)
  | b :: xs =>
    match k with
    | 0 => (taken, 0)
    | k + 1 =>
      if b = ending then recordsLength ending k (taken + 1) xs
      else recordsLength ending (k + 1) (taken + 1) xs

variable (ending : UInt8)

def recordCount (bs : Bytes) : Nat :=
  bs.count ending + (if bs.getLast?.all (· = ending) then 0 else 1)

variable (portion : Portion)

def lengthWithout (bs : Bytes) : Nat :=
  if portion.inBytes then bs.length - portion.count
  else (recordsLength ending (recordCount ending bs - portion.count) 0 bs).1

def heading (isFirst : Bool) (arg : Raw) : Raw :=
  let name := if arg = ['-'] then "standard input".toList else arg
  (if isFirst then [] else ['\n']) ++ "==> " ++ name ++ " <==\n"

def endOptions : String := "lines=n bytes=c quiet=q silent=q verbose=v zero-terminated=z"

def headingsOf (flags : Flags) (otherwise : Headings) : Headings :=
  match flags.last? ['q', 'v'] with
  | some 'q' => .never
  | some _ => .always
  | none => otherwise

def showEnds (problem : String) (headings : Headings) (args : List Raw) (reads : Bool)
    (action : Nat → Act Unit) : Act Nat := do
  let named := headings = .always || (headings = .several && args.length > 1)
  let mut code := 0
  let mut first := true
  for arg in args do
    match ← openOperand arg with
    | .error .isDirectory =>
      if named then emit (heading first arg)
      first := false
      if reads then
        complain ("error reading " ++ quote arg ++ ": " ++ faultText .isDirectory)
        code := 1
    | .error e =>
      complain (if arg = "-" then problem.toList ++ " 'standard input': " ++ faultText e
        else "cannot open " ++ quote arg ++ " for reading: " ++ faultText e)
      code := 1
    | .ok i =>
      if named then emit (heading first arg)
      first := false
      action i
      closeOperand arg i
  closeInput "-" args code

def copyBytes (i : Nat) : Nat → Nat → Act Unit
  | 0, _ => lift Run.stuck
  | fuel + 1, l =>
    if l = 0 then pure ()
    else do
      match ← lift (Run.readSome i (min l Run.blockSize)) with
      | .error _ | .ok [] => pure ()
      | .ok bs =>
        lift Run.tick
        emitBytes bs
        copyBytes i fuel (l - bs.length)

def headOfStream (i : Nat) : Act Unit := do
  if portion.turned then
    let bs := (← lift (Run.readAll i)).toOption.getD []
    emitBytes (bs.take (lengthWithout ending portion bs))
  else if portion.inBytes then copyBytes i Run.maxReads portion.count
  else if portion.count = 0 then pure ()
  else
    let _ ← foldBlocks i 8192 (fun l bs => do
      let (len, l) := recordsLength ending l 0 bs
      emitBytes (bs.take len)
      if len < bs.length then modify (·.unread i (bs.length - len))
      pure (if l = 0 then .stop 0 else .more l)) Run.maxReads portion.count

/-- A number with letters as the first option, such as `-5` or `-2q`: the portion, when names are
shown, and what ends a record. -/
def leadingCount? (w : Raw) : Option (Raw × Raw) :=
  match w with
  | '-' :: xs =>
    let ds := xs.takeWhile Char.isDigit
    if ds.isEmpty then none else some (ds, xs.drop ds.length)
  | _ => none

def refuseDigits (s : String) (points : Bool) (flags : Flags) : Act Unit := do
  let some (d, _) := flags.options.find? (·.1.isDigit) | pure ()
  complain (s.toList ++ " -- " ++ [d])
  if points then pointToHelp
  throw (.exited 1)

def head (args : List Raw) : Act Nat := do
  let (ds, cs, args) := match args.head?.bind leadingCount? with
    | some (ds, cs) => (some ds, cs, args.drop 1)
    | none => (none, [], args)
  if let some c := cs.find? fun c => !"cbkmlqvz".contains c then
    abortUsage 1 ("invalid trailing option -- " ++ [c])
  let kind := cs.reverse.find? fun c => "cbkml".contains c
  let inBytes := kind.any (· ≠ 'l')
  let start : Portion ← match ds with
    | none => pure {}
    | some ds =>
      let unit := match cs.reverse.find? fun c => "cbkm".contains c with
        | some 'c' | none => []
        | some c => [c]
      pure { inBytes, count := ← portionCount inBytes (ds ++ unit) }
  let flags ← flagsOr 1 { plain := "qvz0123456789", valued := "nc", long := endOptions } args
  refuseDigits "invalid trailing option" true flags
  let mut portion := start
  for (option, s) in flags.options do
    if option = 'n' || option = 'c' then
      let turned := s.head? = some '-'
      let count ← portionCount (option = 'c') (if turned then s.drop 1 else s)
      portion := { inBytes := option = 'c', turned, count }
  let early := match cs.reverse.find? fun c => c = 'q' || c = 'v' with
    | some 'q' => Headings.never
    | some _ => .always
    | none => .several
  let ending := if flags.has 'z' || cs.contains 'z' then 0 else 10
  showEnds "error reading" (headingsOf flags early) (orInput flags.operands)
    (portion.turned || portion.count > 0) (headOfStream ending portion)

def tailOfStream (i : Nat) : Act Unit := do
  let bs := (← lift (Run.readAll i)).toOption.getD []
  let skipped :=
    if !portion.turned then lengthWithout ending portion bs
    else if portion.inBytes then portion.count - 1
    else (recordsLength ending (portion.count - 1) 0 bs).1
  emitBytes (bs.drop skipped)

def leadingPortion? : List Raw → Option (Portion × Bool)
  | w :: others =>
    let isAlone := match others with
      | [] => true
      | [y] => !(y.head? = some '-' && y.length > 1)
      | mark :: more => mark = "--" && more.length ≤ 1
    let isAlone := isAlone || (others.head? = some "--" && others.length ≤ 2)
    match w with
    | sgn :: xs =>
      let (ds, post) := xs.span Char.isDigit
      let unit := match post with
        | 'b' :: _ => some 'b'
        | 'c' :: _ => some 'c'
        | 'l' :: _ => some 'l'
        | _ => none
      let post := if unit.isSome then post.drop 1 else post
      let isNumber := sgn = '+' || (sgn = '-' && xs ≠ [] && xs ≠ "c")
      if !isAlone || !isNumber || !(post = [] || post = "f") then none
      else
        let k := if ds.isEmpty then 10 else (Raw.toNat? ds).getD 10
        some
          ({ inBytes := unit = some 'b' || unit = some 'c', turned := sgn = '+',
             count := if unit = some 'b' then k * 512 else k }, post = "f")
    | [] => none
  | [] => none

def tailOptions : Options where
  plain := "qvfFz0123456789"
  valued := "ncs\x01\x02"
  long := "follow=f retry=\x03 pid=\x01 sleep-interval=s max-unchanged-stats=\x02 " ++ endOptions

def tail (args : List Raw) : Act Nat := do
  let (start, args) := match leadingPortion? args with
    | some (portion, follows) => (portion, (if follows then ["-f".toList] else []) ++ args.drop 1)
    | none => ({}, args)
  let flags ← flagsOr 1 tailOptions args
  refuseDigits "option used in invalid context" false flags
  let mut portion : Portion := start
  for (option, s) in flags.options do
    match option with
    | 'n' | 'c' =>
      let turned := portion.turned || s.head? = some '+'
      let count ← portionCount (option = 'c') (if s.head? = some '-' then s.drop 1 else s)
      portion := { inBytes := option = 'c', turned, count }
    | '\x01' => let _ ← amountOr 1 "invalid PID" "" 0 2147483647 s
    | '\x02' =>
      let _ ← amountOr 1 "invalid maximum number of unchanged stats between opens" "" 0
        Amount.largest s
    | 's' =>
      if !(s.head?.any Char.isDigit || s.head? = some '.') then
        abort 1 ("invalid number of seconds: " ++ cite s)
    | _ => pure ()
  let follows := flags.has 'f' || flags.has 'F'
  if flags.has '\x03' && !follows then
    complain "warning: --retry ignored; --retry is useful only when following"
  if flags.has '\x01' && !follows then
    complain "warning: PID ignored; --pid=PID is useful only when following"
  let ops := orInput flags.operands
  if flags.has 'F' && ops.contains "-" then abort 1 "cannot follow '-' by name"
  if portion.count = 0 && !portion.turned && !follows then pure 0
  else
    let code ← showEnds "cannot fstat" (headingsOf flags .several) ops true
      (tailOfStream (if flags.has 'z' then 0 else 10) portion)
    if follows && flags.operands ≠ [] && code = 0 then lift Run.stuck
    pure code

end Assay.Tool
