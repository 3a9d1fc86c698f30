import Assay.Tool.Fields

/-! # Copying blocks -/

namespace Assay.Tool

/-! ## Blocks -/

structure BlockCopy where
  (source target : Option Raw := none)
  size : Nat := 512
  direct : Bool := false
  count : Option Nat := none
  (skip seek : Nat := 0)
  keeps : Bool := false
  status : String := ""

def blockNumber? (s : Raw) : Option Nat :=
  (s.splitOn 'x').foldl (fun product part =>
    match product, (if part = ['b'] then none else countOf? part) with
    | some product, some n => some (product * n)
    | _, _ => none) (some 1)

variable (copy : BlockCopy)

def BlockCopy.set (arg : Raw) : Act BlockCopy := do
  let name := arg.takeWhile (· ≠ '=')
  let v := arg.drop (name.length + 1)
  let n : Act Nat :=
    match blockNumber? v with
    | some n => pure n
    | none => abort 1 ("invalid number: " ++ cite v)
  let k : Act Nat := do
    let n ← n
    if n = 0 then abort 1 ("invalid number: " ++ cite v) else pure n
  if !arg.contains '=' then abortUsage 1 ("unrecognized operand " ++ cite arg)
  else
    match String.ofList name with
    | "if" => pure { copy with source := some v }
    | "of" => pure { copy with target := some v }
    | "bs" => pure { copy with size := ← k, direct := true }
    | "count" => pure { copy with count := some (← n) }
    | "skip" => pure { copy with skip := ← n }
    | "seek" => pure { copy with seek := ← n }
    | "conv" =>
      if v = "notrunc" then pure { copy with keeps := true }
      else abortUsage 1 ("invalid conversion: " ++ cite v)
    | "status" =>
      if ["none", "noxfer", "progress"].contains (String.ofList v) then
        pure { copy with status := String.ofList v }
      else abortUsage 1 ("invalid status level: " ++ cite v)
    | _ => abortUsage 1 ("unrecognized operand " ++ cite arg)

structure BlockCounts where
  (inWhole inPart outWhole outPart bytes : Nat := 0)

def BlockCounts.tell (counts : BlockCounts) (copy : BlockCopy) : Act Unit := do
  if copy.status ≠ "none" then
    let l (whole part : Nat) (what : String) : Raw :=
      Raw.ofNat whole ++ '+' :: Raw.ofNat part ++ " records " ++ what.toList ++ "\n"
    report (l counts.inWhole counts.inPart "in" ++ l counts.outWhole counts.outPart "out")
    if copy.status ≠ "noxfer" then
      report (Raw.ofNat counts.bytes ++ (if counts.bytes = 1 then " byte" else " bytes").toList
        ++ " copied, 0.0001 s, 1.0 MB/s\n")

def writeBlock (t : Nat) (counts : BlockCounts) (block : Bytes) : Act BlockCounts := do
  match ← writeTo t block with
  | some e =>
    complain ((if copy.direct then "error writing " else "writing to ").toList
      ++ quote (copy.target.getD "standard output") ++ ": " ++ faultText e)
    counts.tell copy
    throw (.exited 1)
  | none =>
    let counts := { counts with bytes := counts.bytes + block.length }
    pure (if block.length = copy.size then { counts with outWhole := counts.outWhole + 1 }
      else { counts with outPart := counts.outPart + 1 })

def writeBlocks (copy : BlockCopy) (t : Nat) : Nat → BlockCounts → Bytes → Act (BlockCounts × Bytes)
  | 0, counts, held => pure (counts, held)
  | fuel + 1, counts, held =>
    if held.length < copy.size then pure (counts, held)
    else do
      let counts ← writeBlock copy t counts (held.take copy.size)
      writeBlocks copy t fuel counts (held.drop copy.size)

def readBlock (i k : Nat) : Act Bytes := do
  match ← lift (Run.readSome i k) with
  | .error _ => pure []
  | .ok bs => pure bs

def copyBlocks (copy : BlockCopy) (src t : Nat) :
    Nat → Option Nat → BlockCounts → Bytes → Act (BlockCounts × Bytes)
  | 0, _, _, _ => lift Run.stuck
  | fuel + 1, l, counts, held => do
    if l = some 0 then pure (counts, held)
    else
      let block ← readBlock src copy.size
      if block.isEmpty then pure (counts, held)
      else
        lift Run.tick
        let counts :=
          if block.length = copy.size then { counts with inWhole := counts.inWhole + 1 }
          else { counts with inPart := counts.inPart + 1 }
        let l := l.map (· - 1)
        if copy.direct then
          let counts ← writeBlock copy t counts block
          copyBlocks copy src t fuel l counts []
        else
          let held := held ++ block
          let (counts, held) ← writeBlocks copy t (held.length + 1) counts held
          copyBlocks copy src t fuel l counts held

def skipBytes (i : Nat) : Nat → Nat → Act Nat
  | 0, l => pure l
  | fuel + 1, l => do
    if l = 0 then pure 0
    else
      match ← lift (Run.readSome i (min l 65536)) with
      | .error _ | .ok [] => pure l
      | .ok bs => skipBytes i fuel (l - bs.length)

def dd (args : List Raw) : Act Nat := do
  let ops := if args.head? = some "--" then args.drop 1 else args
  if let some ('-' :: x :: xs) := ops.head? then
    abortUsage 1 (if x = '-' then "unrecognized option '--" ++ xs ++ "'"
      else "invalid option -- '" ++ [x, '\''])
  let copy ← ops.foldlM BlockCopy.set {}
  let opened (path : Raw) (res : Except SysFault Nat) : Act Nat :=
    match res with
    | .ok i => pure i
    | .error e => abort 1 ("failed to open " ++ quote path ++ ": " ++ faultText e)
  let src ← match copy.source with
    | some path => opened path (← openOperand path)
    | none =>
      match ← openOperand "-" with
      | .ok i => pure i
      | .error e => abort 1 ("error reading 'standard input': " ++ faultText e)
  let seekBytes := copy.seek * copy.size
  let t ← match copy.target with
    | none =>
      match (← read).job.stream? 1 with
      | some i => pure i
      | none => abort 1 ("closing output file: " ++ faultText .badDescriptor)
    | some path =>
      let keeps := copy.keeps || seekBytes > 0
      let opening : Machine.Opening := { Machine.Opening.toWrite with truncates := !keeps }
      let i ← opened path (← openStream opening path)
      if seekBytes > 0 then
        if let some (.file p _ access) := (← get).streams[i]? then
          modify fun m =>
            let m := match m.tree.get? p with
              | some (.file content mode) =>
                let kept := if copy.keeps then content else content.take seekBytes
                m.putFile p (.file kept mode)
              | _ => m
            m.setStream i (.file p seekBytes access)
      pure i
  let skipCount := copy.skip * copy.size
  let l ← skipBytes src (skipCount / 4096 + 2) skipCount
  if l > 0 then complain (copy.source.getD "standard input" ++ ": cannot skip to specified offset")
  let (counts, held) ← copyBlocks copy src t Run.maxReads copy.count {} []
  let counts ← if held.isEmpty then pure counts else writeBlock copy t counts held
  if copy.source.isSome then closeStream src
  if copy.target.isSome then closeStream t
  counts.tell copy
  pure 0

/-! ## Pieces -/

def pieceName (ds : Bool) : Nat → Nat → Raw
  | 0, _ => []
  | k + 1, n =>
    let base := if ds then 10 else 26
    let x := if ds then '0' else 'a'
    pieceName ds k (n / base) ++ [Char.ofNat (x.toNat + n % base)]

def piecesOf {α : Type} (k : Nat) : Nat → List α → List (List α)
  | 0, _ => []
  | fuel + 1, ys => if ys.isEmpty then [] else ys.take k :: piecesOf k fuel (ys.drop k)

def split (args : List Raw) : Act Nat := do
  let flags ← flagsOf "d" "abl" "suffix-length=a bytes=b lines=l numeric-suffixes=d"
    (countArgs args)
  let n (option : Char) (what : String) : Act (Option Nat) :=
    match flags.value? option with
    | none => pure none
    | some s =>
      match countOf? s with
      | some (n + 1) => pure (some (n + 1))
      | _ => abort 1 ("invalid number of " ++ what.toList ++ ": " ++ cite s)
  let bytes ← n 'b' "bytes"
  let ls := (← n 'l' "lines").getD 1000
  if let some extra := flags.operands[2]? then abortUsage 1 ("extra operand " ++ cite extra)
  let src := flags.operands.headD "-"
  let lead := flags.operands[1]?.getD ['x']
  let w := ((flags.value? 'a').bind Raw.toNat?).getD 2
  match ← takeOperand src with
  | .error e =>
    abort 1 (if src = "-" then operandFault src e
      else "cannot open " ++ quote src ++ " for reading: " ++ faultText e)
  | .ok content =>
    let bs := Raw.ofBytes content
    let ps := match bytes with
      | some sz => piecesOf sz (bs.length + 1) bs
      | none => (piecesOf ls (bs.length + 1) bs.lines).map List.flatten
    for (piece, i) in ps.zipIdx do
      if i ≥ Nat.pow (if flags.has 'd' then 10 else 26) w then
        abort 1 "output file suffixes exhausted"
      let p := lead ++ pieceName (flags.has 'd') w i
      match ← openStream .toWrite p with
      | .error e => abort 1 (operandFault p e)
      | .ok t =>
        let _ ← writeTo t (Raw.toBytes piece)
        closeStream t
    pure 0
where
  countArgs : List Raw → List Raw
    | ('-' :: x :: xs) :: args =>
      if (x :: xs).all Char.isDigit then ("-l" ++ x :: xs) :: countArgs args
      else ('-' :: x :: xs) :: countArgs args
    | arg :: args => arg :: countArgs args
    | [] => []

end Assay.Tool
