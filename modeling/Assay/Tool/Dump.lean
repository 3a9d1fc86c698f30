import Assay.Tool.Stream

/-! # Bytes as text -/

namespace Assay.Tool

/-! ## Dumps -/

inductive FieldKind where
  | signed | unsigned | octal | hexadecimal | named | chars
  deriving DecidableEq

structure DumpStyle where
  manner : FieldKind
  size : Nat
  trailed : Bool := false

namespace DumpStyle

def width (style : DumpStyle) : Nat :=
  match style.manner, style.size with
  | .named, _ | .chars, _ => 3
  | .octal, 1 => 3
  | .octal, 2 => 6
  | .octal, 4 => 11
  | .octal, _ => 22
  | .hexadecimal, k => 2 * k
  | .unsigned, 1 => 3
  | .unsigned, 2 => 5
  | .unsigned, 4 => 10
  | .unsigned, _ => 20
  | .signed, 1 => 4
  | .signed, 2 => 6
  | .signed, 4 => 11
  | .signed, _ => 20

def charNames : List String :=
  ("nul soh stx etx eot enq ack bel bs ht nl vt ff cr so si dle dc1 dc2 dc3 dc4 nak syn etb can em " ++
    "sub esc fs gs rs us sp").splitOn

def zeroFilled (base w n : Nat) : Raw :=
  let ds := Nat.toDigits base n
  List.replicate (w - ds.length) '0' ++ ds

def charText (code : Nat) : Raw :=
  match code with
  | 0 => "\\0"
  | 7 => "\\a"
  | 8 => "\\b"
  | 9 => "\\t"
  | 10 => "\\n"
  | 11 => "\\v"
  | 12 => "\\f"
  | 13 => "\\r"
  | _ => if 32 ≤ code && code < 127 then [Char.ofNat code] else zeroFilled 8 3 code

def field (style : DumpStyle) (bs : Bytes) : Raw :=
  let filled := bs ++ List.replicate (style.size - bs.length) 0
  let n := filled.reverse.foldl (fun n b => n * 256 + b.toNat) 0
  match style.manner with
  | .octal => zeroFilled 8 style.width n
  | .hexadecimal => zeroFilled 16 style.width n
  | .unsigned => Raw.ofNat n
  | .signed =>
    let limit := Nat.pow 256 style.size
    Raw.ofInt (if n * 2 ≥ limit then (n : Int) - limit else n)
  | .chars => charText n
  | .named =>
    let code := n % 128
    if code = 127 then "del"
    else
      match charNames[code]? with
      | some name => name.toList
      | none => [Char.ofNat code]

def splitSize : Raw → Option (Nat × Raw)
  | 'C' :: xs => some (1, xs)
  | 'S' :: xs => some (2, xs)
  | 'I' :: xs => some (4, xs)
  | 'L' :: xs => some (8, xs)
  | cs =>
    let ds := cs.takeWhile Char.isDigit
    if ds.isEmpty then some (4, cs)
    else ((Raw.toNat? ds).filter [1, 2, 4, 8].contains).map (·, cs.drop ds.length)

def readAll (whole : Raw) : Nat → Raw → Except Raw (List DumpStyle)
  | 0, _ | _, [] => .ok []
  | fuel + 1, ch :: xs =>
    let trail (manner : FieldKind) (size : Nat) (xs : Raw) :
        Except Raw (List DumpStyle) := do
      let (trailed, xs) : Bool × Raw := match xs with
        | 'z' :: xs => (true, xs)
        | xs => (false, xs)
      .ok ({ manner, size, trailed } :: (← readAll whole fuel xs))
    let sized (manner : FieldKind) : Except Raw (List DumpStyle) :=
      match splitSize xs with
      | some (size, xs) => trail manner size xs
      | none =>
        .error ("invalid type string " ++ cite whole ++ ";\nthis system doesn't provide a "
          ++ xs.takeWhile Char.isDigit ++ "-byte integral type")
    match ch with
    | 'a' => trail .named 1 xs
    | 'c' => trail .chars 1 xs
    | 'd' => sized .signed
    | 'u' => sized .unsigned
    | 'o' => sized .octal
    | 'x' => sized .hexadecimal
    | _ => .error ("invalid character '" ++ [ch] ++ "' in type string " ++ cite whole)

end DumpStyle

structure Dump where
  styles : List DumpStyle
  perLine : Nat := 16
  address : Nat → Raw
  all : Bool := false

namespace Dump

variable (dump : Dump)

def blockWidth : Nat :=
  dump.styles.foldl (fun most style => max most ((style.width + 1) * (dump.perLine / style.size))) 0

def fieldsOnto (style : DumpStyle) (fs pad : Nat) : Nat → Nat → Bytes → Raw
  | 0, _, _ => []
  | l + 1, room, bs =>
    if bs.isEmpty then []
    else
      let next := pad * l / fs
      inColumn (room - next + style.width) (style.field (bs.take style.size))
        ++ fieldsOnto style fs pad l next (bs.drop style.size)

def styled (style : DumpStyle) (bs : Bytes) : Raw :=
  let fs := dump.perLine / style.size
  let pad := dump.blockWidth - style.width * fs
  let shown := fieldsOnto style fs pad fs pad bs
  if style.trailed then
    let blanks := (dump.perLine - bs.length) / style.size * (style.width + 1)
    let c (b : UInt8) : Char := if 32 ≤ b && b < 127 then Char.ofNat b.toNat else '.'
    shown ++ List.replicate blanks ' ' ++ "  >" ++ bs.map c ++ "<"
  else shown

def line (off : Nat) (bs : Bytes) : Raw :=
  let address := dump.address off
  (dump.styles.zipIdx.map fun (style, i) =>
    (if i = 0 then address else List.replicate address.length ' ')
      ++ dump.styled style bs ++ "\n").flatten

def linesOnto (dump : Dump) (out : List Raw) (last : Option Bytes) (ms : Bool) :
    Nat → Nat → Bytes → List Raw
  | 0, _, _ => out
  | fuel + 1, off, bs =>
    if bs.isEmpty then out
    else
      let now := bs.take dump.perLine
      let xs := bs.drop dump.perLine
      if !dump.all && last = some now && now.length = dump.perLine then
        linesOnto dump (if ms then out else "*\n" :: out) last true fuel (off + now.length) xs
      else
        linesOnto dump (dump.line off now :: out) (some now) false fuel (off + now.length) xs

def text (off : Nat) (bs : Bytes) : Raw :=
  let ls := dump.linesOnto [] none false (bs.length + 1) off bs
  let last := dump.address (off + bs.length)
  ls.reverse.flatten ++ (if last.isEmpty then [] else last ++ ['\n'])

end Dump

def dumpLetter? : Char → Option DumpStyle
  | 'a' => some { manner := .named, size := 1 }
  | 'b' => some { manner := .octal, size := 1 }
  | 'c' => some { manner := .chars, size := 1 }
  | 'd' => some { manner := .unsigned, size := 2 }
  | 'i' => some { manner := .signed, size := 4 }
  | 'l' => some { manner := .signed, size := 8 }
  | 'o' => some { manner := .octal, size := 2 }
  | 's' => some { manner := .signed, size := 2 }
  | 'x' => some { manner := .hexadecimal, size := 2 }
  | _ => none

def od (args : List Raw) : Act Nat := do
  let flags ← flagsOr 1
    { plain := "abcdilosvx", valued := "AjNt", optional := "w"
      long := "skip-bytes=j address-radix=A read-bytes=N format=t output-duplicates=v width=w" }
    args
  let mut styles : List (List DumpStyle) := []
  for (option, v) in flags.options do
    if option = 't' then
      match DumpStyle.readAll v (v.length + 1) v with
      | .ok read => styles := read :: styles
      | .error s => abort 1 s
    else if let some style := dumpLetter? option then styles := [style] :: styles
  let styles' := styles.reverse.flatten
  let styles' := if styles'.isEmpty then [{ manner := .octal, size := 2 }] else styles'
  let k (option : Char) : Act (Option Nat) :=
    match flags.value? option with
    | none => pure none
    | some s =>
      match Amount.read "bEGKkMmPTYZ0" s with
      | .ok n => pure (some n)
      | .error _ => abort 1 ("invalid -" ++ [option] ++ " argument " ++ ("'" ++ s ++ "'"))
  let limit ← k 'N'
  let address ← match flags.value? 'A' with
    | none | some ('o' :: _) => pure (DumpStyle.zeroFilled 8 7)
    | some ('d' :: _) => pure (DumpStyle.zeroFilled 10 7)
    | some ('x' :: _) => pure (DumpStyle.zeroFilled 16 6)
    | some ('n' :: _) => pure fun _ => []
    | some s =>
      abort 1 ("invalid output address radix '" ++ s.take 1
        ++ "'; it must be one character from [doxn]")
  let skip := (← k 'j').getD 0
  let least := styles'.foldl (fun sz style => Nat.lcm sz style.size) 1
  let perLine ← match flags.value? 'w' with
    | none => pure (max 16 least)
    | some s =>
      let wanted ← match if s.isEmpty then .ok 32 else Amount.read "" s with
        | .ok wanted => pure wanted
        | .error _ => abort 1 ("invalid -w argument " ++ ("'" ++ s ++ "'"))
      if wanted = 0 || wanted % least ≠ 0 then
        complain ("warning: invalid width " ++ Raw.ofNat wanted ++ "; using "
          ++ Raw.ofNat least ++ " instead")
        pure least
      else pure wanted
  let mut code := 0
  let mut taken : List Bytes := []
  let mut opened := false
  for arg in orInput flags.operands do
    match ← takeOperand arg with
    | .error e =>
      let isInput := arg = "-"
      complain (operandFault (if isInput then "standard input" else arg) e)
      code := 1
      if isInput || e = .isDirectory then opened := true
    | .ok bs =>
      taken := bs :: taken
      opened := true
  if !opened then return code
  let bs := taken.reverse.flatten
  if skip > bs.length then abort 1 "cannot skip past end of combined input"
  let bs := bs.drop skip
  let bs := match limit with
    | some limit => bs.take limit
    | none => bs
  let dump : Dump := { styles := styles', perLine, address, all := flags.has 'v' }
  emit (dump.text skip bs)
  closeInput "standard input" flags.operands code

/-! ## Alphabets -/

structure Alphabet where
  letters : List Char
  (bits group : Nat)
  readsCut : Bool
  partials : List Nat

def alphabet64 : Alphabet where
  letters := "ABCDEFGHIJKLMNOPQRSTUVWXYZabcdefghijklmnopqrstuvwxyz0123456789+/"
  bits := 6
  group := 4
  readsCut := true
  partials := [2, 3]

def alphabet32 : Alphabet where
  letters := "ABCDEFGHIJKLMNOPQRSTUVWXYZ234567"
  bits := 5
  group := 8
  readsCut := false
  partials := [2, 4, 5, 7]

namespace Alphabet

def bytesPerGroup (alphabet : Alphabet) : Nat := alphabet.group * alphabet.bits / 8

def encodeGroup (alphabet : Alphabet) (bs : Bytes) : Raw :=
  let n := bs.foldl (fun n b => n * 256 + b.toNat) 0
  let bits := bs.length * 8
  let k := (bits + alphabet.bits - 1) / alphabet.bits
  let shifted := n * Nat.pow 2 (k * alphabet.bits - bits)
  let cs := (List.range k).map fun i =>
    let d := shifted / Nat.pow 2 (alphabet.bits * (k - 1 - i)) % Nat.pow 2 alphabet.bits
    alphabet.letters[d]?.getD '='
  cs ++ List.replicate (alphabet.group - k) '='

def encode (alphabet : Alphabet) : Nat → Bytes → List Raw
  | 0, _ => []
  | fuel + 1, bs =>
    if bs.isEmpty then []
    else
      alphabet.encodeGroup (bs.take alphabet.bytesPerGroup)
        :: encode alphabet fuel (bs.drop alphabet.bytesPerGroup)

def decode (alphabet : Alphabet) : Nat → Raw → Bytes × Bool
  | 0, _ => ([], true)
  | fuel + 1, cs =>
    if cs.isEmpty then ([], true)
    else
      let grp := cs.take alphabet.group
      let letters := grp.takeWhile alphabet.letters.contains
      let n := letters.foldl (fun n c =>
        n * Nat.pow 2 alphabet.bits + (alphabet.letters.findIdx? (· = c)).getD 0) 0
      let k := letters.length * alphabet.bits / 8
      let kept := n / Nat.pow 2 (letters.length * alphabet.bits - k * 8)
      let bs := (List.range k).map fun i => UInt8.ofNat (kept / Nat.pow 256 (k - 1 - i) % 256)
      let isPadded := grp.length = alphabet.group && alphabet.partials.contains letters.length
        && (grp.drop letters.length).all (· = '=')
      if letters.length = alphabet.group then
        let (xs, isWhole) := decode alphabet fuel (cs.drop alphabet.group)
        (bs ++ xs, isWhole)
      else if isPadded then
        let (xs, isWhole) := decode alphabet fuel (cs.drop alphabet.group)
        (bs ++ xs, isWhole)
      else (if alphabet.readsCut || grp.length = alphabet.group then bs else [], false)

end Alphabet

def wrapped (w : Nat) : Nat → Raw → Raw
  | 0, s => s
  | fuel + 1, s =>
    if w = 0 || s.isEmpty then s
    else s.take w ++ '\n' :: wrapped w fuel (s.drop w)

def armour (alphabet : Alphabet) (args : List Raw) : Act Nat := do
  let flags ← flagsOf "di" "w" "decode=d ignore-garbage=i wrap=w" args
  let w ← match flags.value? 'w' with
    | none => pure 76
    | some str =>
      match str.toNat? with
      | some w => pure w
      | none => abort 1 ("invalid wrap size: " ++ cite str)
  if let some extra := flags.operands[1]? then abortUsage 1 ("extra operand " ++ cite extra)
  let arg := flags.operands.headD "-"
  match ← takeOperand arg with
  | .error e =>
    if e = .isDirectory || arg = "-" then abort 1 ("read error: " ++ faultText e)
    else abort 1 (operandFault arg e)
  | .ok bs =>
    if flags.has 'd' then
      let s := (Raw.ofBytes bs).filter fun c =>
        c ≠ '\n' && (!flags.has 'i' || c = '=' || alphabet.letters.contains c)
      let (decoded, isWhole) := alphabet.decode (s.length + 1) s
      emitBytes decoded
      if isWhole then pure 0 else abort 1 "invalid input"
    else
      let str := (alphabet.encode (bs.length + 1) bs).flatten
      emit (wrapped w (str.length + 1) str)
      pure 0

end Assay.Tool
