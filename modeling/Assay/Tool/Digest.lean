import Assay.Tool.Stream

/-! # Digests -/

namespace Assay.Tool

namespace Digest

/-! ## Blocks -/

def bigEndian (k n : Nat) : Bytes :=
  (List.range k).map fun i => UInt8.ofNat (n / Nat.pow 256 (k - 1 - i) % 256)

def littleEndian (k n : Nat) : Bytes := (bigEndian k n).reverse

def toNumber (bs : Bytes) : Nat := bs.foldl (fun n b => n * 256 + b.toNat) 0

def groups (k : Nat) : Nat → Bytes → List Bytes
  | 0, _ => []
  | fuel + 1, bs => if bs.isEmpty then [] else bs.take k :: groups k fuel (bs.drop k)

def blocks (block lengthSize : Nat) (len : Nat → Bytes) (msg : Bytes) : List Bytes :=
  let used := msg.length + 1 + lengthSize
  let zeros := (block - used % block) % block
  let padded := msg ++ 0x80 :: (List.replicate zeros 0 ++ len (msg.length * 8))
  groups block (padded.length + 1) padded

def hexText (bs : Bytes) : Raw :=
  bs.flatMap fun b =>
    let ds := Nat.toDigits 16 b.toNat
    List.replicate (2 - ds.length) '0' ++ ds

/-! ## Words of 32 bits -/

def turn (w : UInt32) (k : UInt32) : UInt32 := (w <<< k) ||| (w >>> (32 - k))

def sines : Array UInt32 :=
  #[0xd76aa478, 0xe8c7b756, 0x242070db, 0xc1bdceee, 0xf57c0faf, 0x4787c62a, 0xa8304613,
    0xfd469501, 0x698098d8, 0x8b44f7af, 0xffff5bb1, 0x895cd7be, 0x6b901122, 0xfd987193,
    0xa679438e, 0x49b40821, 0xf61e2562, 0xc040b340, 0x265e5a51, 0xe9b6c7aa, 0xd62f105d,
    0x02441453, 0xd8a1e681, 0xe7d3fbc8, 0x21e1cde6, 0xc33707d6, 0xf4d50d87, 0x455a14ed,
    0xa9e3e905, 0xfcefa3f8, 0x676f02d9, 0x8d2a4c8a, 0xfffa3942, 0x8771f681, 0x6d9d6122,
    0xfde5380c, 0xa4beea44, 0x4bdecfa9, 0xf6bb4b60, 0xbebfbc70, 0x289b7ec6, 0xeaa127fa,
    0xd4ef3085, 0x04881d05, 0xd9d4d039, 0xe6db99e5, 0x1fa27cf8, 0xc4ac5665, 0xf4292244,
    0x432aff97, 0xab9423a7, 0xfc93a039, 0x655b59c3, 0x8f0ccc92, 0xffeff47d, 0x85845dd1,
    0x6fa87e4f, 0xfe2ce6e0, 0xa3014314, 0x4e0811a1, 0xf7537e82, 0xbd3af235, 0x2ad7d2bb,
    0xeb86d391]

def turns : Array UInt32 := #[7, 12, 17, 22, 5, 9, 14, 20, 4, 11, 16, 23, 6, 10, 15, 21]

structure Four where
  (a b c d : UInt32)

def mixFour (ws : Array UInt32) (st : Four) (i : Nat) : Four :=
  let ⟨a, b, c, d⟩ := st
  let round := i / 16
  let (mixed, p) : UInt32 × Nat := match round with
    | 0 => ((b &&& c) ||| (~~~b &&& d), i)
    | 1 => ((d &&& b) ||| (~~~d &&& c), (5 * i + 1) % 16)
    | 2 => (b ^^^ c ^^^ d, (3 * i + 5) % 16)
    | _ => (c ^^^ (b ||| ~~~d), 7 * i % 16)
  let sum := a + mixed + sines[i]?.getD 0 + ws[p]?.getD 0
  ⟨d, b + turn sum (turns[round * 4 + i % 4]?.getD 0), b, c⟩

variable (msg : Bytes)

def md5 : Bytes :=
  let final := (blocks 64 8 (littleEndian 8) msg).foldl (fun st block =>
    let ws := ((groups 4 17 block).map fun bs => UInt32.ofNat (toNumber bs.reverse)).toArray
    let mixed := (List.range 64).foldl (mixFour ws) st
    ⟨st.a + mixed.a, st.b + mixed.b, st.c + mixed.c, st.d + mixed.d⟩)
    (⟨0x67452301, 0xefcdab89, 0x98badcfe, 0x10325476⟩ : Four)
  [final.a, final.b, final.c, final.d].flatMap fun w => littleEndian 4 w.toNat

structure Five where
  (a b c d e : UInt32)

def mixFive (st : Five) (step : Nat × UInt32) : Five :=
  let ⟨a, b, c, d, e⟩ := st
  let (mixed, key) : UInt32 × UInt32 := match step.1 / 20 with
    | 0 => ((b &&& c) ||| (~~~b &&& d), 0x5a827999)
    | 1 => (b ^^^ c ^^^ d, 0x6ed9eba1)
    | 2 => ((b &&& c) ||| (b &&& d) ||| (c &&& d), 0x8f1bbcdc)
    | _ => (b ^^^ c ^^^ d, 0xca62c1d6)
  ⟨turn a 5 + mixed + e + key + step.2, a, turn b 30, c, d⟩

def sha1 : Bytes :=
  let final := (blocks 64 8 (bigEndian 8) msg).foldl (fun st block =>
    let x := ((groups 4 17 block).map fun bs => UInt32.ofNat (toNumber bs)).toArray
    let ws := (List.range 64).foldl (fun (ws : Array UInt32) i =>
      let w (back : Nat) : UInt32 := ws[i + 16 - back]?.getD 0
      ws.push (turn (w 3 ^^^ w 8 ^^^ w 14 ^^^ w 16) 1)) x
    let mixed := (ws.toList.zipIdx.map fun (w, i) => (i, w)).foldl mixFive st
    ⟨st.a + mixed.a, st.b + mixed.b, st.c + mixed.c, st.d + mixed.d, st.e + mixed.e⟩)
    (⟨0x67452301, 0xefcdab89, 0x98badcfe, 0x10325476, 0xc3d2e1f0⟩ : Five)
  [final.a, final.b, final.c, final.d, final.e].flatMap fun w => bigEndian 4 w.toNat

/-! ## Digests from roots of primes -/

def hasNoDivisor (n : Nat) : Nat → Bool
  | 0 | 1 => true
  | bound + 1 => n % (bound + 1) ≠ 0 && hasNoDivisor n bound

def primes : List Nat := (List.range 410).filter fun n => n > 1 && hasNoDivisor n (n / 2)

def rootFloor (power bound : Nat) : Nat → Nat → Nat
  | 0, root => root
  | bits + 1, root =>
    let next := root + Nat.pow 2 bits
    rootFloor power bound bits (if Nat.pow next power ≤ bound then next else root)

def rootBits (power n : Nat) : Nat :=
  rootFloor power (n * Nat.pow 2 (64 * power)) 72 0 % Nat.pow 2 64

def cubeBits : Array Nat := (primes.map (rootBits 3)).toArray

def squareBits : Array Nat := ((primes.take 16).map (rootBits 2)).toArray

structure Eight (α : Type) where
  (a b c d e f g h : α)

def Eight.toList {α : Type} (ws : Eight α) : List α :=
  [ws.a, ws.b, ws.c, ws.d, ws.e, ws.f, ws.g, ws.h]

def Eight.ofFn {α : Type} (w : Nat → α) : Eight α := ⟨w 0, w 1, w 2, w 3, w 4, w 5, w 6, w 7⟩

def Eight.add {α : Type} [Add α] (l r : Eight α) : Eight α :=
  ⟨l.a + r.a, l.b + r.b, l.c + r.c, l.d + r.d, l.e + r.e, l.f + r.f, l.g + r.g, l.h + r.h⟩

/-- The words of one kind of digest: their size in bytes, how they are turned to the right and
moved, and how many steps there are. -/
structure Kind (α : Type) where
  (size steps : Nat)
  ofNat : Nat → α
  toNat : α → Nat
  (turn move : α → Nat → α)
  /-- How far words are turned and moved: for the first and the fifth word of the state, and for the
  two words of the schedule. -/
  (first fifth early late : Nat × Nat × Nat)

def narrow : Kind UInt32 where
  size := 4
  steps := 64
  ofNat := UInt32.ofNat
  toNat := UInt32.toNat
  turn w count := (w >>> UInt32.ofNat count) ||| (w <<< UInt32.ofNat (32 - count))
  move w count := w >>> UInt32.ofNat count
  first := (2, 13, 22)
  fifth := (6, 11, 25)
  early := (7, 18, 3)
  late := (17, 19, 10)

def wide : Kind UInt64 where
  size := 8
  steps := 80
  ofNat := UInt64.ofNat
  toNat := UInt64.toNat
  turn w count := (w >>> UInt64.ofNat count) ||| (w <<< UInt64.ofNat (64 - count))
  move w count := w >>> UInt64.ofNat count
  first := (28, 34, 39)
  fifth := (14, 18, 41)
  early := (1, 8, 7)
  late := (19, 61, 6)

def Kind.spread {α : Type} [XorOp α] (kind : Kind α) (counts : Nat × Nat × Nat) (w : α) : α :=
  kind.turn w counts.1 ^^^ kind.turn w counts.2.1 ^^^ kind.turn w counts.2.2

def Kind.blend {α : Type} [XorOp α] (kind : Kind α) (counts : Nat × Nat × Nat) (w : α) : α :=
  kind.turn w counts.1 ^^^ kind.turn w counts.2.1 ^^^ kind.move w counts.2.2

def Kind.digest {α : Type} [Inhabited α] [Add α] [AndOp α] [XorOp α] [Complement α] (kind : Kind α)
    (start : Eight α) (msg : Bytes) : Bytes :=
  let final := (blocks (16 * kind.size) (2 * kind.size) (bigEndian (2 * kind.size)) msg).foldl
    (fun st block =>
      let x := ((groups kind.size 17 block).map fun bs => kind.ofNat (toNumber bs)).toArray
      let ws := (List.range (kind.steps - 16)).foldl (fun (ws : Array α) i =>
        let w (back : Nat) : α := ws[i + 16 - back]?.getD default
        ws.push (kind.blend kind.late (w 2) + w 7 + kind.blend kind.early (w 15) + w 16)) x
      let mixed := (List.range kind.steps).foldl (fun (st : Eight α) i =>
        let ⟨a, b, c, d, e, f, g, h⟩ := st
        let key := kind.ofNat ((cubeBits[i]?.getD 0) / Nat.pow 2 (64 - 8 * kind.size))
        let choice := (e &&& f) ^^^ (~~~e &&& g)
        let majority := (a &&& b) ^^^ (a &&& c) ^^^ (b &&& c)
        let one := h + kind.spread kind.fifth e + choice + key + ws[i]?.getD default
        let two := kind.spread kind.first a + majority
        ⟨one + two, a, b, c, d + one, e, f, g⟩) st
      st.add mixed) start
  final.toList.flatMap fun w => bigEndian kind.size (kind.toNat w)

def squareWord (i : Nat) : Nat := squareBits[i]?.getD 0

def sha256 : Bytes :=
  narrow.digest (Eight.ofFn fun i => UInt32.ofNat (squareWord i / Nat.pow 2 32)) msg

def sha224 : Bytes :=
  (narrow.digest (Eight.ofFn fun i => UInt32.ofNat (squareWord (i + 8) % Nat.pow 2 32)) msg).take 28

def sha512 : Bytes := wide.digest (Eight.ofFn fun i => UInt64.ofNat (squareWord i)) msg

def sha384 : Bytes :=
  (wide.digest (Eight.ofFn fun i => UInt64.ofNat (squareWord (i + 8))) msg).take 48

/-! ## Checksums -/

def crcBit (remainder : UInt32) : UInt32 :=
  if remainder &&& 0x80000000 = 0 then remainder <<< 1 else (remainder <<< 1) ^^^ 0x04c11db7

def crcTable : Array UInt32 :=
  Array.ofFn fun i : Fin 256 =>
    (List.range 8).foldl (fun remainder _ => crcBit remainder) (UInt32.ofNat i.val <<< 24)

def crcByte (remainder : UInt32) (b : UInt8) : UInt32 :=
  let top := (remainder >>> 24).toUInt8 ^^^ b
  (remainder <<< 8) ^^^ crcTable.getD top.toNat 0

def lengthBytes : Nat → Nat → Bytes
  | 0, _ => []
  | fuel + 1, n => if n = 0 then [] else UInt8.ofNat (n % 256) :: lengthBytes fuel (n / 256)

def crc : Nat :=
  let remainder := (msg ++ lengthBytes 8 msg.length).foldl crcByte 0
  (~~~remainder).toNat

def turningSum : Nat := msg.foldl (fun sum b => (sum / 2 + sum % 2 * 32768 + b.toNat) % 65536) 0

def plainSum : Nat :=
  let sum := msg.foldl (fun sum b => sum + b.toNat) 0 % Nat.pow 2 32
  let folded := sum % 65536 + sum / 65536
  folded % 65536 + folded / 65536

end Digest

/-! ## Tools -/

structure DigestKind where
  name : String
  compute : Bytes → Bytes

variable (kind : DigestKind)

def escapedName (name : Raw) : Raw × Bool :=
  (name.flatMap fun c =>
    if c = '\n' then "\\n" else if c = '\\' then "\\\\" else [c],
    name.any fun c => c = '\n' || c = '\\')

variable (flags : Flags)

def digestLongs : String := " tag=T zero=z"

def showDigests : Act Nat := do
  if flags.has 'T' && flags.last? "bt" = some 't' then
    abortUsage 1 "--tag does not support --text mode"
  closeInput "standard input" flags.operands <| ← forInputs flags.operands fun arg bs => do
    let digest := Digest.hexText (kind.compute bs)
    let fin := flags.lineEnd
    let (escaped, escapes) := escapedName arg
    let escapes := escapes && !flags.has 'z'
    let name := if escapes then escaped else arg
    let lead : Raw := if escapes then "\\" else []
    if flags.has 'T' then
      emit (lead ++ kind.name.toList ++ " (" ++ name ++ ") = " ++ digest ++ [fin])
    else
      let mark := if flags.last? "bt" = some 'b' then '*' else ' '
      emit (lead ++ digest ++ [' ', mark] ++ name ++ [fin])

variable (args : List Raw)

def digestTool : Act Nat := do
  showDigests kind (← flagsOf "btz" "" ("binary=b text=t" ++ digestLongs) args)

def digestKinds : List (String × DigestKind) :=
  [("md5sum", { name := "MD5", compute := Digest.md5 }),
    ("sha1sum", { name := "SHA1", compute := Digest.sha1 }),
    ("sha224sum", { name := "SHA224", compute := Digest.sha224 }),
    ("sha256sum", { name := "SHA256", compute := Digest.sha256 }),
    ("sha384sum", { name := "SHA384", compute := Digest.sha384 }),
    ("sha512sum", { name := "SHA512", compute := Digest.sha512 })]

inductive SumKind where
  | remainder | turning | plain

def SumKind.row (kind : SumKind) (bs : Bytes) (name : Option Raw) : Raw :=
  let blocks (k : Nat) : Raw := Raw.ofNat ((bs.length + k - 1) / k)
  let shown := match kind with
    | .remainder => Raw.ofNat (Digest.crc bs) ++ ' ' :: Raw.ofNat bs.length
    | .plain => Raw.ofNat (Digest.plainSum bs) ++ ' ' :: blocks 512
    | .turning =>
      let ds := Raw.ofNat (Digest.turningSum bs)
      List.replicate (5 - ds.length) '0' ++ ds ++ ' ' :: inColumn 5 (blocks 1024)
  shown ++ name.elim [] (' ' :: ·)

def showSums (kind : SumKind) (ops : List Raw) : Act Nat := do
  let isNamed := !ops.isEmpty
  closeInput "standard input" ops <| ← forInputs ops fun arg bs =>
    emitLine (kind.row bs (if isNamed then some arg else none))

def cksum : Act Nat := do
  let flags ← flagsOf "btz" "al"
    ("algorithm=a length=l debug=D untagged=u" ++ digestLongs)
    args
  let sums := [("bsd", SumKind.turning), ("sysv", .plain), ("crc", .remainder)]
  let digests := "md5 sha1 sha224 sha256 sha384 sha512".splitOn
  let ns := sums.map (·.1) ++ digests ++ ["blake2b", "sm3"]
  let chosen ← match flags.value? 'a' with
    | none => pure "crc"
    | some s =>
      match ns.filter (·.toList = s) ++ ns.filter fun name => s.isPrefixOf name.toList
      with
      | name :: others =>
        if name.toList = s || others.isEmpty then pure name
        else refuseChoice s "--algorithm" ns
      | [] => refuseChoice s "--algorithm" ns
  match sums.lookup chosen, digestKinds.lookup (chosen ++ "sum") with
  | some kind, _ => showSums kind flags.operands
  | none, some kind =>
    let isTagged := flags.last? "uT" ≠ some 'u'
    let kept := flags.options.filter (·.1 ≠ 'T')
    showDigests kind { flags with options := if isTagged then ('T', []) :: kept else kept }
  | none, none => showSums .remainder flags.operands

def sum : Act Nat := do
  let flags ← flagsOf "rs" "" "sysv=s" args
  showSums (if flags.last? "rs" = some 's' then .plain else .turning) flags.operands

end Assay.Tool
