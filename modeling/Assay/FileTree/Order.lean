/-!
# The order of names in a directory

A directory lists its names in the order of a hash of theirs, which does not depend on when
they were made. A name is mixed into four words, eight words of it at a time; two of the
four words are the key that names are ordered by.
-/

namespace Assay.NameOrder

structure State where
  a : UInt32 := 0x67452301
  b : UInt32 := 0xefcdab89
  c : UInt32 := 0x98badcfe
  d : UInt32 := 0x10325476
  deriving DecidableEq, Repr

def turn (word count : UInt32) : UInt32 :=
  (word <<< count) ||| (word >>> (32 - count))

/-- The bits of the second word where the first has ones, and else those of the third. -/
def choice (x y z : UInt32) : UInt32 :=
  z ^^^ (x &&& (y ^^^ z))

def majority (x y z : UInt32) : UInt32 :=
  (x &&& y) + ((x ^^^ y) &&& z)

def parity (x y z : UInt32) : UInt32 :=
  x ^^^ y ^^^ z

/-- Mixes one of some words in, after which the parts of the state change places. -/
def step (combine : UInt32 → UInt32 → UInt32 → UInt32) (constant : UInt32)
    (words : Array UInt32) (state : State) (use : Nat × UInt32) : State :=
  let sum := state.a + combine state.b state.c state.d + words[use.1]?.getD 0 + constant
  { a := state.d, b := turn sum use.2, c := state.b, d := state.c }

def mix (state : State) (words : Array UInt32) : State :=
  let first := [(0, 3), (1, 7), (2, 11), (3, 19), (4, 3), (5, 7), (6, 11), (7, 19)].foldl
    (step choice 0 words) state
  let second := [(1, 3), (3, 5), (5, 9), (7, 13), (0, 3), (2, 5), (4, 9), (6, 13)].foldl
    (step majority 0x5a827999 words) first
  let third := [(3, 3), (7, 9), (2, 11), (6, 15), (1, 3), (5, 9), (0, 11), (4, 15)].foldl
    (step parity 0x6ed9eba1 words) second
  { a := state.a + third.a, b := state.b + third.b, c := state.c + third.c,
    d := state.d + third.d }

def signed (byte : UInt8) : UInt32 :=
  if byte ≥ 0x80 then byte.toUInt32 + 0xffffff00 else byte.toUInt32

/-- Eight words from the first bytes of a name. What is missing is filled up with the number
of bytes. -/
def wordsOf (bytes : List UInt8) : Array UInt32 :=
  let count := UInt32.ofNat bytes.length
  let pair := count ||| (count <<< 8)
  let fill := pair ||| (pair <<< 16)
  ((List.range 8).map fun index =>
    ((bytes.drop (4 * index)).take 4).foldl
      (fun (word : UInt32) byte => signed byte + (word <<< 8)) fill).toArray

def mixAll : Nat → State → List UInt8 → State
  | 0, state, _ => state
  | fuel + 1, state, bytes =>
    if bytes.isEmpty then state else mixAll fuel (mix state (wordsOf bytes)) (bytes.drop 32)

def key (name : String) : Nat :=
  let bytes := name.toUTF8.toList
  let state := mixAll (bytes.length + 1) {} bytes
  (state.b &&& 0xfffffffe).toNat * Nat.pow 2 32 + state.c.toNat

def sort {α : Type} (nameOf : α → String) (items : List α) : List α :=
  match items with
  | [] | [_] => items
  | _ =>
    ((items.map fun item => (key (nameOf item), item)).mergeSort fun left right =>
      left.1 ≤ right.1).map (·.2)

end Assay.NameOrder
