import Assay.Text.Utf8

/-! # Raw -/

namespace Assay

export Text (Bytes)

abbrev Raw := List Char

instance : Coe String Raw := ⟨String.toList⟩

namespace Raw

def ofBytes (bytes : Bytes) : Raw := bytes.map fun b => Char.ofNat b.toNat

variable (bs : Raw)

def toBytes : Bytes := bs.map fun c => UInt8.ofNat c.toNat

def ofText (s : String) : Raw := ofBytes (Text.encode s)

def toText : String := Text.decodeLossy (toBytes bs)

def ofNat (n : Nat) : Raw := (toString n).toList

def ofInt (n : Int) : Raw := if n < 0 then '-' :: ofNat n.natAbs else ofNat n.natAbs

def toNat? : Option Nat :=
  if bs.isEmpty || !bs.all Char.isDigit then none
  else some (bs.foldl (fun n d => n * 10 + (d.toNat - '0'.toNat)) 0)

def toInt? : Raw → Option Int
  | '-' :: ds => (toNat? ds).map fun n => -(n : Int)
  | '+' :: ds => (toNat? ds).map Int.ofNat
  | ds => (toNat? ds).map Int.ofNat

def same : Raw → Raw → Bool
  | [], [] => true
  | l :: ls, r :: rs => l == r && same ls rs
  | _, _ => false

def filed? {α : Type} (name : Raw) : List (Raw × α) → Option α
  | [] => none
  | (y, hit) :: xs => if same name y then some hit else filed? name xs

def file {α : Type} (name : Raw) (hit : α) : List (Raw × α) → List (Raw × α)
  | [] => [(name, hit)]
  | (y, old) :: xs => if same name y then (name, hit) :: xs else (y, old) :: file name hit xs

def linesOnto (hit : List Raw) (l : Raw) : Raw → List Raw
  | [] => if l.isEmpty then hit else l.reverse :: hit
  | '\n' :: xs => linesOnto (('\n' :: l).reverse :: hit) [] xs
  | c :: xs => linesOnto hit (c :: l) xs

def lines : List Raw := (linesOnto [] [] bs).reverse

def chomp (l : Raw) : Raw := if l.getLast? = some '\n' then l.dropLast else l

def octalDigit? (c : Char) : Option Nat :=
  if '0' ≤ c ∧ c ≤ '7' then some (c.toNat - '0'.toNat) else none

def hexDigit? (c : Char) : Option Nat :=
  if c.isDigit then some (c.toNat - '0'.toNat)
  else if 'a' ≤ c ∧ c ≤ 'f' then some (c.toNat - 'a'.toNat + 10)
  else if 'A' ≤ c ∧ c ≤ 'F' then some (c.toNat - 'A'.toNat + 10)
  else none

/-- What a directive starts with: flags, a width, and places after a point. -/
structure Layout where
  flags : Raw
  (width places : Option Nat)
  rest : Raw

def takeLayout (among : Raw) : Layout :=
  let (flags, xs) := bs.span among.contains
  let (ds, xs) := xs.span Char.isDigit
  match xs with
  | '.' :: xs =>
    let (places, rest) := xs.span Char.isDigit
    { flags, width := toNat? ds, places := some ((toNat? places).getD 0), rest }
  | rest => { flags, width := toNat? ds, places := none, rest }

def takeOctal (k n : Nat) : Raw → Nat × Raw
  | c :: xs =>
    match k, octalDigit? c with
    | k + 1, some d => takeOctal k (n * 8 + d) xs
    | _, _ => (n, c :: xs)
  | [] => (n, [])

end Raw

end Assay
