import Assay.Text.Raw

/-! # Characters made of several octets -/

namespace Assay.Raw

open Text

def strayBase : Nat := 0x10FF00

def stray (b : Char) : Char := Char.ofNat (strayBase + b.toNat % 256)

def rawBase : Nat := 0x10FE00

def raw (b : Char) : Char := if b < '\x80' then b else Char.ofNat (rawBase + b.toNat % 256)

def isStray (c : Char) : Bool := strayBase ≤ c.toNat

variable (s : Raw)

def isAscii : Bool := s.all (· < '\x80')

def wideOnto (read : List Char) : Bytes → List Char
  | [] => read
  | x :: xs =>
    match h : Text.readChar x xs with
    | .char c rest' =>
      have := length_rest_lt h rfl
      wideOnto (c :: read) rest'
    | .broken _ => wideOnto (stray (Char.ofNat x.toNat) :: read) xs
termination_by bs => bs.length
decreasing_by
  · assumption
  · exact Nat.lt_succ_self _

def wide : List Char := if s.isAscii then s else (wideOnto [] s.toBytes).reverse

def rawAll : List Char := if s.isAscii then s else s.map raw

def narrowChar (c : Char) : Raw :=
  if c < '\x80' then [c]
  else if isStray c then [Char.ofNat (c.toNat - strayBase)]
  else if rawBase ≤ c.toNat then [Char.ofNat (c.toNat - rawBase)]
  else ofBytes (String.utf8EncodeChar c)

def ofCode (code : Nat) : Raw :=
  let later (shift : Nat) : Char := Char.ofNat (0x80 + code / Nat.pow 2 shift % 64)
  if code < 0x80 then [Char.ofNat code]
  else if code < 0x800 then [Char.ofNat (0xC0 + code / 64), later 0]
  else if code < 0x10000 then [Char.ofNat (0xE0 + code / 4096), later 6, later 0]
  else [Char.ofNat (0xF0 + code / 262144 % 16), later 12, later 6, later 0]

def narrow (cs : List Char) : Raw := if cs.all (· < '\x80') then cs else cs.flatMap narrowChar

end Assay.Raw
