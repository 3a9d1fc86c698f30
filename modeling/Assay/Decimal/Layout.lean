import Assay.Decimal.Shortest
import Assay.Text.Raw

/-! # Layouts of numbers -/

namespace Assay.Decimal

inductive Amount where
  | finite (negative : Bool) (num den : Nat)
  | infinite (negative : Bool)
  | undefined (negative : Bool)

namespace Amount

def isNegative : Amount → Bool
  | .finite negative _ _ => negative
  | .infinite negative => negative
  | .undefined negative => negative

def ofInt (n : Int) : Amount := .finite (n < 0) n.natAbs 1

def toDouble : Amount → Amount
  | .finite negative num den =>
    if num = 0 then .finite negative 0 1
    else
      match nearestRatio? num den with
      | none => .infinite negative
      | some v =>
        .finite negative (v.mantissa * Nat.pow 2 v.exponent.toNat) (Nat.pow 2 (-v.exponent).toNat)
  | y => y

def toLong : Amount → Amount
  | .finite negative num den =>
    if num = 0 then .finite negative 0 1
    else
      let guess := max ((num.log2 : Int) - den.log2 - 64) (-16445)
      let (num', den') := scale num den guess
      let ex := if num' / den' ≥ Nat.pow 2 64 then guess + 1 else guess
      let (num', den') := scale num den ex
      let man := roundDiv num' den'
      if ex > 16320 || man * Nat.pow 2 ex.toNat ≥ Nat.pow 2 16384 then .infinite negative
      else .finite negative (man * Nat.pow 2 ex.toNat) (Nat.pow 2 (-ex).toNat)
  | y => y

end Amount

/-! ## Reading -/

def takeDigits (base : Nat) (cs : Raw) : Nat × Nat × Raw :=
  let isDigit (c : Char) : Bool := (Raw.hexDigit? c).any (· < base)
  let taken := cs.takeWhile isDigit
  (taken.foldl (fun n c => n * base + (Raw.hexDigit? c).getD 0) 0,
    taken.length, cs.drop taken.length)

def takeExponent (letters : List Char) (cs : Raw) : Int × Raw :=
  match cs with
  | ch :: xs =>
    if !letters.contains ch then (0, cs)
    else
      let (negative, ds) : Bool × Raw := match xs with
        | '-' :: xs => (true, xs)
        | '+' :: xs => (false, xs)
        | xs => (false, xs)
      let (n, k, l) := takeDigits 10 ds
      if k = 0 then (0, cs)
      else
        let n := min n 100000
        (if negative then -(n : Int) else n, l)
  | [] => (0, cs)

def takeFraction (base power : Nat) (letters : List Char) (cs : Raw) :
    Option ((Nat × Nat) × Raw) :=
  let (whole, wholeCount, xs) := takeDigits base cs
  let (part, partCount, xs) := match xs with
    | '.' :: post =>
      let (part, k, l) := takeDigits base post
      if wholeCount + k = 0 then (0, 0, xs) else (part, k, l)
    | _ => (0, 0, xs)
  if wholeCount + partCount = 0 then none
  else
    let (ex, xs) := takeExponent letters xs
    let ds := whole * Nat.pow base partCount + part
    let ex := max (min ex 5000) (-5000)
    some ((ds * Nat.pow power ex.toNat, Nat.pow base partCount * Nat.pow power (-ex).toNat), xs)

def startsWith (w : String) (cs : Raw) : Bool := w.toList.isPrefixOf (cs.map Char.toLower)

def takeAmount (cs : Raw) : Option (Amount × Raw) :=
  let cs := cs.dropWhile fun c => c = ' ' || ('\t' ≤ c && c ≤ '\r')
  let (negative, cs) : Bool × Raw := match cs with
    | '-' :: xs => (true, xs)
    | '+' :: xs => (false, xs)
    | xs => (false, xs)
  let frac (hit : Option ((Nat × Nat) × Raw)) : Option (Amount × Raw) :=
    hit.map fun ((num, den), xs) => (.finite negative num den, xs)
  if startsWith "infinity" cs then some (.infinite negative, cs.drop 8)
  else if startsWith "inf" cs then some (.infinite negative, cs.drop 3)
  else if startsWith "nan" cs then some (.undefined negative, cs.drop 3)
  else
    let plain := frac (takeFraction 10 10 ['e', 'E'] cs)
    match cs with
    | '0' :: x :: xs =>
      if x = 'x' || x = 'X' then
        match frac (takeFraction 16 2 ['p', 'P'] xs) with
        | some hit => some hit
        | none => some (.finite negative 0 1, x :: xs)
      else plain
    | _ => plain

/-! ## Laying out -/

def padded (k n : Nat) : Raw :=
  let ds := Nat.toDigits 10 n
  List.replicate (k - ds.length) '0' ++ ds

def worthPlaces (places num den : Nat) : Nat :=
  if Nat.pow 2 den.log2 = den then min places (den.log2 + num.log2 + 1) else places

variable (places : Nat)

def fixed (num den : Nat) : Raw :=
  let worth := worthPlaces places num den
  let ds := padded (worth + 1) (roundDiv (num * Nat.pow 10 worth) den)
  let whole := ds.take (ds.length - worth)
  if places = 0 then whole
  else whole ++ '.' :: (ds.drop (ds.length - worth) ++ List.replicate (places - worth) '0')

def leadingFrom (num den : Nat) : Nat → Int → Int
  | 0, guess => guess
  | fuel + 1, guess =>
    if num * Nat.pow 10 (-(guess + 1)).toNat ≥ den * Nat.pow 10 (guess + 1).toNat then
      leadingFrom num den fuel (guess + 1)
    else guess

def leading (num den : Nat) : Int :=
  let bits := (num.log2 : Int) - den.log2
  leadingFrom num den 6 (bits * 30103 / 100000 - 2)

def significant (num den : Nat) : Nat × Int :=
  if num = 0 then (0, 0)
  else
    let ex := leading num den
    let shift := (places : Int) - ex
    let ds := roundDiv (num * Nat.pow 10 shift.toNat) (den * Nat.pow 10 (-shift).toNat)
    if ds ≥ Nat.pow 10 (places + 1) then (ds / 10, ex + 1) else (ds, ex)

def exponentText (ex : Int) : Raw := (if ex < 0 then '-' else '+') :: padded 2 ex.natAbs

def scientific (num den : Nat) : Raw :=
  let worth := worthPlaces places num den
  let (ds, ex) := significant worth num den
  let s := padded (worth + 1) ds ++ List.replicate (places - worth) '0'
  s.take 1 ++ (if places = 0 then [] else '.' :: s.drop 1) ++ 'e' :: exponentText ex

def withoutZeros (s : Raw) : Raw :=
  if s.contains '.' then
    let kept := (s.reverse.dropWhile (· = '0')).reverse
    if kept.getLast? = some '.' then kept.dropLast else kept
  else s

def withPoint (s : Raw) : Raw := if s.contains '.' then s else s ++ ['.']

def general (keepsZeros : Bool) (k : Nat) (num den : Nat) : Raw :=
  let k := max k 1
  let (_, ex) := significant (worthPlaces (k - 1) num den) num den
  let tidy (s : Raw) : Raw := if keepsZeros then withPoint s else withoutZeros s
  if ex < -4 || ex ≥ k then
    let s := scientific (k - 1) num den
    let man := s.takeWhile (· ≠ 'e')
    tidy man ++ s.drop man.length
  else tidy (fixed ((k : Int) - 1 - ex).toNat num den)

def isLayoutLetter (ch : Char) : Bool := "eEfFgG".toList.contains ch

def layout (ch : Char) (prec : Option Nat) (alternate : Bool) (amt : Amount) : Raw :=
  let s := match amt with
    | .infinite _ => "inf"
    | .undefined _ => "nan"
    | .finite _ num den =>
      let k := prec.getD 6
      match ch.toLower with
      | 'f' =>
        let s := fixed k num den
        if alternate then withPoint s else s
      | 'e' =>
        let s := scientific k num den
        let ds := s.takeWhile (· ≠ 'e')
        (if alternate then withPoint ds else ds) ++ s.drop ds.length
      | _ => general alternate k num den
  if ch.isUpper then s.map Char.toUpper else s

end Assay.Decimal
