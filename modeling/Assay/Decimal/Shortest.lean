/-! # Shortest decimals -/

namespace Assay.Decimal

/-! ## Binary fractions -/

structure Binary where
  mantissa : Nat
  exponent : Int

def minExponent : Int := -1074

def maxExponent : Int := 971

def mantissaBits : Nat := 53

def roundDiv (num den : Nat) : Nat :=
  let low := num / den
  let xs := 2 * (num % den)
  if xs > den || (xs == den && low % 2 == 1) then low + 1 else low

def scale (num den : Nat) (ex : Int) : Nat × Nat :=
  (num * Nat.pow 2 (-ex).toNat, den * Nat.pow 2 ex.toNat)

def nearestRatio? (num den : Nat) : Option Binary :=
  let guess := max ((num.log2 : Int) - den.log2 - mantissaBits) minExponent
  let (num', den') := scale num den guess
  let exponent := if num' / den' ≥ Nat.pow 2 mantissaBits then guess + 1 else guess
  let (num', den') := scale num den exponent
  let mantissa := roundDiv num' den'
  let (mantissa, exponent) :=
    if mantissa = Nat.pow 2 mantissaBits then (Nat.pow 2 (mantissaBits - 1), exponent + 1)
    else (mantissa, exponent)
  if exponent > maxExponent then none else some { mantissa, exponent }

def digitCount (n : Nat) : Nat := (Nat.toDigits 10 n).length

def nearest? (ds : Nat) (ex : Int) : Option Binary :=
  let magnitude := (digitCount ds : Int) + ex
  if ds = 0 || magnitude < -330 then some { mantissa := 0, exponent := minExponent }
  else if magnitude > 310 then none
  else nearestRatio? (ds * Nat.pow 10 ex.toNat) (Nat.pow 10 (-ex).toNat)

structure Short where
  digits : Nat
  exponent : Int

def compareScaled (a : Nat) (i : Int) (b : Nat) (j : Int) : Ordering :=
  compare (a * Nat.pow 10 i.toNat * Nat.pow 2 (-j).toNat)
    (b * Nat.pow 2 j.toNat * Nat.pow 10 (-i).toNat)

namespace Binary

variable (v : Binary)

def isNarrow : Bool := v.mantissa == Nat.pow 2 (mantissaBits - 1) && v.exponent > minExponent

/-- Whether a decimal number is read as this one: it lies between the middles to both neighbours, or
on one of them if the mantissa is even. -/
def readsBack (short : Short) : Bool :=
  let low := 4 * v.mantissa - (if v.isNarrow then 1 else 2)
  let high := 4 * v.mantissa + 2
  let even := v.mantissa % 2 == 0
  let below := compareScaled short.digits short.exponent low (v.exponent - 2)
  let above := compareScaled short.digits short.exponent high (v.exponent - 2)
  (below == .gt || (even && below == .eq)) && (above == .lt || (even && above == .eq))

def ratio : Nat × Nat := (v.mantissa * Nat.pow 2 v.exponent.toNat, Nat.pow 2 (-v.exponent).toNat)

def inUnits (ex : Int) : Nat × Nat :=
  (v.ratio.1 * Nat.pow 10 (-ex).toNat, v.ratio.2 * Nat.pow 10 ex.toNat)

def magnitudeFrom (v : Binary) : Nat → Int → Int
  | 0, guess => guess
  | fuel + 1, guess =>
    let (num, den) := v.inUnits guess
    if num < den then guess else magnitudeFrom v fuel (guess + 1)

def magnitude : Int :=
  let bits := (v.ratio.1.log2 : Int) - v.ratio.2.log2
  v.magnitudeFrom 4 (bits * 30103 / 100000 - 1)

def onGrid? (exponent : Int) : Option Short :=
  let (num, den) := v.inUnits exponent
  let low : Short := { digits := num / den, exponent }
  let high : Short := { digits := num / den + 1, exponent }
  match v.readsBack low, v.readsBack high with
  | true, true => some (if 2 * (num % den) < den then low else high)
  | true, false => some low
  | false, true => some high
  | false, false => none

def shortest : Short :=
  let top := v.magnitude
  ((List.range 17).findSome? fun k => v.onGrid? (top - (k + 1 : Nat))).getD
    { digits := v.mantissa * Nat.pow 5 (-v.exponent).toNat * Nat.pow 2 v.exponent.toNat
      exponent := -(-v.exponent).toNat }

end Binary

def Short.positional (short : Short) : String :=
  let ds := Nat.toDigits 10 short.digits
  if short.exponent ≥ 0 then String.ofList (ds ++ List.replicate short.exponent.toNat '0') ++ ".0"
  else
    let places := (-short.exponent).toNat
    let padded := List.replicate (places + 1 - ds.length) '0' ++ ds
    let whole := padded.take (padded.length - places)
    let frac := (padded.drop (padded.length - places)).reverse.dropWhile (· = '0')
    String.ofList whole ++ "." ++ if frac.isEmpty then "0" else String.ofList frac.reverse

def Binary.text (v : Binary) : String := if v.mantissa = 0 then "0.0" else v.shortest.positional

end Assay.Decimal
