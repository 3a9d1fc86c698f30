import Assay.Calendar

/-! # Zones -/

namespace Assay.Calendar.Zone

variable (cs : Raw)

def takeName : Option (Raw × Raw) :=
  let (name, xs) : Raw × Raw := match cs with
    | '<' :: xs =>
      let name := xs.takeWhile fun c => c.isAlphanum || c = '+' || c = '-'
      (name, (xs.drop name.length).drop 1)
    | cs => (cs.takeWhile Char.isAlpha, cs.dropWhile Char.isAlpha)
  if name.length < 3 then none else some (name, xs)

def clock? : Option Int :=
  let (isNegative, cs) : Bool × Raw := match cs with
    | '-' :: xs => (true, xs)
    | '+' :: xs => (false, xs)
    | cs => (false, cs)
  let parts := ((cs.takeWhile fun c => c.isDigit || c = ':').splitOn ':' ++ [['0'], ['0']]).take 3
  (parts.mapM fun part => Raw.toNat? part).map fun parts =>
    let total : Int := (parts.foldl (fun total part => total * 60 + part) 0 : Nat)
    if isNegative then -total else total

/-- The zone that a text gives: a name and how far it is behind. -/
def ofText (s : Raw) : Zone :=
  let rule := if s.head? = some ':' then s.drop 1 else s
  if rule.isEmpty then {}
  else
    match takeName rule with
    | none => { name := [] }
    | some (name, xs) => { name, ahead := -(max (-86400) (min ((clock? xs).getD 0) 86400)) }

end Assay.Calendar.Zone
