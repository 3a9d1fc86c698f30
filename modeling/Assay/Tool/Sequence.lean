import Assay.Tool.Format
import Assay.Tool.Stream

/-! # Sequences of numbers -/

namespace Assay.Tool

open Decimal (Amount)

structure Bound where
  amount : Amount
  (places width : Nat)

namespace Bound

def read? (s : Raw) : Option Bound :=
  match Decimal.takeAmount s with
  | some (amount, []) =>
    let shown := s.dropWhile fun c => c = ' ' || c = '\t' || c = '+'
    let body := shown.takeWhile fun c => c ≠ 'e' && c ≠ 'E'
    let isHex := body.contains 'x' || body.contains 'X'
    let written := ((body.dropWhile (· ≠ '.')).drop 1).length
    let power := ((Raw.toInt? (shown.drop (body.length + 1))).getD 0)
    let places := ((written : Int) - power).toNat
    if isHex then some { amount, places := 0, width := shown.length }
    else
      let whole := (body.takeWhile (· ≠ '.')).length + power.toNat
      let lead := match body with
        | '.' :: _ => 1
        | '-' :: '.' :: _ => 1
        | _ => 0
      some { amount, places, width := whole + lead + (if places = 0 then 0 else places + 1) }
  | _ => none

end Bound

structure Progression where
  (start step : Int)
  last : Option Int
  den : Nat

namespace Progression

def isOver (ns : Progression) (n : Int) : Bool :=
  ns.last.any fun last => if ns.step < 0 then decide (n < last) else decide (last < n)

def take (ns : Progression) : Nat → Int → List Int × Option Int
  | 0, n => ([], some n)
  | k + 1, n =>
    if ns.isOver n then ([], none)
    else
      let (xs, next) := ns.take k (n + ns.step)
      (n :: xs, next)

def amount (ns : Progression) (n : Int) : Amount := .finite (n < 0) n.natAbs ns.den

end Progression

def progressionOf (x step last : Amount) : Option Progression :=
  match x, step, last with
  | .finite sgn num den, .finite stepSign stepNum stepDen, last =>
    let (lastDen, end_) : Nat × Option (Option Int) := match last with
      | .finite lastSign lastNum lastDen =>
        (lastDen, some (some (if lastSign then -(lastNum : Int) else lastNum)))
      | .infinite sgn => (1, if sgn = stepSign then some none else none)
      | .undefined _ => (1, none)
    let common := Nat.lcm (Nat.lcm den stepDen) lastDen
    let scale (negative : Bool) (num den : Nat) : Int :=
      let v : Int := num * (common / den)
      if negative then -v else v
    match end_ with
    | none => none
    | some end_ =>
      some
        { start := scale sgn num den, step := scale stepSign stepNum stepDen
          last := end_.map fun v => v * (common / lastDen : Nat), den := common }
  | _, _, _ => none

def emitNumbers (ns : Progression) (s : Amount → Raw) (mark : Raw) : Nat → Bool → Int → Act Bool
  | 0, _, _ => lift Run.stuck
  | fuel + 1, started, n => do
    let (chunk, next) := ns.take 500 n
    let ss := chunk.map fun n => s (ns.amount n)
    let out := mark.intercalate ss
    if !chunk.isEmpty then emit (if started then mark ++ out else out)
    lift Run.tick
    let some next := next | pure (started || !chunk.isEmpty)
    emitNumbers ns s mark fuel (started || !chunk.isEmpty) next

structure NumberLayout where
  lead : Raw := []
  conversion : Format.Conversion := {}
  letter : Char := 'g'
  trail : Raw := []

namespace NumberLayout

def splitText : Nat → Raw → Raw × Raw
  | 0, cs => (cs, [])
  | _, [] => ([], [])
  | fuel + 1, '%' :: '%' :: xs =>
    let (s, xs) := splitText fuel xs
    ('%' :: s, xs)
  | _ + 1, '%' :: xs => ([], '%' :: xs)
  | fuel + 1, c :: xs =>
    let (s, xs) := splitText fuel xs
    (c :: s, xs)

def read (format : Raw) : Except Raw NumberLayout :=
  let refuse (what : Raw) : Except Raw NumberLayout := .error ("format " ++ cite format ++ what)
  match splitText (format.length + 1) format with
  | (_, []) => refuse " has no % directive"
  | (lead, _ :: xs) =>
    let layout := Raw.takeLayout xs "-+#0 '"
    let xs := if layout.rest.head? = some 'L' then layout.rest.drop 1 else layout.rest
    match xs with
    | [] => refuse " ends in %"
    | letter :: xs =>
      if !Decimal.isLayoutLetter letter then refuse (" has unknown %" ++ letter :: " directive")
      else
        match splitText (xs.length + 1) xs with
        | (trail, []) =>
          let cut (n : Nat) : Int := min (Int.ofNat n) Format.cutSize
          let conversion : Format.Conversion :=
            { flags := layout.flags, width := layout.width.map cut
              precision := layout.places.map cut }
          .ok { lead, letter, trail, conversion }
        | _ => refuse " has too many % directives"

def text (lay : NumberLayout) (amt : Amount) : Raw :=
  lay.lead ++ Format.amount lay.conversion lay.letter amt.toLong ++ lay.trail

end NumberLayout

def plainText (places : Nat) (amt : Amount) : Raw :=
  match amt with
  | .finite negative num den =>
    let s := Decimal.fixed places num den
    if negative && num ≠ 0 then '-' :: s else s
  | .infinite negative => (if negative then "-inf" else "inf").toList
  | .undefined _ => "nan"

def numberArgs : List Raw → List Raw
  | [] => []
  | ('-' :: x :: xs) :: args =>
    if x.isDigit || x = '.' then "--" :: ('-' :: x :: xs) :: args
    else if x = '-' && xs.isEmpty then ('-' :: x :: xs) :: args
    else if xs.isEmpty && (x = 's' || x = 'f') then
      match args with
      | v :: args => ['-', x] :: v :: numberArgs args
      | [] => [['-', x]]
    else ('-' :: x :: xs) :: numberArgs args
  | arg :: args => "--" :: arg :: args

def seq (args : List Raw) : Act Nat := do
  let flags ← flagsOf "w" "sf" "equal-width=w separator=s format=f"
    (numberArgs args)
  needOperand flags
  if let some extra := flags.operands[3]? then abortUsage 1 ("extra operand " ++ cite extra)
  let layout? ← match flags.value? 'f' with
    | none => pure none
    | some format =>
      match NumberLayout.read format with
      | .error flaw => abort 1 flaw
      | .ok lay => pure (some lay)
  if layout?.isSome && flags.has 'w' then
    abortUsage 1 "format string may not be specified when printing equal width strings"
  let bound (s : Raw) : Act Bound :=
    match Bound.read? s with
    | none => abortUsage 1 ("invalid floating point argument: " ++ cite s)
    | some bound =>
      match bound.amount with
      | .undefined _ => abortUsage 1 ("invalid " ++ cite "not-a-number" ++ " argument: " ++ cite s)
      | _ => pure bound
  let one : Bound := { amount := .ofInt 1, places := 0, width := 1 }
  let (x, step, last) ← match flags.operands with
    | [last] => pure (one, one, ← bound last)
    | [x, last] => pure (← bound x, one, ← bound last)
    | x :: step :: last :: _ =>
      let start ← bound x
      let by_ ← bound step
      match by_.amount with
      | .finite _ 0 _ => abortUsage 1 ("invalid Zero increment value: " ++ cite step)
      | _ => pure (start, by_, ← bound last)
    | [] => pure (one, one, one)
  let places := max x.places step.places
  let w (bound : Bound) : Nat :=
    let w := bound.width + places - bound.places
    if bound.places > 0 && places = 0 then w - 1
    else if bound.places = 0 && places > 0 then w + 1
    else w
  let least := if flags.has 'w' then max (w x) (w last) else 0
  let s (amt : Amount) : Raw :=
    match layout? with
    | some lay => lay.text amt
    | none =>
      let s := plainText places amt
      let zeros := List.replicate (least - s.length) '0'
      match s with
      | '-' :: ds => '-' :: (zeros ++ ds)
      | ds => zeros ++ ds
  let mark := (flags.value? 's').getD "\n"
  match progressionOf x.amount step.amount last.amount with
  | some ns =>
    let started ← emitNumbers ns s mark Run.maxReads false ns.start
    if started then emit "\n"
  | none =>
    match x.amount, step.amount with
    | .finite _ _ _, .infinite _ => emitLine (s x.amount)
    | _, _ => pure ()
  pure 0

end Assay.Tool
