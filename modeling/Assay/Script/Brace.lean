import Assay.Script.Basic

/-! # Words with braces -/

namespace Assay.Script

inductive Mark where
  | char (char : Char)
  | part (part : Part)

namespace Mark

def ofWord (w : Word) : List Mark :=
  w.flatMap fun
    | .text cs false => cs.map .char
    | hit => [.part hit]

def toWord : List Mark → Word
  | [] => []
  | .part hit :: xs => hit :: toWord xs
  | .char c :: xs =>
    match toWord xs with
    | .text cs false :: w => .text (c :: cs) false :: w
    | w => .text [c] false :: w

def isChar (wanted : Char) : Mark → Bool
  | .char c => c = wanted
  | .part _ => false

def chars? (marks : List Mark) : Option Raw :=
  marks.mapM fun
    | .char c => some c
    | .part _ => none

end Mark

/-- The pieces up to the brace that closes, divided at the commas outside of inner braces, and the
pieces that follow. -/
def splitBraces (d : Nat) (hit : List (List Mark)) (cur : List Mark) :
    List Mark → Option (List (List Mark) × List Mark)
  | [] => none
  | mark :: xs =>
    if mark.isChar '\x7b' then splitBraces (d + 1) hit (mark :: cur) xs
    else if mark.isChar '\x7d' then
      match d with
      | 0 => some ((cur.reverse :: hit).reverse, xs)
      | d + 1 => splitBraces d hit (mark :: cur) xs
    else if mark.isChar ',' && d = 0 then splitBraces d (cur.reverse :: hit) [] xs
    else splitBraces d hit (mark :: cur) xs

def splitDots (cur : Raw) : Raw → List Raw
  | [] => [cur.reverse]
  | '.' :: '.' :: xs => cur.reverse :: splitDots [] xs
  | c :: xs => splitDots (c :: cur) xs

def maxSequence : Nat := 100000

def numbersFrom (x last step : Int) : List Int :=
  let step := if step = 0 then 1 else step.natAbs
  let k := ((last - x).natAbs / step + 1)
  (List.range (min k maxSequence)).map fun i =>
    if x ≤ last then x + (i * step : Nat) else x - (i * step : Nat)

def paddedNumber (w : Nat) (n : Int) : Raw :=
  let ds := Raw.ofNat n.natAbs
  let sgn : Raw := if n < 0 then "-" else []
  sgn ++ List.replicate (w - sgn.length - ds.length) '0' ++ ds

def hasLeadingZero (s : Raw) : Bool :=
  let ds := match s with
    | '-' :: xs => xs
    | s => s
  ds.length > 1 && ds.head? = some '0'

def sequence? (s : Raw) : Option (List Raw) :=
  let cs (x last : Char) (step : Int) : List Raw :=
    (numbersFrom x.toNat last.toNat step).map fun code => [Char.ofNat code.toNat]
  let between (x last : Raw) (step : Int) : Option (List Raw) :=
    match x.toInt?, last.toInt? with
    | some low, some high =>
      let w := if hasLeadingZero x || hasLeadingZero last then max x.length last.length else 0
      some ((numbersFrom low high step).map (paddedNumber w))
    | none, none =>
      match x, last with
      | [low], [high] => if low.isAlpha && high.isAlpha then some (cs low high step) else none
      | _, _ => none
    | _, _ => none
  match splitDots [] s with
  | [x, last] => between x last 1
  | [x, last, step] => step.toInt?.bind fun step => between x last step
  | _ => none

def expandBraces : Nat → List Mark → List (List Mark)
  | 0, marks => [marks]
  | fuel + 1, marks =>
    let lead := marks.takeWhile fun mark => !mark.isChar '\x7b'
    match marks.drop lead.length with
    | [] => [marks]
    | brace :: inside =>
      let asText : List (List Mark) := (expandBraces fuel inside).map fun xs => lead ++ brace :: xs
      match splitBraces 0 [] [] inside with
      | none => asText
      | some (choices, xs) =>
        let joined (middles : List (List Mark)) : List (List Mark) :=
          let tails := expandBraces fuel xs
          middles.flatMap fun middle => tails.map fun tail => lead ++ middle ++ tail
        match choices with
        | [single] =>
          match (Mark.chars? single).bind sequence? with
          | some ms => joined (ms.map (·.map .char))
          | none => asText
        | choices => joined (choices.flatMap (expandBraces fuel))

def alternatives (w : Word) : List Word :=
  let marks := Mark.ofWord w
  if marks.any (Mark.isChar '\x7b') then
    (expandBraces (marks.length + 1) marks).map Mark.toWord |>.filter fun w => !w.isEmpty
  else [w]

end Assay.Script
