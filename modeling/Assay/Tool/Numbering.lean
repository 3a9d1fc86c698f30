import Assay.Tool.Stream

/-! # Numbering lines -/

namespace Assay.Tool

namespace Numbering

inductive Style where
  | all | filled | none

structure Layout where
  body : Style := .filled
  (start step : Int := 1)
  width : Nat := 6
  shape : Raw := "rn"
  gap : Raw := "\t"

variable (layout : Layout)

def Layout.column (n : Int) : Raw :=
  let ds := Raw.ofNat n.natAbs
  let sgn : Raw := if n < 0 then "-" else []
  let missing := layout.width - ds.length - sgn.length
  match layout.shape with
  | ['l', 'n'] => sgn ++ ds ++ List.replicate missing ' '
  | ['r', 'z'] => sgn ++ List.replicate missing '0' ++ ds
  | _ => inColumn layout.width (sgn ++ ds)

def Layout.counts (l : Raw) : Bool :=
  match layout.body with
  | .all => true
  | .filled => !l.isEmpty
  | .none => false

def largest : Int := Int.pow 2 63 - 1

def Layout.write (next : Int) (l : Raw) : Act Int := do
  if layout.counts l then
    if next > largest || next < -largest - 1 then abort 1 "line number overflow"
    emitLine (layout.column next ++ layout.gap ++ l)
    pure (next + layout.step)
  else
    emitLine (List.replicate (layout.width + layout.gap.length) ' ' ++ l)
    pure next

def styleOf? : Raw → Option Style
  | 'a' :: _ => some .all
  | 't' :: _ => some .filled
  | 'n' :: _ => some .none
  | _ => Option.none

def wholeOr (what : String) (s : Raw) : Act Int := do
  let body := s.dropWhile fun c => c = ' ' || ('\t' ≤ c && c ≤ '\r')
  let ds := if body.head? = some '-' || body.head? = some '+' then body.drop 1 else body
  let some n := Raw.toNat? ds | abort 1 (what.toList ++ ": " ++ cite s)
  let n : Int := if body.head? = some '-' then -(n : Int) else n
  if n > largest || n < -largest - 1 then
    abort 1 (what.toList ++ ": " ++ cite s ++ ": Value too large for defined data type")
  pure n

def Layout.add (option : Char) (v : Raw) : Act (Option Layout) := do
  match option with
  | 'b' =>
    match styleOf? v with
    | some body => pure (some { layout with body })
    | none =>
      complain ("invalid body numbering style: " ++ cite v)
      pure none
  | 'v' => pure (some { layout with start := ← wholeOr "invalid starting line number" v })
  | 'i' => pure (some { layout with step := ← wholeOr "invalid line number increment" v })
  | 's' => pure (some { layout with gap := v })
  | 'w' =>
    let width ← amountOr 1 "invalid line number field width" "" 1 2147483647 v
    pure (some { layout with width })
  | 'n' =>
    if v = "ln" || v = "rn" || v = "rz" then
      pure (some { layout with shape := v })
    else
      complain ("invalid line numbering format: " ++ cite v)
      pure none
  | _ => pure (some layout)

end Numbering

def nl (args : List Raw) : Act Nat := do
  let flags ← flagsOf "" "binsvw"
    ("body-numbering=b starting-line-number=v line-increment=i number-separator=s " ++
      "number-width=w number-format=n") args
  let mut layout : Numbering.Layout := {}
  let mut flawed := false
  for (option, v) in flags.options do
    let some changed ← layout.add option v | flawed := true
    layout := changed
  if flawed then
    pointToHelp
    throw (.exited 1)
  let mut next := layout.start
  let mut code := 0
  for arg in orInput flags.operands do
    match ← takeOperand arg with
    | .error e =>
      complain (operandFault arg e)
      code := 1
    | .ok bs =>
      for l in (Raw.ofBytes bs).lines do
        next ← layout.write next l.chomp
  closeInput "-" flags.operands code

end Assay.Tool
