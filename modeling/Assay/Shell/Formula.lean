import Assay.Text.Raw

/-! # Formulas of the shell -/

namespace Assay.Shell

inductive FormulaFlaw where
  | noPrimary | noEnd | noParenthesis | noColon | divisionByZero | overflow
  | badNumber (s : Raw)

def FormulaFlaw.message (flaw : FormulaFlaw) (formula : Raw) : Raw :=
  let inFormula (s : String) : Raw :=
    "arithmetic expression: " ++ s.toList ++ ": \"" ++ formula ++ "\""
  match flaw with
  | .noPrimary => inFormula "expecting primary"
  | .noEnd => inFormula "expecting EOF"
  | .noParenthesis => inFormula "expecting ')'"
  | .noColon => inFormula "expecting ':'"
  | .divisionByZero => inFormula "division by zero"
  | .overflow => inFormula "overflow"
  | .badNumber s => "Illegal number: " ++ s

namespace Formula

structure Work where
  rest : Raw
  lookup : Raw → Option Raw
  assigned : List (Raw × Int) := []

abbrev Eval := StateT Work (Except FormulaFlaw)

def wrap (n : Int) : Int := if n.natAbs < 1073741824 then n else n.bmod 18446744073709551616

def operators : List String :=
  ("<<= >>= || && == != <= >= << >> += -= *= /= %= &= |= ^= + - * / % & | ^ < > ! ~ ? : ( ) " ++
    "=").splitOn

def assigning : List (String × String) :=
  [("=", ""), ("<<=", "<<"), (">>=", ">>"), ("+=", "+"), ("-=", "-"), ("*=", "*"), ("/=", "/"),
    ("%=", "%"), ("&=", "&"), ("|=", "|"), ("^=", "^")]

variable (cs : Raw)

def skipBlank : Raw := cs.dropWhile Char.isWhitespace

def operatorChars : List (String × Raw) := operators.map fun s => (s, s.toList)

def operatorAt : Option String :=
  match skipBlank cs with
  | [] => none
  | x :: xs =>
    if x.isAlphanum then none
    else (operatorChars.find? (·.2.isPrefixOf (x :: xs))).map (·.1)

def peek : Eval (Option String) := do
  pure (operatorAt (← get).rest)

def takeOperator (s : String) : Eval Unit :=
  modify fun work => { work with rest := (skipBlank work.rest).drop s.length }

def maxNumber : Nat := 9223372036854775807

def splitNumber : Nat × Raw :=
  let ds (base : Nat) (cs : Raw) : Nat × Raw :=
    let isDigit (c : Char) : Bool := match Raw.hexDigit? c with
      | some d => d < base
      | none => false
    ((cs.takeWhile isDigit).foldl
      (fun n c => n * base + (Raw.hexDigit? c).getD 0) 0,
      cs.dropWhile isDigit)
  let isHex := (cs.drop 2).head?.any fun c => (Raw.hexDigit? c).isSome
  match cs, isHex with
  | '0' :: 'x' :: xs, true => ds 16 xs
  | '0' :: 'X' :: xs, true => ds 16 xs
  | '0' :: xs, _ => ds 8 xs
  | _, _ => ds 10 cs

def numberOf? (v : Raw) : Option Int :=
  let s := skipBlank v
  let signed (negative : Bool) (cs : Raw) : Option Int :=
    match cs with
    | [] => none
    | x :: _ =>
      if !x.isDigit then none
      else
        let (n, xs) := splitNumber cs
        if (skipBlank xs).isEmpty && n ≤ maxNumber + negative.toNat then
          some (if negative then -(n : Int) else n)
        else none
  match s with
  | [] => some 0
  | '-' :: xs => signed true xs
  | '+' :: xs => signed false xs
  | _ => signed false s

def valueOf (name : Raw) : Eval Int := do
  let work ← get
  match work.assigned.lookup name with
  | some v => pure v
  | none =>
    let s := (work.lookup name).getD []
    match numberOf? s with
    | some v => pure (wrap v)
    | none => throw (.badNumber s)

def ofBool (v : Bool) : Int := if v then 1 else 0

def onBits (operation : BitVec 64 → BitVec 64 → BitVec 64) (l r : Int) : Int :=
  (operation (BitVec.ofInt 64 l) (BitVec.ofInt 64 r)).toInt

/-- Divides where that is defined: not by zero, and not the least number by minus one. -/
def divided (counts : Bool) (divide : Int → Int → Int) (l r : Int) : Eval Int :=
  if r = 0 then if counts then throw .divisionByZero else pure 0
  else if l = -(maxNumber : Int) - 1 ∧ r = -1 then if counts then throw .overflow else pure 0
  else pure (divide l r)

def applied (op : String) (l r : Int) : Int :=
  match op with
  | "+" => wrap (l + r)
  | "-" => wrap (l - r)
  | "*" => wrap (l * r)
  | "<<" => onBits (fun bits _ => bits <<< (r % 64).toNat) l r
  | ">>" => onBits (fun bits _ => bits.sshiftRight (r % 64).toNat) l r
  | "<" => ofBool (l < r)
  | ">" => ofBool (l > r)
  | "<=" => ofBool (l ≤ r)
  | ">=" => ofBool (l ≥ r)
  | "==" => ofBool (l = r)
  | "!=" => ofBool (l ≠ r)
  | "&" => onBits (· &&& ·) l r
  | "|" => onBits (· ||| ·) l r
  | "^" => onBits (· ^^^ ·) l r
  | "&&" => ofBool (l ≠ 0 ∧ r ≠ 0)
  | "||" => ofBool (l ≠ 0 ∨ r ≠ 0)
  | _ => r

def apply (counts : Bool) (op : String) (l r : Int) : Eval Int :=
  match op with
  | "/" => divided counts Int.tdiv l r
  | "%" => divided counts Int.tmod l r
  | _ => pure (applied op l r)

def levelOf? (op : String) : Option Nat :=
  match op with
  | "||" => some 0
  | "&&" => some 1
  | "|" => some 2
  | "^" => some 3
  | "&" => some 4
  | "==" | "!=" => some 5
  | "<=" | ">=" | "<" | ">" => some 6
  | "<<" | ">>" => some 7
  | "+" | "-" => some 8
  | "*" | "/" | "%" => some 9
  | _ => none

def operand (whole : Bool → Eval Int) (counts : Bool) : Nat → Eval Int
  | 0 => throw .noPrimary
  | fuel + 1 => do
    match ← peek with
    | some "-" => takeOperator "-"; pure (wrap (-(← operand whole counts fuel)))
    | some "+" => takeOperator "+"; operand whole counts fuel
    | some "!" => takeOperator "!"; pure (ofBool ((← operand whole counts fuel) = 0))
    | some "~" => takeOperator "~"; pure (-(← operand whole counts fuel) - 1)
    | some "(" =>
      takeOperator "("
      let v ← whole counts
      if (← peek) = some ")" then takeOperator ")"; pure v else throw .noParenthesis
    | some _ => throw .noPrimary
    | none =>
      let work ← get
      match skipBlank work.rest with
      | [] => throw .noPrimary
      | x :: rest =>
        if x.isDigit then
          let (n, rest) := splitNumber (x :: rest)
          set { work with rest }
          pure (min n maxNumber : Nat)
        else if x.isAlpha || x = '_' then
          let isNameChar (c : Char) : Bool := c.isAlphanum || c = '_'
          set { work with rest := rest.dropWhile isNameChar }
          if counts then valueOf (x :: rest.takeWhile isNameChar) else pure 0
        else throw .noPrimary

def joinedOnto (whole : Bool → Eval Int) : Nat → Bool → Nat → Int → Eval Int
  | 0, _, _, l => pure l
  | fuel + 1, counts, least, l => do
    let some op ← peek | pure l
    let some level := levelOf? op | pure l
    if level < least then pure l
    else
      takeOperator op
      let decides := (op = "&&" && l = 0) || (op = "||" && l ≠ 0)
      let counting := counts && !decides
      let x ← operand whole counting ((← get).rest.length + 1)
      let r ← joinedOnto whole fuel counting (level + 1) x
      joinedOnto whole fuel counts least (← apply counts op l r)

def binary (whole : Bool → Eval Int) (counts : Bool) : Eval Int := do
  let l ← operand whole counts ((← get).rest.length + 1)
  joinedOnto whole ((← get).rest.length + 1) counts 0 l

def assignment? : Option (Raw × String × Raw) :=
  let isNameChar (c : Char) : Bool := c.isAlphanum || c = '_'
  let cs := skipBlank cs
  let name := cs.takeWhile isNameChar
  match name with
  | [] => none
  | x :: _ =>
    if x.isDigit then none
    else
      let xs := cs.dropWhile isNameChar
      match operatorAt xs with
      | some op =>
        if (assigning.lookup op).isSome then some (name, op, (skipBlank xs).drop op.length)
        else none
      | none => none

def whole : Nat → Bool → Bool → Eval Int
  | 0, _, _ => throw .noPrimary
  | d + 1, mayAssign, counts => do
    let rest := (← get).rest
    match if mayAssign then assignment? rest else none with
    | some (name, op, rest) =>
      modify ({ · with rest })
      let r ← whole d true counts
      let op := (assigning.lookup op).getD ""
      let v ←
        if op = "" then pure r
        else if counts then apply counts op (← valueOf name) r
        else pure 0
      if counts then modify fun work => { work with assigned := (name, v) :: work.assigned }
      pure v
    | none =>
      let test ← binary (whole d true) counts
      if (← peek) = some "?" then
        takeOperator "?"
        let l ← whole d true (counts && test ≠ 0)
        if (← peek) = some ":" then
          takeOperator ":"
          let r ← whole d false (counts && test = 0)
          pure (if test ≠ 0 then l else r)
        else throw .noColon
      else pure test

def evaluate (lookup : Raw → Option Raw) (formula : Raw) :
    Except FormulaFlaw (Int × List (Raw × Int)) := do
  let (v, work) ← (whole (formula.length + 1) true true).run { rest := formula, lookup }
  if (skipBlank work.rest).isEmpty then .ok (v, work.assigned.reverse) else .error .noEnd

end Formula

end Assay.Shell
