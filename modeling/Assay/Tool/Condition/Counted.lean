import Assay.Tool.Condition

/-! # Conditions read by the number of their words -/

namespace Assay.Tool.Condition

structure Rules where
  isUnary : Raw → Bool
  unary : Raw → Raw → Except Raw Bool
  isBinary : Raw → Bool
  binary : Raw → Raw → Raw → Except Raw Bool
  missing : Raw → Raw
  unclear : (x last : Raw) → Raw
  (noUnary noBinary : Raw → Raw)
  unclosed : Option Raw → Raw
  extra : Raw → Raw
  (countsWithin joinsTexts : Bool)

def isDashed : Raw → Bool
  | ['-', _] => true
  | _ => false

namespace Rules

abbrev Reading := List Raw → Except Raw (Bool × List Raw)

variable (rules : Rules)

def applyUnary : Reading
  | op :: arg :: xs =>
    if rules.isUnary op then do pure (← rules.unary op arg, xs)
    else .error (rules.noUnary op)
  | ws => .error (rules.missing (ws.getLastD []))

def applyBinary : Reading
  | l :: op :: r :: xs => do pure (← rules.binary op l r, xs)
  | ws => .error (rules.missing (ws.getLastD []))

def one : Reading
  | w :: xs => .ok (!w.isEmpty, xs)
  | [] => .error (rules.missing [])

def two : Reading
  | x :: y :: xs =>
    if x = "!" then .ok (y.isEmpty, xs)
    else if isDashed x then rules.applyUnary (x :: y :: xs)
    else .error (rules.unclear x ((y :: xs).getLastD []))
  | ws => .error (rules.missing (ws.getLastD []))

def isJoint (w : Raw) : Bool := w = "-a" || w = "-o"

def three (whole : Reading) : Reading
  | x :: y :: third :: xs =>
    let joinTexts : Bool := if y = "-a" then !x.isEmpty && !third.isEmpty
      else !x.isEmpty || !third.isEmpty
    if rules.isBinary y then rules.applyBinary (x :: y :: third :: xs)
    else if rules.joinsTexts && isJoint y then .ok (joinTexts, xs)
    else if x = "!" then do
      let (res, xs) ← rules.two (y :: third :: xs)
      pure (!res, xs)
    else if x = "(" && third = ")" then .ok (!y.isEmpty, xs)
    else if isJoint y then whole (x :: y :: third :: xs)
    else .error (rules.noBinary y)
  | ws => .error (rules.missing (ws.getLastD []))

def counted (whole : Reading) (k : Nat) : Reading := fun ws =>
  match k, ws with
  | 1, ws => rules.one ws
  | 2, ws => rules.two ws
  | 3, ws => rules.three whole ws
  | 4, x :: xs =>
    if x = "!" then do
      let (res, xs) ← rules.three whole xs
      pure (!res, xs)
    else if x = ['('] && xs[2]? = some [')'] then do
      let (res, xs) ← rules.two xs
      pure (res, xs.drop 1)
    else whole ws
  | _, ws => whole ws

def countWithin (ws : List Raw) : Nat :=
  let k := (ws.drop 1).takeWhile (· ≠ [')']) |>.length
  if k + 1 ≥ 5 then ws.length else k + 1

def term (rules : Rules) (whole : Reading) (last : Raw) : Nat → Reading
  | 0, _ => .error (rules.missing last)
  | fuel + 1, ws =>
    match ws with
    | [] => .error (rules.missing last)
    | ['!'] :: xs => do
      let (res, xs) ← rules.term whole last fuel xs
      pure (!res, xs)
    | ['('] :: xs => do
      if xs.isEmpty then .error (rules.missing last)
      let (res, xs) ←
        if rules.countsWithin then rules.counted whole (countWithin xs) xs else whole xs
      match xs with
      | [')'] :: xs => pure (res, xs)
      | hit => .error (rules.unclosed hit.head?)
    | x :: xs =>
      if xs.length ≥ 2 && (xs.head?.any rules.isBinary) then rules.applyBinary ws
      else if isDashed x && (rules.countsWithin || (rules.isUnary x && !xs.isEmpty)) then
        if xs.isEmpty then .error (rules.missing last) else rules.applyUnary ws
      else .ok (!x.isEmpty, xs)

def joinedBy (w : Raw) (combine : Bool → Bool → Bool) (next : Reading) : Nat → Reading
  | 0, ws => next ws
  | fuel + 1, ws => do
    let (l, xs) ← next ws
    match xs with
    | hit :: xs =>
      if hit = w then
        let (r, xs) ← joinedBy w combine next fuel xs
        pure (combine l r, xs)
      else pure (l, hit :: xs)
    | [] => pure (l, [])

def formula (rules : Rules) (last : Raw) : Nat → Reading
  | 0, _ => .error (rules.missing last)
  | d + 1, ws =>
    let fuel := ws.length + 1
    let single := rules.term (rules.formula last d) last fuel
    joinedBy "-o" (· || ·) (joinedBy "-a" (· && ·) single fuel) fuel ws

def evaluate (ws : List Raw) : Except Raw Bool := do
  if ws.isEmpty then return false
  let whole := rules.formula (ws.getLastD []) (ws.length + 1)
  match ← rules.counted whole ws.length ws with
  | (res, []) => pure res
  | (_, w :: _) => .error (rules.extra w)

end Rules

def wholeNumber? (arg : Raw) : Option Int :=
  let isBlank (c : Char) : Bool := c = ' ' || ('\t' ≤ c && c ≤ '\r')
  let s := ((arg.dropWhile isBlank).reverse.dropWhile isBlank).reverse
  match s with
  | '+' :: ds => (Raw.toNat? ds).map Int.ofNat
  | s => Raw.toInt? s

def View.rules (view : View) (quoted : Raw → Raw) : Rules :=
  { isUnary := fun op =>
      match op with
      | ['-', ch] => "bcdefghknprstuwxzGLNOS".contains ch
      | _ => false
    unary := fun op arg =>
      if op = "-t" && (wholeNumber? arg).isNone then .error ("invalid integer " ++ quoted arg)
      else if op = "-N" then .ok (view.entry? .follow arg).isSome
      else .ok ((unary? view op arg).getD false)
    isBinary := fun op =>
      op = "==" || (kindOf? op = some .binary && op ≠ "<" && op ≠ ">")
    binary := fun op l r =>
      match compare? op with
      | some holds =>
        match wholeNumber? l, wholeNumber? r with
        | some l, some r => .ok (holds l r)
        | none, _ => .error ("invalid integer " ++ quoted l)
        | _, none => .error ("invalid integer " ++ quoted r)
      | none =>
        let op := if op = ['=', '='] then ['='] else op
        (binary? view op l r).getD (.ok false)
    missing := fun last => "missing argument after " ++ quoted last
    unclear := fun _ last => "missing argument after " ++ quoted last
    noUnary := fun w => quoted w ++ ": unary operator expected"
    noBinary := fun w => quoted w ++ ": binary operator expected"
    unclosed := fun hit =>
      quoted ")" ++ " expected".toList ++ (hit.elim [] fun w => ", found ".toList ++ quoted w)
    extra := fun w => "extra argument ".toList ++ quoted w
    countsWithin := true
    joinsTexts := false }

end Assay.Tool.Condition
