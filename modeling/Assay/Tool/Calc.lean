import Assay.Text.Regex
import Assay.Tool.Basic

/-! # Evaluating words -/

namespace Assay.Tool

open Text (Regex)

namespace Calc

inductive Flaw where
  | missing (w : Raw)
  | unexpected (w : Raw)
  | unopened
  | unclosed (after : Raw)
  | insteadOfClosing (w : Raw)
  | notNumber | divisionByZero
  | regex (flaw : Regex.Flaw)

def Flaw.message : Flaw → Raw
  | .missing w => "syntax error: missing argument after " ++ cite w
  | .unexpected w => "syntax error: unexpected argument " ++ cite w
  | .unopened => "syntax error: unexpected ')'"
  | .unclosed post => "syntax error: expecting ')' after " ++ cite post
  | .insteadOfClosing w => "syntax error: expecting ')' instead of " ++ cite w
  | .notNumber => "non-integer argument"
  | .divisionByZero => "division by zero"
  | .regex flaw => flaw.message.toList

structure Input where
  before : Raw := []
  words : List Raw

abbrev Reading := Except Flaw (Raw × Input)

namespace Input

def next (input : Input) : Except Flaw (Raw × Input) :=
  match input.words with
  | w :: words => .ok (w, { before := w, words })
  | [] => .error (.missing input.before)

def accept? (input : Input) (choices : List String) : Option (String × Input) :=
  match input.words with
  | w :: words =>
    (choices.find? (·.toList = w)).map fun choice =>
      (choice, { before := w, words })
  | [] => none

end Input

def number? : Raw → Option Int
  | '-' :: ds => (Raw.toNat? ds).map fun n => -(n : Int)
  | ds => ds.toNat?.map Int.ofNat

def isNull (v : Raw) : Bool := v.isEmpty || number? v = some 0

def matchStart (v expr : Raw) : Except Flaw Raw :=
  match Regex.read .basic expr with
  | .error flaw => .error (.regex flaw)
  | .ok re =>
    let grouped := re.groupCount > 0
    match re.matchFrom v 0 v with
    | none => .ok (if grouped then [] else "0")
    | some pt =>
      match pt.groups.find? fun grp => grp.1 = 1 with
      | some (_, x, last) => .ok ((v.drop x).take (last - x))
      | none => .ok (if grouped then [] else Raw.ofNat pt.offset)

def indexOf (v cs : Raw) : Raw :=
  match v.findIdx? cs.contains with
  | some i => Raw.ofNat (i + 1)
  | none => "0"

def part (v start len : Raw) : Raw :=
  match number? start, number? len with
  | some start, some len =>
    if start ≤ 0 || len ≤ 0 then [] else (v.drop (start.toNat - 1)).take len.toNat
  | _, _ => []

def apply (op : String) (l r : Raw) : Except Flaw Raw :=
  let ns (operation : Int → Int → Except Flaw Raw) : Except Flaw Raw :=
    match number? l, number? r with
    | some l, some r => operation l r
    | _, _ => .error .notNumber
  let compare (onNumbers : Int → Int → Bool) (onTexts : Raw → Raw → Bool) :
      Except Flaw Raw :=
    let holds := match number? l, number? r with
      | some l, some r => onNumbers l r
      | _, _ => onTexts l r
    .ok (if holds then "1" else "0")
  match op with
  | "+" => ns fun l r => .ok (Raw.ofInt (l + r))
  | "-" => ns fun l r => .ok (Raw.ofInt (l - r))
  | "*" => ns fun l r => .ok (Raw.ofInt (l * r))
  | "/" => ns fun l r => if r = 0 then .error .divisionByZero else .ok (Raw.ofInt (l.tdiv r))
  | "%" => ns fun l r => if r = 0 then .error .divisionByZero else .ok (Raw.ofInt (l.tmod r))
  | "=" | "==" => compare (fun l r => l = r) (fun l r => l = r)
  | "!=" => compare (fun l r => l ≠ r) (fun l r => l ≠ r)
  | "<" => compare (fun l r => l < r) (fun l r => decide (l < r))
  | "<=" => compare (fun l r => l ≤ r) (fun l r => !decide (r < l))
  | ">" => compare (fun l r => l > r) (fun l r => decide (r < l))
  | ">=" => compare (fun l r => l ≥ r) (fun l r => !decide (l < r))
  | _ => matchStart l r

def levels : List (List String) :=
  [["|"], ["&"], "< <= = == != >= >".splitOn, ["+", "-"], ["*", "/", "%"], [":"]]

def joinedOnto (operators : List String) (next : Bool → Input → Reading) (live : Bool) :
    Nat → Raw → Input → Reading
  | 0, l, input => .ok (l, input)
  | fuel + 1, l, input =>
    match input.accept? operators with
    | none => .ok (l, input)
    | some (op, input) => do
      let isNeeded := match op with
        | "|" => isNull l
        | "&" => !isNull l
        | _ => true
      let (r, input) ← next (live && isNeeded) input
      let v ← match op with
        | "|" => .ok (if !isNull l then l else if isNull r then "0" else r)
        | "&" => .ok (if isNull l || isNull r then "0" else l)
        | _ => if live then apply op l r else .ok l
      joinedOnto operators next live fuel v input

def value (whole : Bool → Input → Reading) (live : Bool) : Nat → Input → Reading
  | 0, input => .error (.missing input.before)
  | fuel + 1, input => do
    match input.accept? "+ length match index substr ( )".splitOn with
    | none => input.next
    | some ("+", input) => input.next
    | some ("length", input) =>
      let (s, input) ← value whole live fuel input
      .ok (Raw.ofNat s.length, input)
    | some ("match", input) =>
      let (s, input) ← value whole live fuel input
      let (expr, input) ← value whole live fuel input
      .ok (← if live then matchStart s expr else .ok s, input)
    | some ("index", input) =>
      let (s, input) ← value whole live fuel input
      let (cs, input) ← value whole live fuel input
      .ok (indexOf s cs, input)
    | some ("substr", input) =>
      let (s, input) ← value whole live fuel input
      let (start, input) ← value whole live fuel input
      let (len, input) ← value whole live fuel input
      .ok (part s start len, input)
    | some ("(", input) =>
      let (s, input) ← whole live input
      match input.words with
      | [')'] :: words => .ok (s, { before := ")", words })
      | w :: _ => .error (.insteadOfClosing w)
      | [] => .error (.unclosed input.before)
    | some (_, _) => .error .unopened

def expression (whole : Bool → Input → Reading) (live : Bool) : List (List String) → Input → Reading
  | [], input => value whole live (input.words.length + 1) input
  | operators :: tighter, input => do
    let (l, xs) ← expression whole live tighter input
    joinedOnto operators (fun live input => expression whole live tighter input) live
      (input.words.length + 1) l xs

def whole : Nat → Bool → Input → Reading
  | 0, _, input => .error (.missing input.before)
  | d + 1, live, input => expression (whole d) live levels input

def evaluate (words : List Raw) : Except Flaw Raw := do
  match ← whole (words.length + 1) true { words } with
  | (v, { words := [], .. }) => .ok v
  | (_, { words := w :: _, .. }) => .error (.unexpected w)

end Calc

def expr (args : List Raw) : Act Nat := do
  let ws := if args.head? = some "--" then args.drop 1 else args
  if ws.isEmpty then abortUsage 2 "missing operand"
  match Calc.evaluate ws with
  | .error flaw => abort 2 flaw.message
  | .ok v =>
    emitLine v
    pure (if Calc.isNull v then 1 else 0)

end Assay.Tool
