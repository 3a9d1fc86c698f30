import Assay.Machine.Basic

/-! # Conditions -/

namespace Assay.Tool.Condition

structure View where
  tree : Unit → FileTree
  cwd : Place
  changed : Place → Int := fun _ => 0
  isSame : Place → Place → Bool := fun l r => l = r
  seen? : Entry → Option Entry := some
  prefersPresent : Bool := false

def View.ofJob (m : Machine) (job : Job) (prefersPresent : Bool) : View :=
  { tree := fun _ => m.tree, cwd := job.cwd, prefersPresent, isSame := m.isSame
    changed := fun p => (m.note p).changed, seen? := m.seen? job }

variable (view : View)

def View.entry? (lastLink : FileTree.LastLink) (p : Raw) : Option Entry :=
  match (view.tree ()).locate lastLink view.cwd ⟨p.toText⟩ with
  | .ok (_, e) => if lastLink = .keep then some e else view.seen? e
  | .error _ => none

def View.place? (path : Raw) : Option Place :=
  match (view.tree ()).locate .follow view.cwd ⟨path.toText⟩ with
  | .ok (p, _) => some p
  | .error _ => none

def View.permits (path : Raw) (bits : Nat) : Bool :=
  match view.entry? .follow path, view.place? path with
  | some (.file _ mode), _ => mode &&& bits = bits
  | some .directory, some p => (view.tree ()).allows p bits
  | some _, some p => bits &&& 0o100 = 0 && (view.tree ()).allows p bits
  | _, _ => false

def View.isNewer (l r : Raw) : Bool :=
  match view.place? l, view.place? r with
  | some l, some r => view.changed r < view.changed l
  | some _, none => view.prefersPresent
  | _, _ => false

def unary? (op arg : Raw) : Option Bool :=
  match op with
  | ['-', 'n'] => some !arg.isEmpty
  | ['-', 'z'] => some arg.isEmpty
  | op => ofFile op (view.entry? .follow arg)
where
  hasBit (e : Option Entry) (bit : Nat) : Bool :=
    match e with
    | some (.file _ mode) => mode &&& bit ≠ 0
    | _ => false
  ofFile (op : Raw) (e : Option Entry) : Option Bool :=
  match op with
  | ['-', 'e'] => some e.isSome
  | ['-', 'r'] => some (view.permits arg 0o400)
  | ['-', 'w'] => some (view.permits arg 0o200)
  | ['-', 'f'] => some (e.any Entry.isRegular)
  | ['-', 'd'] => some (e = some .directory)
  | ['-', 'h'] | ['-', 'L'] => some (view.entry? .keep arg matches some (.link _))
  | ['-', 's'] => some (match e with
    | some (.file content _) => !content.isEmpty
    | some .directory => true
    | _ => false)
  | ['-', 'x'] => some (view.permits arg 0o100)
  | ['-', 'p'] => some (e = some (.device .fifo))
  | ['-', 'c'] => some (match e with
    | some (.device .fifo) => false
    | some (.device _) => true
    | _ => false)
  | ['-', 'O'] | ['-', 'G'] => some e.isSome
  | ['-', 'u'] => some (hasBit e 0o4000)
  | ['-', 'g'] => some (hasBit e 0o2000)
  | ['-', 'k'] => some (hasBit e 0o1000)
  | ['-', 't'] | ['-', 'b'] | ['-', 'S'] => some false
  | _ => none

def compare? (op : Raw) : Option (Int → Int → Bool) :=
  match op with
  | ['-', 'e', 'q'] => some fun l r => l = r
  | ['-', 'n', 'e'] => some fun l r => l ≠ r
  | ['-', 'l', 't'] => some fun l r => l < r
  | ['-', 'l', 'e'] => some fun l r => l ≤ r
  | ['-', 'g', 't'] => some fun l r => l > r
  | ['-', 'g', 'e'] => some fun l r => l ≥ r
  | _ => none

def numberOf (arg : Raw) : Except Raw Int :=
  let isBlank (c : Char) : Bool := c = ' ' || c = '\t' || c = '\n'
  let s := ((arg.dropWhile isBlank).reverse.dropWhile isBlank).reverse
  match Raw.toInt? s with
  | some n =>
    if n.natAbs ≤ 9223372036854775807 then .ok n
    else .error ("Illegal number: " ++ arg)
  | none => .error ("Illegal number: " ++ arg)

def binary? (op l r : Raw) : Option (Except Raw Bool) :=
  match compare? op with
  | some holds => some do
    let l ← numberOf l
    let r ← numberOf r
    pure (holds l r)
  | none =>
    match op with
    | ['='] => some (.ok (l = r))
    | ['!', '='] => some (.ok (l ≠ r))
    | ['<'] => some (.ok (decide (l < r)))
    | ['>'] => some (.ok (decide (r < l)))
    | ['-', 'n', 't'] => some (.ok (view.isNewer l r))
    | ['-', 'o', 't'] => some (.ok (view.isNewer r l))
    | ['-', 'e', 'f'] => some (.ok (match view.place? l, view.place? r with
      | some l, some r => view.isSame l r
      | _, _ => false))
    | _ => none

inductive Kind where
  | unary | binary | joint
  deriving DecidableEq

def kindOf? (w : Raw) : Option Kind :=
  match w with
  | ['!'] | ['('] | [')'] | ['-', 'a'] | ['-', 'o'] => some .joint
  | ['='] | ['<'] | ['>'] | ['!', '='] => some .binary
  | ['-', ch] => if "rwxefdcbpugkstznhOGLS".contains ch then some .unary else none
  | ['-', x, y] =>
    if [('e', 'q'), ('n', 'e'), ('g', 'e'), ('g', 't'), ('l', 'e'), ('l', 't'), ('n', 't'),
        ('o', 't'), ('e', 'f')].contains (x, y) then some .binary
    else none
  | _ => none

inductive Token where
  | finish | operand
  | operator (s : Raw) (kind : Kind)
  deriving DecidableEq

def tokenAt : List Raw → Token
  | [] => .finish
  | w :: xs =>
    match kindOf? w with
    | none => .operand
    | some .unary =>
      match xs with
      | [] => .operand
      | [_] => .operator w .unary
      | next :: _ => if kindOf? next = some .binary then .operand else .operator w .unary
    | some kind => if w = "(" && xs.isEmpty then .operand else .operator w kind

abbrev Part := Token → List Raw → Except Raw (Bool × List Raw)

def primary (whole : Part) : Part
  | .finish, ws => .ok (false, ws)
  | .operator ['('] _, ws => do
    let g := ws.drop 1
    match tokenAt g with
    | .operator [')'] _ => .ok (false, g)
    | tok =>
      let (res, ws) ← whole tok g
      match tokenAt (ws.drop 1) with
      | .operator [')'] _ => .ok (res, ws.drop 1)
      | _ => .error "closing paren expected"
  | .operator s .unary, ws =>
    match ws.drop 1 with
    | [] => .error (s ++ ": argument expected")
    | arg :: xs => .ok ((unary? view s arg).getD false, arg :: xs)
  | _, ws =>
    match ws with
    | l :: op :: xs =>
      if kindOf? op = some .binary then
        match xs with
        | [] => .error (op ++ ": argument expected")
        | r :: more =>
          match binary? view op l r with
          | some res => res.map fun v => (v, r :: more)
          | none => .ok (false, r :: more)
      else .ok (!l.isEmpty, ws)
    | [w] => .ok (!w.isEmpty, ws)
    | [] => .ok (false, [])

def negation (view : View) (whole : Part) : Nat → Part
  | 0, _, _ => .error "argument expected"
  | fuel + 1, .operator ['!'] _, ws => do
    let tok := tokenAt (ws.drop 1)
    let ws := if tok = .finish then ws else ws.drop 1
    let (res, ws) ← negation view whole fuel tok ws
    .ok (!res, ws)
  | _, tok, ws => primary view whole tok ws

def joined (op : Raw) (combine : Bool → Bool → Bool) (next : Part) : Nat → Part
  | 0, _, _ => .error "argument expected"
  | fuel + 1, tok, ws => do
    let (l, ws) ← next tok ws
    match tokenAt (ws.drop 1) with
    | .operator s _ =>
      if s = op then
        let ws := ws.drop 2
        let (r, ws) ← joined op combine next fuel (tokenAt ws) ws
        .ok (combine l r, ws)
      else .ok (l, ws)
    | _ => .ok (l, ws)

def whole (view : View) : Nat → Part
  | 0, _, _ => .error "argument expected"
  | d + 1, tok, ws =>
    let fuel := ws.length + 2
    let both := joined "-a" (· && ·) (negation view (whole view d) fuel) fuel
    joined "-o" (· || ·) both fuel tok ws

def evaluateFrom (tok : Token) (ws : List Raw) : Except Raw Bool := do
  match ← whole view (ws.length + 2) tok ws with
  | (_, w :: _ :: _) =>
    throw ((if w.isEmpty then [] else w ++ ": ".toList) ++ "unexpected operator".toList)
  | (res, _) => pure res

def View.evaluate (view : View) (ws : List Raw) : Except Raw Bool :=
  let plain := evaluateFrom view (tokenAt ws) ws
  let inParentheses (ws : List Raw) : Option (List Raw) :=
    if ws.head? = some "(" && ws.getLast? = some ")" then some (ws.drop 1).dropLast
    else none
  match ws with
  | [] => .ok false
  | [x, y, third] =>
    if kindOf? y = some .binary then evaluateFrom view .operand ws
    else
      match inParentheses ws with
      | some g => evaluateFrom view (tokenAt g) g
      | none =>
        if x = "!" then (evaluateFrom view (tokenAt [y, third]) [y, third]).map (!·)
        else plain
  | [x, y, third, fourth] =>
    match inParentheses ws with
    | some g => evaluateFrom view (tokenAt g) g
    | none =>
      if x = "!" then (view.evaluate [y, third, fourth]).map (!·)
      else plain
  | _ => plain
termination_by ws.length

end Assay.Tool.Condition
