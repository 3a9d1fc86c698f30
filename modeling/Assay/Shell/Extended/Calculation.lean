import Assay.Shell.Extended.Variable
import Assay.Shell.Formula

/-! # Formulas of the extended language -/

namespace Assay.Shell

inductive CalcFlaw where
  | reason (s : String) (formula token : Raw)
  | unbound (name : Raw)
  | fixed (name : Raw)

def CalcFlaw.message : CalcFlaw → Raw
  | .reason s formula tok => formula ++ ": " ++ s.toList ++ " (error token is \"" ++ tok ++ "\")"
  | .unbound name => name ++ ": unbound variable"
  | .fixed name => name ++ ": readonly variable"

namespace Calc

inductive Token where
  | finish | number | name
  | sign (s : String)
  deriving DecidableEq

structure Place where
  name : Raw
  key : Option Raw := none

structure Work where
  shell : Shell
  (whole rest last : Raw)
  (token before : Token := .finish)
  place : Place := { name := [] }
  value : Int := 0
  idle : Bool := false

abbrev Eval := ExceptT CalcFlaw (StateM Work)

def refuse {α : Type} (s : String) : Eval α := do
  let work ← get
  throw (.reason s (work.whole.dropWhile fun c => c = ' ' || c = '\t') work.last)

def noOperand {α : Type} : Eval α := refuse "syntax error: operand expected"

def signs : List (String × Raw) :=
  ("<<= >>= ** == != <= >= << >> && || ++ -- += -= *= /= %= &= ^= |= = + - * / % < > & | ^ ! ~ ? : " ++
    "( ) ,").splitOn.map fun s => (s, s.toList)

def digitValue (base : Nat) (c : Char) : Nat :=
  if c.isDigit then c.toNat - 48
  else if c.isLower then c.toNat - 87
  else if c.isUpper then c.toNat - (if base ≤ 36 then 55 else 29)
  else if c = '@' then 62
  else 63

def digitsValue (base : Nat) (ds : Raw) : Except String Int :=
  ds.foldlM (fun (v : Int) c =>
    let d := digitValue base c
    if d ≥ base then .error "value too great for base"
    else .ok (Formula.wrap (v * base + d))) 0

def numberOf (s : Raw) : Except String Int :=
  match s with
  | ['0'] => .ok 0
  | '0' :: xs =>
    let (base, ds) := match xs with
      | 'x' :: xs | 'X' :: xs => (16, xs)
      | xs => (8, xs)
    if ds.isEmpty || ds.contains '#' then .error "invalid number"
    else digitsValue base ds
  | _ =>
    let lead := s.takeWhile (· ≠ '#')
    if lead.length = s.length then digitsValue 10 s
    else do
      let base ← digitsValue 10 lead
      if base < 2 || base > 64 then .error "invalid arithmetic base"
      else
        let ds := s.drop (lead.length + 1)
        if ds.isEmpty then .error "invalid integer constant"
        else if ds.contains '#' then .error "invalid number"
        else digitsValue base.toNat ds

def isNumberChar (c : Char) : Bool := c.isAlphanum || c = '#' || c = '@' || c = '_'

def setsName (cs : Raw) : Bool :=
  match Formula.skipBlank cs with
  | '=' :: '=' :: _ => false
  | '=' :: _ => true
  | _ => false

def next (valueOf : Place → Eval Int) : Eval Unit := do
  let work ← get
  let cs := Formula.skipBlank work.rest
  match cs with
  | [] => set { work with before := work.token, token := .finish, rest := [] }
  | x :: _ =>
    let take (token : Token) (len : Nat) : Work :=
      { work with before := work.token, token, rest := cs.drop len, last := cs }
    if Script.isNameStart x then
      let name := cs.takeWhile Script.isNameChar
      let (key, len) := match cs.drop name.length with
        | '[' :: xs =>
          match Script.splitKey 0 none [] xs with
          | some (key, _) => (some key, name.length + key.length + 2)
          | none => (none, name.length)
        | _ => (none, name.length)
      set { take .name len with place := { name, key } }
      if work.idle || setsName (cs.drop len) then modify ({ · with value := 0 })
      else
        let value ← valueOf { name, key }
        modify ({ · with value })
    else if x.isDigit then
      let s := cs.takeWhile isNumberChar
      match numberOf s with
      | .ok value => set { take .number s.length with value }
      | .error reason =>
        let shown := work.whole.take (work.whole.length - (cs.length - s.length))
        throw (.reason reason (Formula.skipBlank shown) s)
    else
      match signs.find? fun q => q.2.isPrefixOf cs with
      | some ("++", _) | some ("--", _) =>
        let isBefore := (Formula.skipBlank (cs.drop 2)).head?.any Script.isNameStart
        if work.token = .name || isBefore then set (take (.sign (String.ofList (cs.take 2))) 2)
        else set (take (.sign (String.ofList [x])) 1)
      | some (s, _) => set (take (.sign s) s.length)
      | none =>
        set { work with last := cs }
        refuse (match work.token with
          | .number | .name => "syntax error: invalid arithmetic operator"
          | .sign ")" => "syntax error: invalid arithmetic operator"
          | _ => "syntax error: operand expected")

def applying : List (String × String) :=
  [("<<=", "<<"), (">>=", ">>"), ("+=", "+"), ("-=", "-"), ("*=", "*"), ("/=", "/"), ("%=", "%"),
    ("&=", "&"), ("|=", "|"), ("^=", "^")]

def power (base : Int) (ex : Nat) : Int :=
  if ex < 64 then Formula.wrap (Int.pow base ex)
  else
    (List.range (ex.log2 + 1)).reverse.foldl (fun v bit =>
      let squared := Formula.wrap (v * v)
      if ex.testBit bit then Formula.wrap (squared * base) else squared) 1

def apply (op : String) (tok : Raw) (l r : Int) : Eval Int := do
  match op with
  | "/" | "%" =>
    if r = 0 then
      if (← get).idle then pure 0
      else
        modify ({ · with last := Formula.skipBlank tok })
        refuse "division by 0"
    else if op = "/" then pure (Formula.wrap (l.tdiv r))
    else pure (l.tmod r)
  | _ => pure (Formula.applied op l r)

def idleIf (isIdle : Bool) (action : Eval Int) : Eval Int := do
  let pre := (← get).idle
  modify ({ · with idle := pre || isIdle })
  let v ← action
  modify ({ · with idle := pre })
  pure v

structure Inner where
  whole : Eval Int
  valueOf : Place → Eval Int
  keyOf : Place → Eval (Option Raw)

variable (inner : Inner)

def store (p : Place) (v : Int) : Eval Unit := do
  if (← get).idle then pure ()
  else
    let key ← inner.keyOf p
    let work ← get
    let name := work.shell.resolved p.name
    if work.shell.isFixed name then throw (.fixed name)
    let s := Raw.ofInt v
    let shell := match key with
      | some key => work.shell.putElement name key s
      | none => work.shell.putText name s
    set { work with shell }

def primary : Eval Int := do
  let work ← get
  let isStep (s : String) : Bool := s = "++" || s = "--"
  let stepped (s : String) (v : Int) : Int := Formula.wrap (if s = "++" then v + 1 else v - 1)
  match work.token with
  | .sign "(" =>
    next inner.valueOf
    let v ← inner.whole
    if (← get).token = .sign ")" then next inner.valueOf else refuse "missing `)'"
    pure v
  | .number =>
    next inner.valueOf
    pure work.value
  | .name =>
    next inner.valueOf
    match (← get).token with
    | .sign s =>
      if isStep s then
        store inner work.place (stepped s work.value)
        modify ({ · with token := .number })
        next inner.valueOf
      pure work.value
    | _ => pure work.value
  | .sign s =>
    if isStep s then
      next inner.valueOf
      let work ← get
      let v := stepped s work.value
      store inner work.place v
      modify ({ · with token := .number })
      next inner.valueOf
      pure v
    else noOperand
  | .finish => noOperand

def signed (inner : Inner) : Nat → Eval Int
  | 0 => noOperand
  | fuel + 1 => do
    let post (change : Int → Int) : Eval Int := do
      next inner.valueOf
      let v ← signed inner fuel
      modify ({ · with before := .number })
      pure (change v)
    match (← get).token with
    | .sign "!" => post fun v => Formula.ofBool (v = 0)
    | .sign "~" => post fun v => -v - 1
    | .sign "-" => post fun v => Formula.wrap (-v)
    | .sign "+" => post id
    | _ => primary inner

def powers (inner : Inner) : Nat → Eval Int
  | 0 => noOperand
  | fuel + 1 => do
    let base ← signed inner ((← get).rest.length + 2)
    if (← get).token = .sign "**" then
      next inner.valueOf
      let ex ← powers inner fuel
      modify ({ · with before := .number })
      if ex < 0 then refuse "exponent less than 0"
      pure (power base ex.toNat)
    else pure base

def joinedOnto (inner : Inner) : Nat → Nat → Int → Eval Int
  | 0, _, l => pure l
  | fuel + 1, least, l => do
    match (← get).token with
    | .sign op =>
      match Formula.levelOf? op with
      | some level =>
        if level < least then pure l
        else
          let tok := (← get).rest
          next inner.valueOf
          let decided := (op = "&&" && l = 0) || (op = "||" && l ≠ 0)
          let r ← idleIf decided do
            let x ← powers inner ((← get).rest.length + 2)
            joinedOnto inner fuel (level + 1) x
          let v ← apply op tok l r
          modify ({ · with before := .number })
          joinedOnto inner fuel least v
      | none => pure l
    | _ => pure l

def binary : Eval Int := do
  let l ← powers inner ((← get).rest.length + 2)
  joinedOnto inner ((← get).rest.length + 2) 0 l

def choice (inner : Inner) : Nat → Eval Int
  | 0 => noOperand
  | fuel + 1 => do
    let test ← binary inner
    if (← get).token = .sign "?" then
      next inner.valueOf
      match (← get).token with
      | .finish | .sign ":" => refuse "expression expected"
      | _ => pure ()
      let l ← idleIf (test = 0) inner.whole
      if (← get).token ≠ .sign ":" then refuse "`:' expected for conditional expression"
      next inner.valueOf
      if (← get).token = .finish then refuse "expression expected"
      let r ← idleIf (test ≠ 0) (choice inner fuel)
      modify ({ · with before := .number })
      pure (if test ≠ 0 then l else r)
    else pure test

def assigned (inner : Inner) : Nat → Eval Int
  | 0 => noOperand
  | fuel + 1 => do
    let l ← choice inner ((← get).rest.length + 2)
    let work ← get
    match work.token with
    | .sign sgn =>
      let op := applying.lookup sgn
      if sgn ≠ "=" && op.isNone then pure l
      else
        if work.before ≠ .name then refuse "attempted assignment to non-variable"
        let p := work.place
        next inner.valueOf
        let r ← assigned inner fuel
        let v ← match op with
          | some op => apply op work.rest l r
          | none => pure r
        store inner p v
        pure v
    | _ => pure l

def sequence (inner : Inner) : Nat → Eval Int
  | 0 => noOperand
  | fuel + 1 => do
    let v ← assigned inner ((← get).rest.length + 2)
    if (← get).token = .sign "," then
      next inner.valueOf
      sequence inner fuel
    else pure v

def separately (evaluate : Eval Int) (valueOf : Place → Eval Int) (s : Raw) : Eval Int := do
  let h ← get
  set { h with whole := s, rest := s, last := s, token := .finish, before := .finish }
  next valueOf
  let v ← if (← get).token = .finish then pure 0
    else
      let v ← evaluate
      if (← get).token ≠ .finish then refuse "syntax error in expression"
      pure v
  let shell := (← get).shell
  set { h with shell }
  pure v

mutual

def keyOf : Nat → Place → Eval (Option Raw)
  | 0, _ => refuse "expression recursion level exceeded"
  | fuel + 1, p => do
    let some key := p.key | pure none
    let sh := (← get).shell
    if sh.isKeyed (sh.resolved p.name) then pure (some key)
    else
      let i ← separately (nested fuel) (valueOf fuel) key
      let k := ((reached? sh p.name).map fun hit => (itemsOf hit).nextIndex).getD 0
      pure (some (Raw.ofInt (if i < 0 then i + k else i)))

def valueOf : Nat → Place → Eval Int
  | 0, _ => refuse "expression recursion level exceeded"
  | fuel + 1, p => do
    let key ← keyOf fuel p
    let sh := (← get).shell
    let hit := reached? sh p.name
    let s := match key with
      | none => hit.bind (·.text?)
      | some key => hit.bind fun hit => (itemsOf hit).named? key
    let some s := s | if sh.switches.contains 'u' then throw (.unbound p.name) else pure 0
    match numberOf s with
    | .ok v =>
      if !s.isEmpty && s.all isNumberChar && s.head?.any Char.isDigit then pure v
      else separately (nested fuel) (valueOf fuel) s
    | .error _ => separately (nested fuel) (valueOf fuel) s

def nested : Nat → Eval Int
  | 0 => refuse "expression recursion level exceeded"
  | fuel + 1 => do
    sequence { whole := nested fuel, valueOf := valueOf fuel, keyOf := keyOf fuel }
      ((← get).rest.length + 2)

end

def maxNesting : Nat := 1024

def evaluate (shell : Shell) (formula : Raw) : Except CalcFlaw Int × Shell :=
  let start : Work := { shell, whole := formula, rest := formula, last := formula }
  let (res, work) := (separately (nested maxNesting) (valueOf maxNesting) formula).run.run start
  (res, work.shell)

end Calc

end Assay.Shell
