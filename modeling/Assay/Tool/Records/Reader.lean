import Assay.Tool.Records.Token

/-! # Reading scripts -/

namespace Assay.Tool.Records

inductive Kind where
  | value | array
  deriving DecidableEq

inductive Passed where
  | value
  | shared (name : Raw)
  | parameter (function : Raw) (index : Nat)

structure Called where
  name : Raw
  args : List Passed
  line : Nat

structure Reading where
  items : List Placed
  lastLine : Nat
  messages : List (Option Nat × Raw) := []
  (parens braces : Nat := 0)
  parameters : List Raw := []
  (inFunction inRule : Bool := false)
  loops : Nat := 0
  kinds : List (Raw × Kind) := []
  shapes : List (Raw × List (Option Kind)) := []
  within : Raw := []
  defined : List Raw := []
  calls : List Called := []

inductive Halt where
  | misfit | over

abbrev Reads := ExceptT Halt (StateM Reading)

namespace Reads

/-! ## Tokens -/

def line : Reads Nat := do
  let rd ← get
  pure ((rd.items.head?.map (·.line)).getD rd.lastLine)

def note (msg : Raw) : Reads Unit := do
  let line ← line
  modify fun rd => { rd with messages := (some line, msg) :: rd.messages }

def peek : Reads (Option Token) := do
  match (← get).items.head? with
  | some { token := .fatal msg, .. } =>
    note msg
    throw .over
  | some { token := .stray c, line } =>
    let msg := Raw.ofNat line ++ ": unexpected character '" ++ [c, '\'']
    modify fun rd => { rd with messages := (none, msg) :: rd.messages }
    throw .over
  | y => pure (y.map (·.token))

def second : Reads (Option Token) := do
  pure (((← get).items[1]?).map (·.token))

def sign? : Reads (Option String) := do
  match ← peek with
  | some (.sign sgn) => pure (some sgn)
  | _ => pure none

def word? : Reads (Option String) := do
  match ← peek with
  | some (.word w) => pure (some w)
  | _ => pure none

def advance : Reads Unit := do
  let sgn ← sign?
  modify fun rd =>
    let rd := { rd with items := rd.items.tail }
    match sgn with
    | some "(" => { rd with parens := rd.parens + 1 }
    | some ")" => { rd with parens := rd.parens - 1 }
    | some "\x7b" => { rd with braces := rd.braces + 1 }
    | some "\x7d" => { rd with braces := rd.braces - 1 }
    | _ => rd

def eat (sgn : String) : Reads Bool := do
  if (← sign?) = some sgn then
    advance
    pure true
  else pure false

def eatWord (w : String) : Reads Bool := do
  if (← word?) = some w then
    advance
    pure true
  else pure false

def expect (sgn : String) : Reads Unit := do
  if !(← eat sgn) then throw .misfit

def skipLines : Reads Unit := do
  let rd ← get
  set { rd with
    items := rd.items.dropWhile fun
      | { token := .newline, .. } => true
      | _ => false }

def reportMisfit : Reads Unit := do
  let rd ← get
  let near (s : Raw) : Raw := "syntax error at or near " ++ s
  let missing (closing : Char) (s : Raw) : Raw := "missing " ++ closing :: " near " ++ s
  match ← peek with
  | none =>
    let s := "end of file"
    note (if rd.parens > 0 then missing ')' s
      else if rd.braces > 0 then missing '\x7d' s
      else near s)
    throw .over
  | some tok =>
    let closes := tok matches .newline | .sign ";" | .sign "\x7d"
    note (if closes && rd.parens > 0 then missing ')' tok.shown else near tok.shown)

def skipStatement : Reads Unit := do
  let rd ← get
  let items := rd.items.dropWhile fun
    | { token := .newline, .. } | { token := .sign ";", .. }
    | { token := .sign "\x7d", .. } => false
    | _ => true
  let items := match items with
    | { token := .newline, .. } :: xs | { token := .sign ";", .. } :: xs => xs
    | items => items
  set { rd with items, parens := 0 }

/-! ## Names -/

def resolve (name : Raw) : Reads Name := do
  let some i := (← get).parameters.idxOf? name | pure (.shared name)
  pure (.parameter i)

def refuseName {α : Type} (kind : String) (name : Raw) : Reads α := do
  note ("illegal reference to " ++ kind.toList ++ ' ' :: name)
  throw .over

def parameterKind? (rd : Reading) (function : Raw) (i : Nat) : Option Kind :=
  ((rd.shapes.lookup function).getD [])[i]?.join

def setParameterKind (function : Raw) (i : Nat) (kind : Kind) : Reads Unit :=
  modify fun rd =>
    { rd with
      shapes := rd.shapes.map fun (name, kinds) =>
        (name, if name = function then kinds.set i (some kind) else kinds) }

def useAs (kind : Kind) (name : Raw) : Reads Name := do
  let resolved ← resolve name
  match resolved with
  | .parameter i =>
    let rd ← get
    let some known := parameterKind? rd rd.within i | setParameterKind rd.within i kind
    if known ≠ kind then
      refuseName (if known = .array then "local array" else "local variable") name
  | .shared name =>
    match (← get).kinds.lookup name with
    | none => modify fun rd => { rd with kinds := (name, kind) :: rd.kinds }
    | some known =>
      if known ≠ kind then refuseName (if known = .array then "array" else "variable") name
  pure resolved

/-! ## Calls -/

def passedBy (within : Raw) : Expr → Passed
  | .get (.named (.shared name)) => .shared name
  | .get (.named (.parameter i)) => .parameter within i
  | _ => .value

def kindOf? (rd : Reading) : Passed → Option Kind
  | .value => some .value
  | .shared name => rd.kinds.lookup name
  | .parameter function i => parameterKind? rd function i

def checkCall (call : Called) : Reads Bool := do
  let mut isOpen := false
  for (passed, index) in call.args.zipIdx do
    let rd ← get
    match kindOf? rd passed, parameterKind? rd call.name index with
    | some actual, some wanted =>
      if actual ≠ wanted then
        modify fun rd =>
          { rd with
            messages := (some call.line, "type error in arg(" ++ Raw.ofNat (index + 1)
              ++ ") in call to " ++ call.name) :: rd.messages }
        return false
    | some actual, none => setParameterKind call.name index actual
    | none, some wanted =>
      match passed with
      | .shared name => modify fun rd => { rd with kinds := (name, wanted) :: rd.kinds }
      | .parameter function n => setParameterKind function n wanted
      | .value => pure ()
    | none, none => isOpen := true
  pure isOpen

def noteCall (call : Called) : Reads Unit := do
  let rd ← get
  let isOpen ← match rd.defined.contains call.name, rd.shapes.lookup call.name with
    | true, some kinds => if kinds.length < call.args.length then pure true else checkCall call
    | _, _ => pure true
  if isOpen then modify fun rd => { rd with calls := call :: rd.calls }

def settleCalls : Nat → List Called → Reads Unit
  | 0, _ => pure ()
  | rounds + 1, calls => do
    let l ← calls.filterM checkCall
    if l.length < calls.length then settleCalls rounds l

/-! ## Expressions -/

def assigning : List (String × Option Operator) :=
  [("=", none), ("+=", some .add), ("-=", some .subtract), ("*=", some .multiply),
    ("/=", some .divide), ("%=", some .modulo), ("^=", some .power)]

def comparing : List (String × Operator) :=
  [("<", .less), ("<=", .atMost), ("==", .equal), ("!=", .unequal), (">", .greater),
    (">=", .atLeast)]

def argumentCounts : Builtin → Nat × Option Nat
  | .length => (0, some 1)
  | .index => (2, some 2)
  | .substr => (2, some 3)
  | .locate => (2, some 2)
  | .sprintf => (1, none)
  | .atan2 => (2, some 2)
  | .rand => (0, some 0)
  | .srand => (0, some 1)
  | .fflush => (0, some 1)
  | .systime => (0, some 0)
  | .strftime => (0, some 3)
  | _ => (1, some 1)

def startsPart : Token → Bool
  | .number _ _ | .text _ | .regex _ | .name _ | .callee _ | .builtin _ => true
  | .sign sgn => "( $ ! ++ --".splitOn.contains sgn
  | _ => false

def asTarget? : Expr → Option Target
  | .get t => some t
  | _ => none

def endsArguments : Option Token → Bool
  | none | some .newline => true
  | some (.sign sgn) => [";", "\x7d", ">", ">>", "|"].contains sgn
  | _ => false

def regexOf (cs : Raw) : Reads Text.Regex := do
  match readRegex cs with
  | .ok re => pure re
  | .error flaw =>
    note (regexFlaw flaw cs)
    throw .over

mutual

def expr (printing : Bool) : Nat → Reads Expr
  | 0 => throw .over
  | fuel + 1 => do
    let test ← level printing 0 fuel
    if ← eat "?" then
      skipLines
      let yes ← expr printing fuel
      skipLines
      expect ":"
      skipLines
      pure (.cond test yes (← expr printing fuel))
    else pure test

def level (printing : Bool) (n : Nat) : Nat → Reads Expr
  | 0 => throw .over
  | fuel + 1 => do
    if n = 5 then
      let l ← joined printing fuel
      match asTarget? l, (← sign?).bind fun sgn => assigning.lookup sgn with
      | some t, some op =>
        advance
        skipLines
        pure (.assign t op (← expr printing fuel))
      | _, _ => pure l
    else levelRest printing n fuel (← level printing (n + 1) fuel)

def levelRest (printing : Bool) (n : Nat) : Nat → Expr → Reads Expr
  | 0, _ => throw .over
  | fuel + 1, l => do
    let go (build : Expr → Expr) : Reads Expr := do
      advance
      let r ← level printing (n + 1) fuel
      levelRest printing n fuel (build r)
    match n, ← peek with
    | 0, some (.sign "||") =>
      advance
      skipLines
      let r ← level printing 1 fuel
      levelRest printing 0 fuel (.either l r)
    | 1, some (.sign "&&") =>
      advance
      skipLines
      let r ← level printing 2 fuel
      levelRest printing 1 fuel (.both l r)
    | 2, some (.word "in") =>
      advance
      match ← peek with
      | some (.name name) =>
        let array ← useAs .array name
        advance
        levelRest printing 2 fuel (.member [l] array)
      | _ => throw .misfit
    | 3, some (.sign "~") => go (.matching false l)
    | 3, some (.sign "!~") => go (.matching true l)
    | 4, some (.sign sgn) =>
      match comparing.lookup sgn with
      | some op => if printing && sgn = ">" then pure l else go (.binary op l)
      | none => pure l
    | _, _ => pure l

def joined (printing : Bool) : Nat → Reads Expr
  | 0 => throw .over
  | fuel + 1 => do joinedRest printing fuel (← sum printing fuel)

def joinedRest (printing : Bool) : Nat → Expr → Reads Expr
  | 0, _ => throw .over
  | fuel + 1, l => do
    match l, ← peek with
    | .tuple _, _ => pure l
    | _, some tok =>
      if startsPart tok then
        let r ← sum printing fuel
        joinedRest printing fuel (.binary .join l r)
      else pure l
    | _, none => pure l

def sum (printing : Bool) : Nat → Reads Expr
  | 0 => throw .over
  | fuel + 1 => do sumRest printing fuel (← product printing fuel)

def sumRest (printing : Bool) : Nat → Expr → Reads Expr
  | 0, _ => throw .over
  | fuel + 1, l => do
    let go (op : Operator) : Reads Expr := do
      advance
      let r ← product printing fuel
      sumRest printing fuel (.binary op l r)
    match ← sign? with
    | some "+" => go .add
    | some "-" => go .subtract
    | _ => pure l

def product (printing : Bool) : Nat → Reads Expr
  | 0 => throw .over
  | fuel + 1 => do productRest printing fuel (← signed printing fuel)

def productRest (printing : Bool) : Nat → Expr → Reads Expr
  | 0, _ => throw .over
  | fuel + 1, l => do
    let go (op : Operator) : Reads Expr := do
      advance
      let r ← signed printing fuel
      productRest printing fuel (.binary op l r)
    match ← sign? with
    | some "*" => go .multiply
    | some "/" => go .divide
    | some "%" => go .modulo
    | _ => pure l

def signed (printing : Bool) : Nat → Reads Expr
  | 0 => throw .over
  | fuel + 1 => do
    match ← sign? with
    | some "!" =>
      advance
      pure (.not (← signed printing fuel))
    | some "-" =>
      advance
      pure (.negative (← signed printing fuel))
    | some "+" =>
      advance
      pure (.positive (← signed printing fuel))
    | _ => piped printing fuel (← powered printing fuel)

def piped (printing : Bool) : Nat → Expr → Reads Expr
  | 0, _ => throw .over
  | fuel + 1, l => do
    match printing, ← sign? with
    | false, some "|" =>
      advance
      if !(← eatWord "getline") then throw .misfit
      let t ← lineTarget printing fuel
      piped printing fuel (.getline .command (some l) t)
    | _, _ => pure l

def powered (printing : Bool) : Nat → Reads Expr
  | 0 => throw .over
  | fuel + 1 => do
    let base ← counted printing fuel
    if ← eat "^" then
      match ← sign? with
      | some "-" | some "+" | some "!" => pure (.binary .power base (← signed printing fuel))
      | _ => pure (.binary .power base (← powered printing fuel))
    else pure base

def counted (printing : Bool) : Nat → Reads Expr
  | 0 => throw .over
  | fuel + 1 => do
    let arg ← primary printing fuel
    match asTarget? arg, ← sign? with
    | some t, some "++" =>
      advance
      pure (.step t true false)
    | some t, some "--" =>
      advance
      pure (.step t false false)
    | _, _ => pure arg

def lineTarget (printing : Bool) : Nat → Reads (Option Target)
  | 0 => throw .over
  | fuel + 1 => do
    match ← peek with
    | some (.name _) | some (.sign "$") => pure (asTarget? (← primary printing fuel))
    | _ => pure none

def exprs (printing : Bool) : Nat → Reads (List Expr)
  | 0 => throw .over
  | fuel + 1 => do
    let x ← expr printing fuel
    if ← eat "," then
      skipLines
      pure (x :: (← exprs printing fuel))
    else pure [x]

def arguments : Nat → Reads (List Expr)
  | 0 => throw .over
  | fuel + 1 => do
    if ← eat ")" then pure []
    else
      let x ← match ← peek, ← second with
        | some (.name name), some (.sign ",") | some (.name name), some (.sign ")") =>
          let resolved ← resolve name
          advance
          pure (.get (.named resolved))
        | _, _ => expr false fuel
      if ← eat "," then
        skipLines
        if (← sign?) = some ")" then throw .misfit
        pure (x :: (← arguments fuel))
      else
        expect ")"
        pure [x]

def primary (printing : Bool) : Nat → Reads Expr
  | 0 => throw .over
  | fuel + 1 => do
    match ← peek with
    | some (.number v _) =>
      advance
      pure (.number v)
    | some (.text s) =>
      advance
      pure (.text s)
    | some (.regex cs) =>
      let re ← regexOf cs
      advance
      pure (.regex re)
    | some (.name name) =>
      match ← second with
      | some (.sign "[") =>
        let array ← useAs .array name
        advance
        advance
        let subscripts ← exprs false fuel
        expect "]"
        pure (.get (.element array subscripts))
      | _ =>
        if (← get).parameters.contains name || !(← get).defined.contains name then
          let resolved ← useAs .value name
          advance
          pure (.get (.named resolved))
        else
          advance
          throw .misfit
    | some (.callee name) =>
      let line ← line
      advance
      advance
      let args ← arguments fuel
      let within := (← get).within
      noteCall { name, args := args.map (passedBy within), line }
      pure (.call name args)
    | some (.builtin name) => builtin name fuel
    | some (.sign "$") =>
      advance
      match ← sign? with
      | some "-" | some "+" | some "!" => pure (.get (.field (← signed printing fuel)))
      | _ => pure (.get (.field (← primary printing fuel)))
    | some (.sign "++") | some (.sign "--") =>
      let up := (← sign?) = some "++"
      advance
      let isTarget : Bool := match ← peek with
        | some (.name _) | some (.sign "$") | some (.sign "(") => true
        | _ => false
      if !isTarget then throw .misfit
      let some t := asTarget? (← primary printing fuel) | throw .misfit
      pure (.step t up true)
    | some (.sign "(") =>
      advance
      let vs ← exprs false fuel
      expect ")"
      match vs with
      | [v] => pure (.group v)
      | vs =>
        match ← peek, ← second with
        | some (.word "in"), some (.name name) =>
          let array ← useAs .array name
          advance
          advance
          pure (.member vs array)
        | next, _ => if printing && endsArguments next then pure (.tuple vs) else throw .misfit
    | some (.word "getline") =>
      advance
      let t ← lineTarget printing fuel
      if ← eat "<" then
        pure (.getline .file (some (← counted printing fuel)) t)
      else pure (.getline .input none t)
    | _ => throw .misfit

def builtin (name : String) : Nat → Reads Expr
  | 0 => throw .over
  | fuel + 1 => do
    advance
    match (builtins.lookup name).join with
    | some function =>
      if function = .length && (← sign?) ≠ some "(" then pure (.builtin .length [])
      else
        expect "("
        let args ← arguments fuel
        let line ← line
        if function = .locate && args.length = 1 then
          modify fun rd => { rd with items := { token := .sign ")", line } :: rd.items }
          throw .misfit
        let (least, most) := argumentCounts function
        if args.length < least || most.any (· < args.length) then
          note ("wrong number of arguments in call to " ++ name.toList)
        pure (.builtin function args)
    | none =>
      expect "("
      let x ← expr false fuel
      expect ","
      skipLines
      if name = "split" then
        match ← peek with
        | some (.name array) =>
          let array ← useAs .array array
          advance
          let sep ← if ← eat "," then some <$> expr false fuel else pure none
          expect ")"
          pure (.split x array sep)
        | _ => throw .misfit
      else
        let repl ← expr false fuel
        let t ← if ← eat "," then
            match ← peek with
            | some (.name _) | some (.sign "$") =>
              match asTarget? (← primary false fuel) with
              | some t => pure t
              | none => throw .misfit
            | _ => throw .misfit
          else pure (.field (.number 0))
        expect ")"
        pure (.substitute (name = "gsub") x repl t)

end

/-! ## Statements -/

def terminator : Reads Unit := do
  match ← peek with
  | some .newline | some (.sign ";") => advance
  | some (.sign "\x7d") => pure ()
  | _ => throw .misfit

def output (fuel : Nat) : Reads (Option (Destination × Expr)) := do
  let into (destination : Destination) : Reads (Option (Destination × Expr)) := do
    advance
    pure (some (destination, ← expr true fuel))
  match ← sign? with
  | some ">" => into .file
  | some ">>" => into .append
  | some "|" => into .command
  | _ => pure none

def printed (fuel : Nat) : Reads (List Expr × Option (Destination × Expr)) := do
  let args ← if endsArguments (← peek) then pure [] else exprs true fuel
  let isTuple (arg : Expr) : Bool := arg matches .tuple _
  match args with
  | [.tuple vs] => pure (vs, ← output fuel)
  | args =>
    if args.any isTuple then throw .misfit
    pure (args, ← output fuel)

def simple (fuel : Nat) : Reads Statement := do
  match ← word? with
  | some "print" =>
    advance
    let (args, output) ← printed fuel
    pure (.print args output)
  | some "printf" =>
    advance
    if (← sign?) = some "(" then
      if let some (.sign ")") := ← second then
        advance
        advance
    let (args, output) ← printed fuel
    if args.isEmpty then note "no arguments in call to printf"
    pure (.printf args output)
  | some "delete" =>
    advance
    match ← peek with
    | some (.name name) =>
      let array ← useAs .array name
      advance
      if ← eat "[" then
        let subscripts ← exprs false fuel
        expect "]"
        pure (.delete array (some subscripts))
      else pure (.delete array none)
    | _ => throw .misfit
  | _ => pure (.expr (← expr false fuel))

def inLoop {α : Type} (action : Reads α) : Reads α := do
  modify fun rd => { rd with loops := rd.loops + 1 }
  let res ← action
  modify fun rd => { rd with loops := rd.loops - 1 }
  pure res

def demand (allowed : Bool) (msg : String) : Reads Unit := do
  if !allowed then note msg.toList

def optional (fuel : Nat) : Reads (Option Expr) := do
  match ← peek with
  | none | some .newline | some (.sign ";") | some (.sign "\x7d") => pure none
  | _ => some <$> expr false fuel

mutual

def statement : Nat → Reads Statement
  | 0 => throw .over
  | fuel + 1 => do
    let rd ← get
    try statementOrFail fuel
    catch
      | .misfit =>
        reportMisfit
        skipStatement
        modify ({ · with loops := rd.loops })
        pure (.block [])
      | .over => throw .over

def statementOrFail : Nat → Reads Statement
  | 0 => throw .over
  | fuel + 1 => do
    let ended (statement : Statement) : Reads Statement := do
      terminator
      pure statement
    match ← peek with
    | some (.sign ";") =>
      advance
      pure (.block [])
    | some (.sign "\x7b") => .block <$> block fuel
    | some (.word "if") =>
      advance
      expect "("
      let test ← expr false fuel
      expect ")"
      skipLines
      let yes ← statement fuel
      let before ← get
      skipLines
      if ← eatWord "else" then
        skipLines
        pure (.cond test yes (← statement fuel))
      else
        modify ({ · with items := before.items })
        pure (.cond test yes (.block []))
    | some (.word "while") =>
      advance
      expect "("
      let test ← expr false fuel
      expect ")"
      match ← peek with
      | some (.sign ";") =>
        advance
        pure (.loop test (.block []))
      | some (.sign "\x7d") => pure (.loop test (.block []))
      | _ =>
        skipLines
        .loop test <$> inLoop (statement fuel)
    | some (.word "do") =>
      advance
      skipLines
      let body ← inLoop (statement fuel)
      skipLines
      if !(← eatWord "while") then throw .misfit
      expect "("
      let test ← expr false fuel
      expect ")"
      ended (.loopAfter body test)
    | some (.word "for") =>
      advance
      expect "("
      forLoop fuel
    | some (.word "break") =>
      demand ((← get).loops > 0) "break statement outside of loop"
      advance
      ended .leave
    | some (.word "continue") =>
      demand ((← get).loops > 0) "continue statement outside of loop"
      advance
      ended .again
    | some (.word "next") =>
      demand (← get).inRule "improper use of next"
      advance
      ended .next
    | some (.word "nextfile") =>
      demand (← get).inRule "improper use of nextfile"
      advance
      ended .nextFile
    | some (.word "exit") =>
      advance
      ended (.exit (← optional fuel))
    | some (.word "return") =>
      demand (← get).inFunction "return outside function body"
      advance
      ended (.result (← optional fuel))
    | _ => ended (← simple fuel)

def forLoop : Nat → Reads Statement
  | 0 => throw .over
  | fuel + 1 => do
    let heads : List Token := ((← get).items.take 4).map (·.token)
    match heads with
    | [.name key, .word "in", .name array, .sign ")"] =>
      let key ← useAs .value key
      let array ← useAs .array array
      advance
      advance
      advance
      advance
      skipLines
      .each key array <$> inLoop (statement fuel)
    | _ =>
      let start ← if (← sign?) = some ";" then pure (.block []) else simple fuel
      expect ";"
      skipLines
      let test ← if (← sign?) = some ";" then pure none else some <$> expr false fuel
      expect ";"
      skipLines
      let step ← if (← sign?) = some ")" then pure (.block []) else simple fuel
      expect ")"
      match ← peek with
      | some (.sign ";") =>
        advance
        pure (.count start test step (.block []))
      | _ =>
        skipLines
        .count start test step <$> inLoop (statement fuel)

def block : Nat → Reads (List Statement)
  | 0 => throw .over
  | fuel + 1 => do
    expect "\x7b"
    let body ← statements fuel
    expect "\x7d"
    if let some ";" ← sign? then
      -- An empty statement after braces belongs to them unless something else needs it.
      if let some (.word "else") ← second then advance
    pure body

def statements : Nat → Reads (List Statement)
  | 0 => throw .over
  | fuel + 1 => do
    skipLines
    if (← sign?) = some "\x7d" then pure []
    else
      pure ((← statement fuel) :: (← statements fuel))

end

/-! ## Programs -/

def function (fuel : Nat) (known : List Function) : Reads Function := do
  let name ← match ← peek with
    | some (.name name) | some (.callee name) => pure name
    | _ => throw .misfit
  if (known.find? (·.name = name)).isSome then note ("redefinition of " ++ name)
  if let some known := (← get).kinds.lookup name then
    refuseName (if known = .array then "array" else "variable") name
  advance
  expect "("
  let parameters ← parameterList fuel
  if let some twice := parameters.find? fun param => parameters.count param > 1 then
    note (twice ++ " is duplicated in argument list")
  skipLines
  modify fun rd =>
    { rd with
      parameters, inFunction := true, inRule := false, within := name
      shapes := (name, parameters.map fun _ => none) :: rd.shapes }
  let body ← block fuel
  modify fun rd =>
    { rd with
      parameters := [], inFunction := false, inRule := false, within := []
      defined := name :: rd.defined }
  pure { name, parameters, body }
where
  parameterList : Nat → Reads (List Raw)
    | 0 => throw .over
    | fuel + 1 => do
      match ← peek with
      | some (.sign ")") =>
        advance
        pure []
      | some (.name name) =>
        advance
        if ← eat "," then
          skipLines
          match ← peek with
          | some (.name _) => pure (name :: (← parameterList fuel))
          | _ => throw .misfit
        else
          expect ")"
          pure [name]
      | _ => throw .misfit

def ruleBody (inRule : Bool) (fuel : Nat) : Reads (List Statement) := do
  modify ({ · with inRule })
  let body ← block fuel
  modify ({ · with inRule := false })
  pure body

def separator : Reads Unit := do
  skipLines
  if ← eat ";" then skipLines

def rule (fuel : Nat) : Reads Rule := do
  match ← peek with
  | some (.word "BEGIN") =>
    advance
    pure { trigger := .first, body := some (← ruleBody false fuel) }
  | some (.word "END") =>
    advance
    pure { trigger := .last, body := some (← ruleBody false fuel) }
  | some (.sign "\x7b") => pure { trigger := .always, body := some (← ruleBody true fuel) }
  | _ =>
    let x ← expr false fuel
    let trigger ← if ← eat "," then
        skipLines
        pure (.range x (← expr false fuel))
      else pure (.test x)
    match ← peek with
    | some (.sign "\x7b") => pure { trigger, body := some (← ruleBody true fuel) }
    | some .newline | some (.sign ";") => pure { trigger, body := none }
    | _ => throw .misfit

def program (fuel : Nat) : Nat → Program → Reads Program
  | 0, program => pure program
  | rounds + 1, hit => do
    if (← peek).isNone then pure hit
    else if ← eatWord "function" then
      let function ← function fuel hit.functions
      separator
      program fuel rounds { hit with functions := hit.functions ++ [function] }
    else
      let rule ← rule fuel
      separator
      program fuel rounds { hit with rules := hit.rules ++ [rule] }

def checkCalls (functions : List Function) : Reads Unit := do
  let calls := (← get).calls.reverse
  for call in calls do
    match functions.find? (·.name = call.name) with
    | none => note ("function " ++ call.name ++ " never defined")
    | some function =>
      if function.parameters.length < call.args.length then
        modify fun rd =>
          { rd with
            messages := (some call.line, "too many arguments in call to " ++ call.name)
              :: rd.messages }
  if (← get).messages.isEmpty then settleCalls (calls.length + 1) calls

def givenKinds : List (Raw × Kind) :=
  (("NR NF FNR FS OFS ORS RS FILENAME RSTART RLENGTH SUBSEP CONVFMT OFMT " ++
    "ARGC").splitOn.map fun name => (name.toList, .value))
    ++ ["ENVIRON", "ARGV"].map fun name => (name.toList, .array)

end Reads

def withoutFlaws (read : List Placed) : List Placed → List Placed × List (Option Nat × Raw)
  | [] => (read.reverse, [])
  | { token := .flaw msg, line } :: xs =>
    if msg = "extra '\x7d'" then
      let next := match xs.head? with
        | some placed => placed.token.shown
        | none => "end of file"
      (read.reverse, [(some line, msg), (some line, "syntax error at or near " ++ next)])
    else
      let (items, messages) := withoutFlaws read xs
      (items, (some line, msg) :: messages)
  | placed :: xs => withoutFlaws (placed :: read) xs

def readScript (cs : Raw) : Except (List (Option Nat × Raw)) Program :=
  let (items, flaws) := withoutFlaws [] (tokensOf cs)
  let ls := (cs.filter (· = '\n')).length
  let fuel := 40 * items.length + 100
  let rd : Reading := { items, lastLine := ls + 2, kinds := Reads.givenKinds }
  let action : Reads Program := do
    Reads.skipLines
    try
      let program ← Reads.program fuel (items.length + 1) {}
      if (← get).messages.isEmpty then Reads.checkCalls program.functions
      pure program
    catch
      | .misfit =>
        Reads.reportMisfit
        throw .over
      | .over => throw .over
  match action.run.run rd with
  | (res, post) =>
    match res, flaws ++ post.messages.reverse with
    | .ok program, [] => .ok program
    | _, messages => .error messages

end Assay.Tool.Records
