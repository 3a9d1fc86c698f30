import Assay.Script.Brace
import Assay.Script.Input
import Assay.Script.Printed

/-! # Reading words -/

namespace Assay.Script

def splitBackquote (quoted : Bool) (read : Raw) (len : Nat) : Raw → Option (Raw × Nat)
  | [] => none
  | '`' :: _ => some (read.reverse, len)
  | '\\' :: c :: xs =>
    if c = '$' || c = '`' || c = '\\' || (quoted && c = '"') then
      splitBackquote quoted (c :: read) (len + 2) xs
    else splitBackquote quoted (c :: '\\' :: read) (len + 2) xs
  | c :: xs => splitBackquote quoted (c :: read) (len + 1) xs

def splitKey (d : Nat) (quote : Option Char) (read : Raw) : Raw → Option (Raw × Raw)
  | [] => none
  | '\\' :: c :: xs => splitKey d quote (c :: '\\' :: read) xs
  | c :: xs =>
    match quote with
    | some mark => splitKey d (if c = mark then none else quote) (c :: read) xs
    | none =>
      if c = '\'' || c = '"' then splitKey d (some c) (c :: read) xs
      else if c = '[' then splitKey (d + 1) none (c :: read) xs
      else if c = ']' then
        match d with
        | 0 => some (read.reverse, xs)
        | d + 1 => splitKey d none (c :: read) xs
      else splitKey d none (c :: read) xs

def takeHex (k n : Nat) : Raw → Nat × Raw
  | c :: xs =>
    match k, Raw.hexDigit? c with
    | k + 1, some d => takeHex k (n * 16 + d) xs
    | _, _ => (n, c :: xs)
  | [] => (n, [])

def codeText (loc : Text.Locale) (code : Nat) : Raw :=
  let ds := (Nat.toDigits 16 code).map Char.toUpper
  if code < 128 then [Char.ofNat code]
  else if loc = .utf8 then Raw.ofCode code
  else if code < 65536 then "\\u" ++ List.replicate (4 - ds.length) '0' ++ ds
  else "\\U" ++ List.replicate (8 - ds.length) '0' ++ ds

def escapeLetters : List (Char × Char) :=
  [('a', '\x07'), ('b', '\x08'), ('e', '\x1b'), ('E', '\x1b'), ('f', '\x0c'), ('n', '\n'),
    ('r', '\r'), ('t', '\t'), ('v', '\x0b'), ('\\', '\\')]

def takeEscape (loc : Text.Locale) (cs : Raw) : Raw × Raw :=
  let coded (lead : Char) (k : Nat) (written : Nat → Raw) (xs : Raw) : Raw × Raw :=
    let (code, l) := takeHex k 0 xs
    if l.length = xs.length then (['\\', lead], xs) else (written code, l)
  match cs with
  | [] => ("\\", [])
  | 'x' :: xs => coded 'x' 2 (fun code => [Char.ofNat code]) xs
  | 'u' :: xs => coded 'u' 4 (codeText loc) xs
  | 'U' :: xs => coded 'U' 8 (codeText loc) xs
  | 'c' :: c :: xs => ([Char.ofNat (c.toNat % 32)], xs)
  | c :: xs =>
    match escapeLetters.lookup c with
    | some hit => ([hit], xs)
    | none =>
      if c = '\'' || c = '"' || c = '?' then ([c], xs)
      else if (Raw.octalDigit? c).isSome then
        let (code, l) := Raw.takeOctal 3 0 cs
        ([Char.ofNat (code % 256)], l)
      else (['\\', c], xs)

def splitEscaped (loc : Text.Locale) (fuel : Nat) (read : Raw) (len : Nat) (cs : Raw) :
    Option (Raw × Nat) :=
  match fuel, cs with
  | 0, _ => none
  | _, [] => none
  | _ + 1, '\'' :: _ => some (read.reverse.takeWhile (· ≠ '\x00'), len)
  | fuel + 1, '\\' :: xs =>
    let (s, l) := takeEscape loc xs
    splitEscaped loc fuel (s.reverse ++ read) (len + 1 + (xs.length - l.length)) l
  | fuel + 1, c :: xs => splitEscaped loc fuel (c :: read) (len + 1) xs

variable (inner : Grammar)

def body : Parse (List Command) := do
  let commands ← inner.list
  let hit ← look
  if commands.isEmpty && hit ≠ .finish then refuseLook hit none else pure commands

def parameterName : Parse (Option Raw) := do
  match (← get).rest with
  | [] => pure none
  | x :: xs =>
    if isNameStart x then
      let name := x :: xs.takeWhile isNameChar
      skip name.length
      pure (some name)
    else if x.isDigit || "@*#?-$!".contains x then
      skip 1
      pure (some [x])
    else pure none

def isUserChar (c : Char) : Bool := isNameChar c || c = '-' || c = '.'

def tildeParts (ends : Char → Bool) (isAll : Bool) (cs : Raw) : List Part :=
  match cs with
  | '~' :: xs =>
    let user := xs.takeWhile isUserChar
    match xs.drop user.length with
    | [] => if isAll then [.home user] else [.text cs false]
    | next :: others =>
      if ends next then [.home user, .text (next :: others) false] else [.text cs false]
  | _ => [.text cs false]

def expandTilde : List Part → List Part
  | .text cs false :: xs => tildeParts (· = '/') xs.isEmpty cs ++ xs
  | w => w

def colonParts (starts isAll : Bool) (cs : Raw) : List Part :=
  let ps := cs.splitOn ':'
  let indexed := ps.zipIdx
  indexed.flatMap fun (p, i) =>
    let isLast := i + 1 = ps.length
    let p := if isLast then p else p ++ ":"
    if p.isEmpty then []
    else if i = 0 && !starts then [.text p false]
    else tildeParts (fun c => c = '/' || c = ':') (isAll && isLast) p

def expandTildes (starts : Bool) : List Part → List Part
  | [] => []
  | .text cs false :: xs =>
    colonParts starts xs.isEmpty cs ++ expandTildes (cs.getLast? = some ':') xs
  | part :: xs => part :: expandTildes false xs

def declared : List Part → List Part
  | .text cs false :: xs =>
    let name := cs.takeWhile isNameChar
    match isName name, cs.drop name.length with
    | true, '=' :: v =>
      .text (name ++ "=") false
        :: expandTildes true (if v.isEmpty then xs else .text v false :: xs)
    | _, _ => .text cs false :: xs
  | w => w

def isDeclared : List Part → Bool
  | .text cs false :: _ =>
    let name := cs.takeWhile isNameChar
    isName name && (cs.drop name.length).head? = some '='
  | _ => false

def use (inner : Grammar) (quoted : Bool) : Parse Use := do
  let fallbackOf (c : Char) : Option Fallback :=
    match c with
    | '-' => some .use
    | '=' => some .assign
    | '?' => some .fail
    | '+' => some .replace
    | _ => none
  let trim (k : Nat) (atEnd longest : Bool) : Parse Use := do
    skip k
    pure (.trim atEnd longest (← inner.parts (.brace false)))
  let fallback (k : Nat) (kind : Fallback) (nullToo : Bool) : Parse Use := do
    skip k
    let w ← inner.parts (.brace quoted)
    pure (.fallback kind nullToo (if quoted then w else expandTilde w))
  let bad : Parse Use := do
    let _ ← inner.parts (.brace quoted)
    pure .bad
  match (← get).rest with
  | '\x7d' :: _ => pure .plain
  | '%' :: '%' :: _ => trim 2 true true
  | '%' :: _ => trim 1 true false
  | '#' :: '#' :: _ => trim 2 false true
  | '#' :: _ => trim 1 false false
  | ':' :: c :: _ =>
    match fallbackOf c with
    | some kind => fallback 2 kind true
    | none => bad
  | c :: _ =>
    match fallbackOf c with
    | some kind => fallback 1 kind false
    | none => bad
  | [] => refuse .openBrace

def elementKey : Parse (Option (List Part)) := do
  match (← get).rest with
  | '[' :: xs =>
    match splitKey 0 none [] xs with
    | some (key, _) =>
      let parts ← within key (inner.parts .loose)
      skip (key.length + 2)
      pure (some parts)
    | none => pure none
  | _ => pure none

variable (quoted : Bool)

def extendedUse : Parse (Option Use) := do
  let recased (k : Nat) (change : Recasing) (all : Bool) : Parse (Option Use) := do
    skip k
    pure (some (.recased change all (← inner.parts (.brace false))))
  let replaced (k : Nat) (spot : Spot) : Parse (Option Use) := do
    skip k
    let pat ← inner.parts (.upTo '/' false)
    match (← get).rest with
    | '/' :: _ =>
      skip 1
      pure (some (.replaced spot pat (← inner.parts (.brace false))))
    | _ => pure (some (.replaced spot pat []))
  match (← get).rest with
  | ':' :: c :: _ =>
    if "-=?+".contains c then some <$> use inner quoted
    else
      skip 1
      let start ← inner.parts (.upTo ':' true)
      match (← get).rest with
      | ':' :: _ =>
        skip 1
        pure (some (.slice start (some (← inner.parts (.upTo '\x7d' true)))))
      | _ => pure (if start.isEmpty then none else some (.slice start none))
  | '/' :: '/' :: _ => replaced 2 .all
  | '/' :: '#' :: _ => replaced 2 .start
  | '/' :: '%' :: _ => replaced 2 .finish
  | '/' :: _ => replaced 1 .first
  | '^' :: '^' :: _ => recased 2 .upper true
  | '^' :: _ => recased 1 .upper false
  | ',' :: ',' :: _ => recased 2 .lower true
  | ',' :: _ => recased 1 .lower false
  | '~' :: '~' :: _ => recased 2 .swap true
  | '~' :: _ => recased 1 .swap false
  | '@' :: ch :: '\x7d' :: _ =>
    if "QEPAKakULu".contains ch then
      skip 2
      pure (some (.shown ch))
    else pure none
  | c :: _ => if "\x7d%#-=?+".contains c then some <$> use inner quoted else pure none
  | [] => refuseOpen .openBrace '\x7d'

def bracedName : Parse (Option Raw) := do
  match (← get).rest with
  | x :: xs =>
    if x.isDigit then
      let name := x :: xs.takeWhile Char.isDigit
      skip name.length
      pure (some name)
    else parameterName
  | [] => pure none

def isAllKey : List Part → Bool
  | [.text ['@'] false] => true
  | [.text ['*'] false] => true
  | _ => false

def extendedBraced : Parse Part := do
  let start ← get
  let isClosed : Parse Bool := do pure ((← get).rest.head? = some '\x7d')
  let closing : Parse Unit := do
    if ← isClosed then skip 1 else refuseOpen .openBrace '\x7d'
  let malformed : Parse Part := do
    set start
    let _ ← inner.parts (.brace quoted)
    closing
    let raw := start.rest.take ((← get).position - start.position)
    pure (.malformed ("$\x7b" ++ raw))
  let concluded (make : Use → Part) : Parse Part := do
    let some hit ← extendedUse inner quoted | malformed
    if ← isClosed then skip 1; pure (make hit) else malformed
  let measured : Parse Part := do
    skip 1
    let some name ← bracedName | malformed
    let key ← elementKey inner
    if ← isClosed then
      skip 1
      pure (match key with
        | some key => .element name key .length quoted
        | none => .value name .length quoted)
    else malformed
  let indirect : Parse Part := do
    skip 1
    let some name ← bracedName | malformed
    match ← elementKey inner, (← get).rest with
    | none, '@' :: '\x7d' :: _ => skip 2; pure (.names name false quoted)
    | none, '*' :: '\x7d' :: _ => skip 2; pure (.names name true quoted)
    | key, xs =>
      if key.any isAllKey && xs.head? = some '\x7d' then
        skip 1
        pure (.keys name (match key with
          | some [.text ['*'] false] => true
          | _ => false) quoted)
      else concluded fun hit => .through name key hit quoted
  let named : Parse Part := do
    let some name ← bracedName | malformed
    let some key ← elementKey inner | concluded fun hit => .value name hit quoted
    concluded fun hit => .element name key hit quoted
  match start.rest with
  | '#' :: '\x7d' :: _ => named
  | '#' :: c :: _ => if isNameChar c || "@*?$!#-".contains c then measured else named
  | '!' :: c :: _ => if isNameChar c || "@*#?".contains c then indirect else named
  | _ => named

def braced : Parse Part := do
  let closing : Parse Unit := do
    match (← get).rest with
    | '\x7d' :: _ => skip 1
    | [] => refuse .openBrace
    | _ => refuse .badSubstitution
  match (← get).rest with
  | '#' :: c :: _ =>
    if isNameChar c || "@*?$!".contains c then
      skip 1
      let name ← parameterName
      if (← get).rest.head? = some '\x7d' then
        closing
        pure (.value (name.getD []) .length quoted)
      else
        let _ ← inner.parts (.brace quoted)
        closing
        pure (.value [] .bad quoted)
    else
      skip 1
      let hit ← use inner quoted
      closing
      pure (.value "#" hit quoted)
  | x :: xs =>
    if x.isDigit then
      let name := x :: xs.takeWhile Char.isDigit
      skip name.length
      let hit ← use inner quoted
      closing
      pure (.value name hit quoted)
    else
      match ← parameterName with
      | none =>
        let _ ← inner.parts (.brace quoted)
        closing
        pure (.value [] .bad quoted)
      | some name =>
        let hit ← use inner quoted
        closing
        pure (.value name hit quoted)
  | [] => refuse .openBrace

def nestedText (commands : List Command) : Raw :=
  match Command.listText commands with
  | '(' :: xs => ' ' :: '(' :: xs
  | s => s

def enclosedCommands : Parse (List Command) := nestedCommands (do
  let commands ← inner.list
  if (← get).extended && (← look) = .finish then
    modify fun input => if input.atLineStart then input else { input with line := input.line + 1 }
    refuse (.unmatched ')')
  expectOperator ")"
  pure commands) nestedText

def halfFormula {α : Type} (reader : Parse α) : Parse α := fun input =>
  match reader input with
  | .error (_, .unmatched ')') => .error (input.line, .unmatched ')')
  | .error (_, .endOfFile) => .error (input.line, .unmatched ')')
  | res => res

def formulaOnto (inner : Grammar) : Nat → Nat → List Part → Parse (Option (List Part))
  | 0, _, _ => pure none
  | fuel + 1, d, read => do
    let read := (← inner.parts .formula).reverse ++ read
    let input ← get
    match input.rest, d with
    | '(' :: _, d =>
      skip 1
      formulaOnto inner fuel (d + 1) (.text "(" true :: read)
    | ')' :: _, d + 1 =>
      skip 1
      formulaOnto inner fuel d (.text ")" true :: read)
    | ')' :: ')' :: _, 0 =>
      skip 2
      pure (some read.reverse)
    | ')' :: _, 0 =>
      if input.extended then pure none
      else
        skip 1
        formulaOnto inner fuel 0 (.text ")" true :: read)
    | _, _ => pure none

def formula : Parse (Option (List Part)) := do
  skip 2
  formulaOnto inner ((← get).bound + 1) 0 []

def dollar : Parse Part := do
  let extended := (← get).extended
  let commands : Parse Part := do
    skip 1
    pure (.output (← enclosedCommands inner) quoted)
  let start ← get
  match start.rest with
  | '(' :: '(' :: _ =>
    match ← formula inner with
    | some parts => pure (.number parts quoted)
    | none =>
      if extended then
        set start
        halfFormula commands
      else refuse .openFormula
  | '(' :: _ => commands
  | '[' :: xs =>
    if !extended then pure (.text "$" quoted)
    else
      match splitKey 0 none [] xs with
      | some (formula, _) =>
        let parts ← within formula (inner.parts .free)
        skip (formula.length + 2)
        pure (.number parts quoted)
      | none => refuse (.unmatched ']')
  | '\x7b' :: _ =>
    skip 1
    if extended then anchored '\x7d' (extendedBraced inner quoted) else braced inner quoted
  | _ =>
    let some name ← parameterName | pure (.text "$" quoted)
    pure (.value name .plain quoted)

def lastChar? : List Part → Option Char
  | .text cs false :: _ => cs.getLast?
  | _ => none

def enclosed : Parse (List Command) := do
  let extended := (← get).extended
  if !extended then modify ({ · with line := 1, taken := 0 })
  let commands ← inner.list
  let hit ← look
  let isEnd := match hit with
    | .finish => true
    | .operator s => !extended && (s = ")" || s = ";;")
    | .word raw => !extended && isAmong closingWords raw
    | _ => false
  if isEnd then pure commands else refuseLook hit none

def partsOnto (inner : Grammar) (context : Context) : Nat → List Part → Parse (List Part)
  | 0, read => pure read.reverse
  | fuel + 1, read => do
    match (← get).rest with
    | [] =>
      match context with
      | .double => refuseOpen .openQuote '"'
      | .brace _ | .upTo _ _ => refuseOpen .openBrace '\x7d'
      | _ => pure read.reverse
    | c :: xs =>
      let extended := (← get).extended
      if c = '(' && context.encloses (lastChar? read) then
        skip 1
        let regular := context = .pattern true || context = .enclosed true
        let grp ← inner.parts (.enclosed regular)
        if (← get).rest.isEmpty then refuse (.unmatched ')')
        skip 1
        partsOnto inner context fuel (.text ")" false :: grp.reverse ++ .text "(" false :: read)
      else if extended && (c = '<' || c = '>') && xs.head? = some '('
          && (context = .bare || context = .pattern false) then
        skip 2
        let commands ← enclosedCommands inner
        partsOnto inner context fuel (.pipe (c = '<') commands :: read)
      else if context.ends c then pure read.reverse
      else if c = '\\' then
        match xs with
        | [] => skip 1; partsOnto inner context fuel (.text "\\" true :: read)
        | '\n' :: _ => skip 2; partsOnto inner context fuel read
        | next :: _ =>
          if context.escapes next then
            skip 2
            partsOnto inner context fuel (.text [next] true :: read)
          else
            skip 1
            partsOnto inner context fuel (.text "\\" context.quoted :: read)
      else if c = '$' && extended && !context.quoted && xs.head? = some '\'' then
        let input ← get
        match splitEscaped input.locale (input.bound + 1) [] 0 (xs.drop 1) with
        | none => refuse (.unmatched '\'')
        | some (s, len) =>
          skip (len + 3)
          partsOnto inner context fuel (.text s true :: read)
      else if c = '$' && extended && !context.quoted && xs.head? = some '"' then
        skip 1
        partsOnto inner context fuel read
      else if c = '$' then
        skip 1
        let part ← dollar inner context.quoted
        partsOnto inner context fuel (part :: read)
      else if c = '`' then
        match splitBackquote context.quoted [] 0 xs with
        | none => refuseOpen .openBackquote '`'
        | some (s, len) =>
          let commands ← within s (enclosed inner)
          skip (len + 2)
          partsOnto inner context fuel (.output commands context.quoted :: read)
      else if c = '"' && context ≠ .free && context ≠ .formula then
        let parts ← anchored '"' do
          skip 1
          inner.parts .double
        skip 1
        partsOnto inner context fuel
          (if parts.isEmpty then .text [] true :: read else parts.reverse ++ read)
      else if c = '\'' && !context.quoted then
        let s := xs.takeWhile (· ≠ '\'')
        if (xs.drop s.length).isEmpty then refuseOpen .openQuote '\''
        else
          skip (s.length + 2)
          partsOnto inner context fuel (.text s true :: read)
      else
        let s := (c :: xs).takeWhile context.isPlain
        skip s.length
        partsOnto inner context fuel (.text s context.quoted :: read)

def parts (context : Context) : Parse (List Part) := do
  partsOnto inner context ((← get).bound + 1) []

def wordContext : Parse Context := do
  pure (if (← get).groups then .pattern false else .bare)

def word : Parse Word := recorded do
  pure (expandTilde (← parts inner (← wordContext)))

def words : Parse (List Word) := do
  let start ← get
  if start.extended then
    let hit := (alternatives (← parts inner (← wordContext))).map expandTilde
    let s ← writtenSince start
    pure (match hit with
      | [] => []
      | x :: xs => (.written s :: x) :: xs)
  else pure [← word inner]

def expectAnyWord (wanted : Option String) : Parse Word := do
  let hit ← look
  match hit with
  | .word _ => word inner
  | _ => refuseWithin hit wanted

end Assay.Script
