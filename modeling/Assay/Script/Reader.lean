import Assay.Script.Word

/-! # Reading scripts -/

namespace Assay.Script

def delimiterLength (quote : Option Char) : Raw → Nat
  | [] => 0
  | c :: xs =>
    match quote with
    | some open' =>
      if open' = '"' && c = '\\' then delimiterLength quote (xs.drop 1) + min 2 (xs.length + 1)
      else delimiterLength (if c = open' then none else quote) xs + 1
    | none =>
      if c = '\'' || c = '"' then delimiterLength (some c) xs + 1
      else if c = '\\' then delimiterLength none (xs.drop 1) + min 2 (xs.length + 1)
      else if isMeta c then 0
      else delimiterLength none xs + 1
termination_by cs => cs.length

def withoutQuotes (quote : Option Char) : Raw → Raw
  | [] => []
  | '\\' :: c :: xs =>
    match quote with
    | some '\'' => '\\' :: withoutQuotes quote (c :: xs)
    | some _ =>
      if Context.double.escapes c then c :: withoutQuotes quote xs
      else '\\' :: c :: withoutQuotes quote xs
    | none => c :: withoutQuotes quote xs
  | c :: xs =>
    match quote with
    | some mark => if c = mark then withoutQuotes none xs else c :: withoutQuotes quote xs
    | none =>
      if c = '\'' || c = '"' then withoutQuotes (some c) xs
      else c :: withoutQuotes none xs
termination_by cs => cs.length
decreasing_by all_goals simp only [List.length_cons]; omega

def delimiterOf (raw : Raw) : Raw × Bool :=
  let isQuote (c : Char) : Bool := c = '\'' || c = '"' || c = '\\'
  (withoutQuotes none raw, raw.any isQuote)

/-- The lines up to a delimiter, put before those already read, in reverse, what follows the
delimiter, and whether it was there. -/
def splitHere (delim : Raw) (strips : Bool) : List Raw → List Raw → List Raw × List Raw × Bool
  | read, [] => (read.reverse, [], false)
  | read, l :: ls =>
    let l := if strips then l.dropWhile (· = '\t') else l
    if Raw.chomp l = delim then (read.reverse, ls, true)
    else splitHere delim strips (l :: read) ls

variable (inner : Grammar)

def hereText (fd : Nat) (strips : Bool) : Parse Redirect := do
  skipBlanks
  let xs := (← get).rest
  let raw := xs.take (delimiterLength none xs)
  skip raw.length
  let (delim, quoted) := delimiterOf raw
  let input ← get
  let ln := input.rest.takeWhile (· ≠ '\n')
  let following := input.rest.drop (ln.length + 1)
  if raw.isEmpty then refuseWithin (← look) none
  let (s, l, isEnded) := splitHere delim strips [] (Raw.lines following)
  let s := if input.extended && !isEnded then s.map fun ln => Raw.chomp ln ++ "\n"
    else s
  let x := input.line + input.taken
  let isWhole := !(input.rest.drop ln.length).isEmpty
  set { input with
    rest := ln ++ (if isWhole then '\n' :: l.flatten else [])
    position := input.position + (following.length - l.flatten.length)
    taken := input.taken + (following.count '\n' - l.flatten.count '\n')
    unended := if isEnded then input.unended
      else input.unended ++ [(x + s.length, x, delim)] }
  let note : List Part := if input.extended then [.written s.flatten] else []
  let body ← if quoted then pure [.text s.flatten true]
    else within s.flatten (inner.parts .free)
  pure (.here fd (note ++ body) (.lines delim quoted strips))

def descriptorWord (fd : Nat) : Word := [.text (Raw.ofNat fd) false]

def namesDescriptor (w : Word) : Bool :=
  (Word.bare w).all fun
    | .text cs _ => cs.all fun c => c.isDigit || c = '-'
    | _ => true

def extendedRedirect? : Parse (Option (List Redirect)) := do
  let all (k : Nat) (mode : Mode) : Parse (Option (List Redirect)) := do
    skip k
    let t ← expectAnyWord inner none
    pure (some [.file 1 mode t, .duplicate 2 (descriptorWord 1)])
  let start ← get
  let ds := start.rest.takeWhile Char.isDigit
  let n := Raw.toNat? ds
  match start.rest.drop ds.length with
  | '&' :: '>' :: '>' :: _ => if ds.isEmpty then all 3 .append else pure none
  | '&' :: '>' :: _ => if ds.isEmpty then all 2 .write else pure none
  | '<' :: '<' :: '<' :: _ =>
    skip (ds.length + 3)
    let t ← expectAnyWord inner none
    pure (some [.here (n.getD 0) (t ++ [.text "\n" true]) .word])
  | '>' :: '&' :: _ =>
    skip (ds.length + 2)
    let t ← expectAnyWord inner none
    if namesDescriptor t || n.any (· ≠ 1) then pure (some [.duplicate (n.getD 1) t])
    else pure (some [.file 1 .write t, .duplicate 2 (descriptorWord 1)])
  | _ => pure none

def plainRedirect : Parse Redirect := do
  let input ← get
  let ds := (if input.extended then input.rest else input.rest.take 1).takeWhile Char.isDigit
  skip ds.length
  let n := Raw.toNat? ds
  let f (k fallback : Nat) (mode : Mode) : Parse Redirect := do
    skip k
    pure (.file (n.getD fallback) mode (← expectAnyWord inner none))
  let duplicate (fallback : Nat) : Parse Redirect := do
    skip 2
    pure (.duplicate (n.getD fallback) (← expectAnyWord inner none))
  match (← get).rest with
  | '<' :: '<' :: '-' :: _ => skip 3; hereText inner (n.getD 0) true
  | '<' :: '<' :: _ => skip 2; hereText inner (n.getD 0) false
  | '<' :: '&' :: _ => duplicate 0
  | '<' :: '>' :: _ => f 2 0 .both
  | '<' :: _ => f 1 0 .read
  | '>' :: '>' :: _ => f 2 1 .append
  | '>' :: '&' :: _ => duplicate 1
  | '>' :: '|' :: _ => f 2 1 .force
  | _ => f 1 1 .write

def redirect : Parse (List Redirect) := do
  let input ← get
  let name := if input.extended then chosenName? input.rest else none
  if let some name := name then skip (name.length + 2)
  let hit ← match ← if input.extended then extendedRedirect? inner else pure none with
    | some hit => pure hit
    | none => pure [← plainRedirect inner]
  pure (match name with
    | some name => hit.map (.chosen name)
    | none => hit)

def redirectsOnto (inner : Grammar) : Nat → List Redirect → Parse (List Redirect)
  | 0, read => pure read.reverse
  | fuel + 1, read => do
    match ← look with
    | .redirection => redirectsOnto inner fuel ((← redirect inner).reverse ++ read)
    | _ => pure read.reverse

def withRedirects (start : Nat) (cmd : Command) : Parse Command := do
  let input ← get
  let redirects ← redirectsOnto inner (input.bound + 1) []
  let l := if input.extended then input.line else start
  if redirects.isEmpty then pure cmd else pure (.redirected l cmd redirects)

structure Target where
  name : Raw
  key : Option Raw := none
  appends : Bool := false
  length : Nat

def target? (extended : Bool) (cs : Raw) : Option Target :=
  let name := cs.takeWhile isNameChar
  let afterKey (key : Option Raw) (len : Nat) (xs : Raw) : Option Target :=
    match xs with
    | '=' :: _ => some { name, key, length := len + 1 }
    | '+' :: '=' :: _ =>
      if extended then some { name, key, appends := true, length := len + 2 } else none
    | _ => none
  if !isName name then none
  else
    match extended, cs.drop name.length with
    | true, '[' :: xs =>
      (splitKey 0 none [] xs).bind fun (key, l) =>
        afterKey (some key) (name.length + key.length + 2) l
    | _, xs => afterKey none name.length xs

structure Draft where
  assignments : List Assignment := []
  words : List Word := []
  redirects : List Redirect := []

def itemsOnto (inner : Grammar) : Nat → List (Option (List Part) × Bool × List Part) →
    Parse (List (Option (List Part) × Bool × List Part))
  | 0, read => pure read.reverse
  | fuel + 1, read => do
    skipLines
    match ← look with
    | .operator ")" => skip 1; pure read.reverse
    | .word _ =>
      let keyed := match (← get).rest with
        | '[' :: xs => (splitKey 0 none [] xs).bind fun (key, l) =>
          match l with
          | '=' :: _ => some (key, false)
          | '+' :: '=' :: _ => some (key, true)
          | _ => none
        | _ => none
      match keyed with
      | some (key, appends) =>
        let parts ← within key (inner.parts .loose)
        let v ← recorded do
          skip (key.length + (if appends then 4 else 3))
          pure (expandTildes true (← inner.parts .bare))
        itemsOnto inner fuel ((some parts, appends, v) :: read)
      | none =>
        let hit ← words inner
        itemsOnto inner fuel
          ((hit.map fun w => ((none : Option (List Part)), false, w)).reverse ++ read)
    | .finish => refuse .openItems
    | hit => refuseLook hit none

def assignedValue : Parse Word := do
  let input ← get
  match input.extended, input.rest with
  | true, '(' :: _ => anchored ')' do
    skip 1
    pure [.items (← itemsOnto inner (input.bound + 1) [])]
  | _, _ => pure (expandTildes true (← parts inner .bare))

def noted (lead raw : Raw) (v : Word) : Word :=
  match v with
  | [.items xs] =>
    let inside := wordTexts (xs.map fun (_, _, w) => w)
    [.written (lead ++ '(' :: [' '].intercalate inside ++ ")"), .items xs]
  | v => .written raw :: v

def declaringWords : List String := "declare export local readonly typeset".splitOn

def declares (ws : List Word) : Bool :=
  match ws.getLast?.map Word.bare with
  | some [.text cs false] => declaringWords.contains (String.ofList cs)
  | _ => false

def draftOnto (inner : Grammar) : Nat → Draft → Parse Draft
  | 0, draft => pure draft
  | fuel + 1, draft => do
    match ← look with
    | .redirection =>
      let hit ← redirect inner
      draftOnto inner fuel { draft with redirects := hit.reverse ++ draft.redirects }
    | .word _ =>
      let input ← get
      let t := target? input.extended input.rest
      match if draft.words.isEmpty then t else none with
      | some t =>
        let key ← match t.key with
          | some key => pure (some (← within key (inner.parts .loose)))
          | none => pure none
        skip t.length
        let v ← assignedValue inner
        let v ← if input.extended then do
            pure (noted (input.rest.take t.length) (← writtenSince input) v)
          else pure v
        draftOnto inner fuel { draft with
          assignments := .mk t.name key t.appends v :: draft.assignments }
      | none =>
        let isArray := input.extended && declares draft.words
          && t.any fun t => (input.rest.drop t.length).head? = some '('
        let hit ←
          if isArray then do
            let lead := input.rest.take ((t.map (·.length)).getD 0)
            skip lead.length
            let v ← assignedValue inner
            pure [match noted lead (← writtenSince input) v with
              | note :: v => note :: .text lead false :: v
              | [] => []]
          else words inner
        draftOnto inner fuel { draft with words := hit.reverse ++ draft.words }
    | _ => pure draft

def extendedBody : Parse Command := do
  skipLines
  let hit ← look
  match hit with
  | .operator "(" => inner.command
  | .word raw => if isAmong enclosingWords raw then inner.command else refuseLook hit none
  | _ => refuseLook hit none

def simpleStart : Parse (Draft × Nat) := do
  let x ← draftOnto inner 1 {}
  if (← get).extended then
    match ← look with
    | .word _ =>
      pure ((← draftOnto inner 1 x), (← get).line)
    | _ => pure (x, (← get).line)
  else pure (x, (← get).line)

def simple (inner : Grammar) : Parse Command := do
  let input ← get
  let (draft, l) ← simpleStart inner
  let draft ← draftOnto inner (input.bound + 1) draft
  match draft.words.map Word.bare, draft.assignments, draft.redirects, ← look with
  | [.text name false :: xs], [], [], .operator "(" =>
    skip 1
    let hit ← look
    if hit = .operator ")" then skip 1 else refuseWithin hit (some (cited ")"))
    if input.extended then define name
    else if xs.isEmpty && isName name then
      skipLines
      pure (.define (← get).line name (← inner.command))
    else refuse .badFunctionName
  | _, _, _, _ =>
    pure (.simple l draft.assignments.reverse draft.words.reverse draft.redirects.reverse)
where
  define (name : Raw) : Parse Command := do
    skipLines
    let _ ← look
    pure (.define (← get).line name (← extendedBody inner))

def condition (inner : Grammar) : Nat → Parse Command
  | 0 => refuse .openBrace
  | fuel + 1 => do
    let test ← body inner
    expectWord "then"
    let commands ← body inner
    if ← acceptWord "elif" then pure (.cond test commands [← condition inner fuel])
    else if ← acceptWord "else" then
      let y ← body inner
      expectWord "fi"
      pure (.cond test commands y)
    else
      expectWord "fi"
      pure (.cond test commands [])

def wordsOnto (inner : Grammar) : Nat → List Word → Parse (List Word)
  | 0, read => pure read.reverse
  | fuel + 1, read => do
    match ← look with
    | .word _ => wordsOnto inner fuel ((← words inner).reverse ++ read)
    | _ => pure read.reverse

def loopBody : Parse (List Command) := do
  expectWord "do"
  let commands ← body inner
  expectWord "done"
  pure commands

def skipSeparator : Parse Unit := do
  match ← look with
  | .operator ";" => skip 1; skipLines
  | _ => skipLines

def extendedLoopBody : Parse (List Command) := do
  skipSeparator
  if ← acceptWord "\x7b" then
    let commands ← body inner
    expectWord "\x7d"
    pure commands
  else loopBody inner

def countedLoop : Parse Command := do
  let input ← get
  let some _ ← formula inner | refuse (.unmatched ')')
  let raw := (input.rest.take ((← get).position - input.position)).drop 2
  let ps := (raw.take (raw.length - 2)).splitOn ';'
  let read (i : Nat) : Parse (List Part) := do
    let p := ps[i]?.getD []
    let isBlank (c : Char) : Bool := c = ' ' || c = '\t' || c = '\n'
    pure (.written (p.dropWhile isBlank) :: (← within p (inner.parts .free)))
  let start ← read 0
  let test ← read 1
  let step ← read 2
  if ps.length ≠ 3 then refuse (.nearToken "((")
  pure (.counted input.line start test step (← extendedLoopBody inner))

def eachLoop : Parse Command := do
  let l := (← get).line
  let extended := (← get).extended
  match ← look with
  | .word raw =>
    if !isName raw && !extended then refuse .badForName
    else
      skip raw.length
      match ← look with
      | .operator ";" =>
        skip 1
        skipLines
        pure (.each l raw none (← loopBody inner))
      | _ =>
        skipLines
        if ← acceptWord "in" then
          let ws ← wordsOnto inner ((← get).bound + 1) []
          match ← look with
          | .operator ";" => pure ()
          | .newline => pure ()
          | hit => refuseLook hit none
          if extended then pure (.each l raw (some ws) (← extendedLoopBody inner))
          else
            skipSeparator
            pure (.each l raw (some ws) (← loopBody inner))
        else pure (.each l raw none (← loopBody inner))
  | hit =>
    if !extended then refuse .badForName
    else
      match hit, (← get).rest with
      | .operator "(", '(' :: '(' :: _ => countedLoop inner
      | _, _ => refuseWithin hit none

def patternsOnto (inner : Grammar) : Nat → List Word → Parse (List Word)
  | 0, read => pure read.reverse
  | fuel + 1, read => do
    let pat ← expectAnyWord inner (some (cited ")"))
    match ← look with
    | .operator "|" => skip 1; patternsOnto inner fuel (pat :: read)
    | .operator ")" => skip 1; pure (pat :: read).reverse
    | hit => refuseWithin hit (some (cited ")"))

def armsOnto (inner : Grammar) : Nat → List (List Word × List Command × AfterArm) →
    Parse (List (List Word × List Command × AfterArm))
  | 0, read => pure read.reverse
  | fuel + 1, read => do
    skipLines
    if ← acceptWord "esac" then pure read.reverse
    else
      let hit ← look
      if hit = .finish && (← get).extended then refuseLook hit none
      if hit = .operator "(" then skip 1
      let patterns ← patternsOnto inner ((← get).bound + 1) []
      let commands ← inner.list
      skipLines
      match ← look with
      | .operator ";;" => skip 2; armsOnto inner fuel ((patterns, commands, .leave) :: read)
      | .operator ";&" => skip 2; armsOnto inner fuel ((patterns, commands, .fall) :: read)
      | .operator ";;&" => skip 3; armsOnto inner fuel ((patterns, commands, .retry) :: read)
      | hit =>
        if ← acceptWord "esac" then pure ((patterns, commands, .leave) :: read).reverse
        else refuseLook hit (some (cited ";;"))

def choice : Parse Command := do
  let l := (← get).line
  let subject ← expectAnyWord inner (some "word")
  skipLines
  expectWord "in"
  pure (.choose l subject (← armsOnto inner ((← get).bound + 1) []))

def replaceAlias (aliases : List (Raw × Raw)) : Nat → List Raw → Raw → Raw
  | 0, _, cs => cs
  | fuel + 1, used, cs =>
    let blanks := cs.take (blankLength cs.length cs)
    let cs := cs.drop blanks.length
    match lookAt false cs with
    | .word raw =>
      match if used.contains raw then none else aliases.lookup raw with
      | none => blanks ++ cs
      | some s =>
        let xs := cs.drop raw.length
        let xs := match s.getLast? with
          | some ' ' | some '\t' => replaceAlias aliases fuel [] xs
          | _ => xs
        blanks ++ replaceAlias aliases fuel (raw :: used) (s ++ xs)
    | _ => blanks ++ cs

def skipAlias : Parse Unit :=
  modify fun input =>
    if input.aliases.isEmpty then input
    else
      let rest := replaceAlias input.aliases (input.aliases.length * 2 + 2) [] input.rest
      { input with rest, bound := rest.length }

def testOperators : List String := "= == != =~ < > -eq -ne -lt -le -gt -ge -nt -ot -ef".splitOn

def testLetters : List Char := "abcdefghknoprstuvwxzGLNORS"

def nextRaw : Parse Raw := do
  match ← look with
  | .word raw => pure raw
  | .operator s => pure s.toList
  | .redirection => pure ((← get).rest.take 1)
  | .newline => pure "newline"
  | .finish => pure (if (← get).atLineStart then "EOF" else "newline")

def refuseTest {α : Type} (reason : String) : Parse α := do
  let hit ← look
  let xs := (← get).rest
  refuse (.badTest reason (hit = .finish || (hit = .newline && xs.length = 1)))

def refuseTestEnd {α : Type} (reason : String) : Parse α := do
  skip 2
  refuse (.badTest reason false)

def testOperand (op : String) : Parse Word := do
  let hit ← look
  match hit, op with
  | .operator "(", "=~" => regular
  | .word _, "=~" => regular
  | .word raw, _ =>
    if raw = "]]" then refuseTestEnd "unexpected argument `]]' to conditional binary operator"
    else if ["=", "==", "!="].contains op then
      recorded do pure (expandTilde (← parts inner (.pattern false)))
    else word inner
  | _, _ =>
    let raw := String.ofList (← nextRaw)
    refuseTest ("unexpected argument `" ++ raw ++ "' to conditional binary operator")
where
  regular : Parse Word := fun input =>
    match recorded (parts inner (.pattern true)) input with
    | .error (l, .unmatched ')') => .error (input.line + input.rest.count '\n' + 1, .openOperand l)
    | res => res

def testTerm (inner : Grammar) (whole : Parse Test) : Nat → Parse Test
  | 0 => refuse .endOfFile
  | fuel + 1 => do
    skipLines
    match ← look with
    | .operator "(" =>
      skip 1
      let test ← whole
      skipLines
      if (← look) = .operator ")" then skip 1; pure (.enclosed test)
      else
        let raw := String.ofList (← nextRaw)
        refuseTest ("unexpected token `" ++ raw ++ "', expected `)'")
    | .word ['!'] => skip 1; pure (.negated (← testTerm inner whole fuel))
    | .word raw =>
      if raw = "]]" then refuseTestEnd ""
      else
        let isUnary := match raw with
          | ['-', ch] => testLetters.contains ch
          | _ => false
        let start ← get
        let x ← word inner
        let raw' ← nextRaw
        if testOperators.contains (String.ofList raw') then
          skip raw'.length
          pure (.binary raw' x (← testOperand inner (String.ofList raw')))
        else if isUnary && raw' ≠ "]]" then
          match ← look with
          | .word _ => pure (.unary raw (← word inner))
          | _ =>
            refuseTest ("unexpected argument `" ++ String.ofList raw'
              ++ "' to conditional unary operator")
        else if isUnary then
          set start
          skip raw.length
          let _ ← look
          refuseTestEnd "unexpected argument `]]' to conditional unary operator"
        else
          match ← look with
          | .word raw =>
            if raw = "]]" then pure (.single x)
            else refuseTest "conditional binary operator expected"
          | .operator "&&" | .operator "||" | .operator ")" => pure (.single x)
          | _ =>
            refuseTest ("unexpected token `" ++ String.ofList raw'
              ++ "', conditional binary operator expected")
    | .finish =>
      modify fun input => if input.atLineStart then input else { input with line := input.line + 1 }
      refuse (.badTest "unexpected token `EOF' in conditional command" true)
    | _ =>
      let raw := String.ofList (← nextRaw)
      refuseTest ("unexpected token `" ++ raw ++ "' in conditional command")

def testJoined (op : String) (make : Test → Test → Test) (next : Parse Test) : Nat → Parse Test
  | 0 => refuse .endOfFile
  | fuel + 1 => do
    let l ← next
    skipLines
    if (← look) = .operator op then
      skip 2
      pure (make l (← testJoined op make next fuel))
    else pure l

def testWhole (inner : Grammar) : Nat → Parse Test
  | 0 => refuse .endOfFile
  | d + 1 => do
    let fuel := (← get).bound + 1
    let term := testTerm inner (testWhole inner d) fuel
    testJoined "||" .either (testJoined "&&" .both term fuel) fuel

def maxTestDepth : Nat := 50

def bracketTest : Parse Command := do
  let test ← testWhole inner maxTestDepth
  skipLines
  let hit ← look
  if hit = .word "]]" then
    skip 2
    let l := (← get).line
    withRedirects inner l (.test l test)
  else if hit = .finish then refuseLook hit none
  else
    let raw := String.ofList (← nextRaw)
    match hit with
    | .word _ => refuseTest "syntax error in conditional expression"
    | _ => refuseTest ("syntax error in conditional expression: unexpected token `" ++ raw ++ "'")

def announcedFunction : Parse Command := do
  let hit ← look
  match hit with
  | .word raw =>
    skip raw.length
    if (← look) = .operator "(" then
      skip 1
      expectOperator ")"
    skipLines
    let _ ← look
    pure (.define (← get).line raw (← extendedBody inner))
  | _ => refuseWithin hit none

def extendedCommand? (hit : Look) : Parse (Option Command) := do
  let input ← get
  if !input.extended then pure none
  else
    match hit with
    | .operator "(" =>
      match input.rest with
      | '(' :: '(' :: _ =>
        match ← formula inner with
        | some parts =>
          let raw ← writtenSince input
          let note := Part.written ((raw.drop 2).take (raw.length - 4))
          let l := (← get).line
          some <$> withRedirects inner l (.formula l (note :: parts))
        | none =>
          set input
          pure none
      | _ => pure none
    | .word raw =>
      match String.ofList raw with
      | "[[" => skip 2; some <$> bracketTest inner
      | "function" => skip 8; some <$> announcedFunction inner
      | _ => pure none
    | _ => pure none

def plainCommand (hit : Look) : Parse Command := do
  let start := (← get).line
  match hit with
  | .operator "(" =>
    skip 1
    let commands ← body inner
    expectOperator ")"
    withRedirects inner start (.subshell commands)
  | .redirection => simple inner
  | .word raw =>
    match String.ofList raw with
    | "\x7b" =>
      skip 1
      let commands ← body inner
      expectWord "\x7d"
      withRedirects inner start (.group commands)
    | "if" =>
      skip 2
      let fuel := (← get).bound + 1
      withRedirects inner start (← condition inner fuel)
    | "while" =>
      skip 5
      let test ← body inner
      withRedirects inner start (.loop false test (← loopBody inner))
    | "until" =>
      skip 5
      let test ← body inner
      withRedirects inner start (.loop true test (← loopBody inner))
    | "for" => skip 3; withRedirects inner start (← eachLoop inner)
    | "case" => skip 4; withRedirects inner start (← choice inner)
    | _ => if isAmong closingWords raw then refuseLook hit none else simple inner
  | _ => refuseLook hit none

def command (inner : Grammar) : Parse Command := do
  skipAlias
  let hit ← look
  let input ← get
  match ← extendedCommand? inner hit with
  | some command => pure command
  | none =>
    if input.extended && "((".toList.isPrefixOf input.rest then halfFormula (plainCommand inner hit)
    else plainCommand inner hit

def stagesOnto (inner : Grammar) : Nat → List Command → Parse (List Command)
  | 0, read => pure read.reverse
  | fuel + 1, read => do
    let l := (← get).line
    let stage ← command inner
    match ← look with
    | .operator "|" => skip 1; skipLines; stagesOnto inner fuel (stage :: read)
    | .operator "|&" =>
      skip 2
      skipLines
      let stage := .redirected l stage [.duplicate 2 (descriptorWord 1)]
      stagesOnto inner fuel (stage :: read)
    | _ => pure (stage :: read).reverse

def endsPipeline : Look → Bool
  | .finish | .newline => true
  | .operator s => "; & && || )".splitOn.contains s
  | _ => false

def pipelineFrom (inner : Grammar) : Nat → Parse Command
  | 0 => refuse .endOfFile
  | fuel + 1 => do
    if ← acceptWord "!" then
      let hit ← look
      let input ← get
      if input.extended && endsPipeline hit then pure (.negated (.simple input.line [] [] []))
      else if input.extended && hit = .word "!" then
        skip 1
        pipelineFrom inner fuel
      else if hit = .word "!" then refuseLook hit none
      else pure (.negated (← pipelineFrom inner fuel))
    else
      let input ← get
      let isTimed ← if input.extended then acceptWord "time" else pure false
      if isTimed then
        let isShort ← acceptWord "-p"
        if endsPipeline (← look) then pure (.timed isShort (.simple input.line [] [] []))
        else pure (.timed isShort (← pipelineFrom inner fuel))
      else stages
where
  stages : Parse Command := do
    match ← stagesOnto inner ((← get).bound + 1) [] with
    | [stage] => pure stage
    | stages => pure (.pipeline stages)

def pipeline : Parse Command := do
  pipelineFrom inner ((← get).bound + 1)

def joinedOnto (inner : Grammar) : Nat → Command → Parse Command
  | 0, l => pure l
  | fuel + 1, l => do
    match ← look with
    | .operator "&&" => skip 2; skipLines; joinedOnto inner fuel (.both l (← pipeline inner))
    | .operator "||" => skip 2; skipLines; joinedOnto inner fuel (.either l (← pipeline inner))
    | _ => pure l

def joined : Parse Command := do
  let l ← pipeline inner
  joinedOnto inner ((← get).bound + 1) l

def closesList : Look → Bool
  | .finish => true
  | .operator s => ") ;; ;& ;;&".splitOn.contains s
  | .word raw => isAmong closingWords raw
  | _ => false

def listOnto (inner : Grammar) : Nat → List Command → Parse (List Command)
  | 0, read => pure read.reverse
  | fuel + 1, read => do
    skipLines
    if closesList (← look) then pure read.reverse
    else
      let hit ← joined inner
      match ← look with
      | .operator ";" => skip 1; listOnto inner fuel (hit :: read)
      | .operator "&" => skip 1; listOnto inner fuel (.background hit :: read)
      | .newline => listOnto inner fuel (hit :: read)
      | _ => pure (hit :: read).reverse

def grammar : Nat → Grammar
  | 0 =>
    { list := refuse .badSubstitution
      command := refuse .badSubstitution
      parts := fun _ => refuse .badSubstitution }
  | d + 1 =>
    let inner := grammar d
    { list := do listOnto inner ((← get).bound + 1) []
      command := command inner
      parts := parts inner }

def maxDepth : Nat := 200

def lineOnto (inner : Grammar) : Nat → List Command → Parse (List Command)
  | 0, read => pure read.reverse
  | fuel + 1, read => do
    let hit ← joined inner
    let ended (read : List Command) : Parse (List Command) := do
      match ← look with
      | .newline => skip 1; pure read.reverse
      | .finish => pure read.reverse
      | _ => lineOnto inner fuel read
    match ← look with
    | .operator ";" => skip 1; ended (hit :: read)
    | .operator "&" => skip 1; ended (.background hit :: read)
    | .newline => skip 1; pure (hit :: read).reverse
    | .finish => pure (hit :: read).reverse
    | y => refuseLook y none

def nextLine : Parse (Option (List Command)) := do
  skipLines
  match ← look with
  | .finish => pure none
  | _ => pure (some (← lineOnto (grammar maxDepth) ((← get).bound + 1) []))

def textWord (s : Raw) : Word :=
  match ((grammar maxDepth).parts .free).run { rest := s, extended := true } with
  | .ok (w, _) => w
  | .error _ => [.text s true]

end Assay.Script
