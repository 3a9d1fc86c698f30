import Assay.Script.Basic
import Assay.Text.Locale

/-! # What is left of a script -/

namespace Assay.Script

inductive Flaw where
  | unexpected (found : String) (wanted : Option String)
  | openQuote | openBackquote | openBrace | openFormula | badSubstitution | badFunctionName
  | badForName | endOfFile
  | nearToken (token : String)
  | unmatched (c : Char)
  | openItems
  /-- A condition between double brackets is none: why, if that can be told, and whether that shows
  at the end of the script. -/
  | badTest (reason : String) (isLast : Bool)
  | openOperand (line : Nat)

def Flaw.message : Flaw → String
  | .unexpected hit none => hit ++ " unexpected"
  | .unexpected hit (some wanted) => hit ++ " unexpected (expecting " ++ wanted ++ ")"
  | .openQuote => "Unterminated quoted string"
  | .openBackquote => "EOF in backquote substitution"
  | .openBrace => "Missing '\x7d'"
  | .openFormula => "Missing '))'"
  | .badSubstitution => "Bad substitution"
  | .badFunctionName => "Bad function name"
  | .badForName => "Bad for loop variable"
  | .endOfFile => "syntax error: unexpected end of file"
  | .nearToken tok => "syntax error near unexpected token `" ++ tok ++ "'"
  | .unmatched c => "unexpected EOF while looking for matching `" ++ String.ofList [c] ++ "'"
  | .openItems => "unexpected EOF while looking for matching `)'"
  | .badTest reason _ => reason
  | .openOperand _ => "unexpected argument to conditional binary operator"

structure Input where
  rest : Raw
  bound : Nat := rest.length
  position : Nat := 0
  line : Nat := 1
  taken : Nat := 0
  aliases : List (Raw × Raw) := []
  (extended groups : Bool := false)
  locale : Text.Locale := .plain
  /-- The texts given in the script that have no end: the lines where they end and start, and what
  would have ended them. -/
  unended : List (Nat × Nat × Raw) := []
  atLineStart : Bool := true
  /-- The commands that were read within words, the last ones first: from where to where they stand,
  and their text. -/
  nested : List (Nat × Nat × Raw) := []

abbrev Parse := StateT Input (Except (Nat × Flaw))

def refuse {α : Type} (flaw : Flaw) : Parse α := do
  throw ((← get).line, flaw)

def refuseOpen {α : Type} (flaw : Flaw) (c : Char) : Parse α := do
  if (← get).extended then refuse (.unmatched c) else refuse flaw

def anchored {α : Type} (c : Char) (reader : Parse α) : Parse α := fun input =>
  match reader input with
  | .error (l, .unmatched y) => .error (if y = c then input.line else l, .unmatched y)
  | .error (l, .openItems) => .error (if c = ')' then input.line else l, .openItems)
  | res => res

def skip (k : Nat) : Parse Unit :=
  modify fun input =>
    let taken := input.rest.take k
    let ls := taken.count '\n'
    { input with
      rest := input.rest.drop k
      position := input.position + k
      atLineStart := match taken.getLast? with
        | some last => last = '\n'
        | none => input.atLineStart
      line := input.line + ls + (if ls = 0 then 0 else input.taken)
      taken := if ls = 0 then input.taken else 0 }

def isMeta (c : Char) : Bool :=
  c = ' ' || c = '\t' || c = '\n' || c = ';' || c = '&' || c = '|'
    || c = '(' || c = ')' || c = '<' || c = '>'

def blankLength (fuel : Nat) (cs : Raw) : Nat :=
  match fuel, cs with
  | fuel + 1, ' ' :: xs => blankLength fuel xs + 1
  | fuel + 1, '\t' :: xs => blankLength fuel xs + 1
  | fuel + 1, '\\' :: '\n' :: xs => blankLength fuel xs + 2
  | _, '#' :: xs => (xs.takeWhile (· ≠ '\n')).length + 1
  | _, _ => 0

def skipBlanks : Parse Unit := do
  let input ← get
  skip (blankLength input.bound input.rest)

def skipLinesFrom : Nat → Parse Unit
  | 0 => pure ()
  | fuel + 1 => do
    skipBlanks
    if let '\n' :: _ := (← get).rest then
      skip 1
      skipLinesFrom fuel

def skipLines : Parse Unit := do
  skipLinesFrom ((← get).bound + 1)

inductive Look where
  | finish | newline
  | operator (s : String)
  | redirection
  | word (raw : Raw)
  deriving DecidableEq

def chosenName? : Raw → Option Raw
  | '\x7b' :: xs =>
    let name := xs.takeWhile isNameChar
    match isName name, xs.drop name.length with
    | true, '\x7d' :: '<' :: _ | true, '\x7d' :: '>' :: _ => some name
    | _, _ => none
  | _ => none

def extendedLook? (cs : Raw) : Option Look :=
  match cs with
  | ';' :: ';' :: '&' :: _ => some (.operator ";;&")
  | ';' :: '&' :: _ => some (.operator ";&")
  | '|' :: '&' :: _ => some (.operator "|&")
  | '&' :: '>' :: _ => some .redirection
  | '<' :: '(' :: _ => some (.word "<(")
  | '>' :: '(' :: _ => some (.word ">(")
  | x :: _ =>
    if x.isDigit || (chosenName? cs).isSome then
      match cs.drop ((chosenName? cs).elim 0 (·.length + 2)) |>.dropWhile Char.isDigit with
      | '<' :: _ => some .redirection
      | '>' :: _ => some .redirection
      | _ => none
    else none
  | [] => none

def lookAt (extended : Bool) (cs : Raw) : Look :=
  match if extended then extendedLook? cs else none with
  | some hit => hit
  | none =>
  match cs with
  | [] => .finish
  | '\n' :: _ => .newline
  | ';' :: ';' :: _ => .operator ";;"
  | ';' :: _ => .operator ";"
  | '&' :: '&' :: _ => .operator "&&"
  | '&' :: _ => .operator "&"
  | '|' :: '|' :: _ => .operator "||"
  | '|' :: _ => .operator "|"
  | '(' :: _ => .operator "("
  | ')' :: _ => .operator ")"
  | _ =>
    match if cs.head?.any Char.isDigit then cs.drop 1 else cs with
    | '<' :: _ => .redirection
    | '>' :: _ => .redirection
    | _ => .word (cs.takeWhile fun c => !isMeta c)

def look : Parse Look := do
  skipBlanks
  let input ← get
  pure (lookAt input.extended input.rest)

def reservedWords : List String :=
  ["!", "\x7b", "\x7d", "case", "do", "done", "elif", "else", "esac", "fi", "for", "if", "in",
    "then", "until", "while"]

def closingWords : List String := ["\x7d", "do", "done", "elif", "else", "esac", "fi", "then"]

def enclosingWords : List String := ["\x7b", "[[", "case", "for", "if", "until", "while"]

def isAmong (ws : List String) (raw : Raw) : Bool := ws.contains (String.ofList raw)

def Look.describe : Look → String
  | .finish => "end of file"
  | .newline => "newline"
  | .operator s => "\"" ++ s ++ "\""
  | .redirection => "redirection"
  | .word raw => if isAmong reservedWords raw then "\"" ++ String.ofList raw ++ "\"" else "word"

def redirectionText (cs : Raw) : Raw :=
  let operators := "&>> &> <<< <<- << <& <> < >> >& >| >".splitOn
  match operators.find? fun s => s.toList.isPrefixOf cs with
  | some s => s.toList
  | none => cs.takeWhile Char.isDigit

def Look.flaw (hit : Look) (cs : Raw) : Flaw :=
  match hit with
  | .finish => .endOfFile
  | .newline => .nearToken "newline"
  | .operator s => .nearToken s
  | .redirection => .nearToken (String.ofList (redirectionText cs))
  | .word raw => .nearToken (String.ofList raw)

def refuseLook {α : Type} (hit : Look) (wanted : Option String) : Parse α := do
  let input ← get
  if !input.extended then refuse (.unexpected hit.describe wanted)
  else
    if hit = .finish && !input.atLineStart then set { input with line := input.line + 1 }
    refuse (hit.flaw input.rest)

def refuseWithin {α : Type} (hit : Look) (wanted : Option String) : Parse α := do
  let input ← get
  if input.extended && hit = .finish && !input.atLineStart then refuse (.nearToken "newline")
  else refuseLook hit wanted

variable (s : String)

def cited : String := "\"" ++ s ++ "\""

def expectOperator : Parse Unit := do
  let hit ← look
  if hit = .operator s then skip s.length else refuseLook hit (some (cited s))

def expectWord : Parse Unit := do
  let hit ← look
  if hit = .word s.toList then skip s.length
  else refuseLook hit (some (cited s))

def acceptWord : Parse Bool := do
  if (← look) = .word s.toList then skip s.length; pure true else pure false

inductive Context where
  | bare | double
  | brace (quoted : Bool)
  | free | formula | loose
  | upTo (c : Char) (quoted : Bool)
  | pattern (regular : Bool)
  | enclosed (regular : Bool)
  deriving DecidableEq

namespace Context

def quoted : Context → Bool
  | .bare => false
  | .double => true
  | .brace quoted => quoted
  | .free => true
  | .formula => true
  | .loose => false
  | .upTo _ quoted => quoted
  | .pattern _ => false
  | .enclosed _ => false

variable (context : Context)

def ends (c : Char) : Bool :=
  match context with
  | .bare => isMeta c
  | .double => c = '"'
  | .brace _ => c = '\x7d'
  | .free => false
  | .formula => c = '(' || c = ')'
  | .loose => false
  | .upTo last _ => c = '\x7d' || c = last
  | .pattern regular => isMeta c && !(regular && c = '|')
  | .enclosed _ => c = ')'

def encloses (last : Option Char) : Bool :=
  match context with
  | .pattern regular | .enclosed regular => regular || last.any "?*+@!".toList.contains
  | _ => false

def escapes (c : Char) : Bool :=
  match context with
  | .bare | .brace false | .loose | .upTo _ false | .pattern _ | .enclosed _ => true
  | .double => c = '$' || c = '`' || c = '"' || c = '\\'
  | .brace true | .upTo _ true => c = '$' || c = '`' || c = '"' || c = '\\' || c = '\x7d'
  | .free | .formula => c = '$' || c = '`' || c = '\\'

def isPlain (c : Char) : Bool :=
  !context.ends c && c ≠ '\\' && c ≠ '$' && c ≠ '`'
    && (context = .free || context = .formula || c ≠ '"') && (context.quoted || c ≠ '\'')
    && !(c = '(' && context.encloses (some '@'))

end Context

structure Grammar where
  list : Parse (List Command)
  command : Parse Command
  parts : Context → Parse (List Part)

def restated (start : Nat) (cs : Raw) : List (Nat × Nat × Raw) → Raw
  | [] => cs
  | (x, last, s) :: xs => cs.take (x - start) ++ s ++ restated last (cs.drop (last - start)) xs

def joinedLines : Raw → Raw
  | '\\' :: '\n' :: xs => joinedLines xs
  | c :: xs => c :: joinedLines xs
  | [] => []

def writtenSince (start : Input) : Parse Raw := do
  let input ← get
  let inside := input.nested.filter fun (x, _, _) => start.position ≤ x
  set { input with nested := input.nested.drop inside.length }
  let raw := restated start.position (start.rest.take (input.position - start.position))
    inside.reverse
  pure (if raw.contains '\'' then raw else joinedLines raw)

def recorded (reader : Parse (List Part)) : Parse (List Part) := do
  let start ← get
  let hit ← reader
  if start.extended then pure (.written (← writtenSince start) :: hit) else pure hit

def nestedCommands (reader : Parse (List Command)) (show' : List Command → Raw) :
    Parse (List Command) := do
  let start ← get
  let commands ← reader
  if start.extended then
    modify fun input =>
      let outside := input.nested.filter fun (x, _, _) => x < start.position
      { input with nested := (start.position, input.position - 1, show' commands) :: outside }
  pure commands

def within {α : Type} (s : Raw) (reader : Parse α) : Parse α := do
  let h ← get
  set { h with rest := s, bound := s.length }
  let res ← reader
  set h
  pure res

end Assay.Script
