import Assay.Yaml.Token.Property
import Assay.Yaml.Token.Scalar

/-! # Reading tokens -/

namespace Assay.Yaml

structure KeyPlace where
  number : Nat
  required : Bool
  mark : Mark

structure Lexer where
  cursor : Cursor
  indent : Int := -1
  outer : List Int := []
  /-- The possible key of every bracket that is open, the innermost first, and last the one outside
  of all brackets. -/
  keys : List (Option KeyPlace) := [none]
  keyAllowed : Bool := true
  queue : List Token := []
  ready : Array Token := #[]
  ended : Bool := false
  /-- The offset from which on the text cannot be had, and that of the character that may not occur,
  if there is one. -/
  bound : Option (Nat × Nat) := none

namespace Lexer

variable (lexer : Lexer)

def inFlow : Bool := lexer.keys.length > 1

def column (lexer : Lexer) : Int := lexer.cursor.mark.column

def nextNumber : Nat := lexer.ready.size + lexer.queue.length

variable (kind : TokenKind)

def push (start stop : Mark) : Lexer :=
  { lexer with queue := lexer.queue ++ [{ kind, start, stop }] }

def insert (n : Nat) (kind : TokenKind) (mark : Mark) : Lexer :=
  let p := n - lexer.ready.size
  { lexer with
    queue := lexer.queue.take p ++ { kind, start := mark, stop := mark } :: lexer.queue.drop p }

def missingColon {α : Type} (lexer : Lexer) (key : KeyPlace) : Except SyntaxError α :=
  lexer.cursor.fail "while scanning a simple key" key.mark "could not find expected ':'"

/-! ## Possible keys -/

def maxKeyLength : Nat := 1024

def isStale (mark : Mark) (key : KeyPlace) : Bool :=
  key.mark.line < mark.line || key.mark.index + maxKeyLength < mark.index

def dropStale : Except SyntaxError Lexer :=
  let stale (key : Option KeyPlace) : Bool := key.any (isStale lexer.cursor.mark)
  match lexer.keys.reverse.findSome? fun key => key.filter fun key =>
      isStale lexer.cursor.mark key && key.required with
  | some key => lexer.missingColon key
  | none => .ok { lexer with keys := lexer.keys.map fun key => if stale key then none else key }

def dropKey : Except SyntaxError Lexer :=
  match lexer.keys with
  | some key :: keys =>
    if key.required then lexer.missingColon key else .ok { lexer with keys := none :: keys }
  | _ => .ok lexer

def saveKey : Except SyntaxError Lexer := do
  if !lexer.keyAllowed then .ok lexer
  else
    let required := !lexer.inFlow && lexer.indent == lexer.column
    let key : KeyPlace := { number := lexer.nextNumber, required, mark := lexer.cursor.mark }
    let lexer ← lexer.dropKey
    .ok { lexer with keys := some key :: lexer.keys.tail }

/-! ## Indentation -/

def roll (col : Int) (n : Option Nat) (kind : TokenKind) (mark : Mark) : Lexer :=
  if lexer.inFlow || lexer.indent ≥ col then lexer
  else
    let lexer := { lexer with outer := lexer.indent :: lexer.outer, indent := col }
    match n with
    | some n => lexer.insert n kind mark
    | none => lexer.push kind mark mark

def unrollFrom (col : Int) (mark : Mark) (queue : List Token) (indent : Int) :
    List Int → List Token × Int × List Int
  | [] => (queue, indent, [])
  | around :: h =>
    if indent > col then
      unrollFrom col mark (queue ++ [{ kind := .blockEnd, start := mark, stop := mark }]) around h
    else (queue, indent, around :: h)

def unroll (col : Int) : Lexer :=
  if lexer.inFlow then lexer
  else
    let (queue, indent, outer) :=
      unrollFrom col lexer.cursor.mark lexer.queue lexer.indent lexer.outer
    { lexer with queue, indent, outer }

/-! ## Single tokens -/

def pushHere (len : Nat) : Lexer :=
  let cursor := lexer.cursor.skipMany len
  { lexer.push kind lexer.cursor.mark cursor.mark with cursor }

def skipBetween (fuel : Nat) (lexer : Lexer) : Lexer :=
  match fuel with
  | 0 => lexer
  | fuel + 1 =>
    let cursor := lexer.cursor
    let cursor := if cursor.mark.column == 0 && cursor.isAt '\ufeff' then cursor.skip else cursor
    let tabs := lexer.inFlow || !lexer.keyAllowed
    let cursor := (cursor.skipWhile fun c => c == ' ' || (tabs && c == '\t')).skipComment
    if cursor.breakAt 0 then
      skipBetween fuel
        { lexer with
          cursor := cursor.skipLine, keyAllowed := if lexer.inFlow then lexer.keyAllowed else true }
    else { lexer with cursor }

def streamEnd (lexer : Lexer) : Except SyntaxError Lexer := do
  let mark := lexer.cursor.mark
  let mark := if mark.column = 0 then mark else { mark with line := mark.line + 1, column := 0 }
  let lexer := { lexer with cursor := { lexer.cursor with mark } }.unroll (-1)
  let lexer ← lexer.dropKey
  .ok { lexer.push .streamEnd mark mark with keyAllowed := false, ended := true }

def directive (lexer : Lexer) : Except SyntaxError Lexer := do
  let lexer ← (lexer.unroll (-1)).dropKey
  let (kind, stop, cursor) ← Property.directive lexer.cursor
  .ok { lexer.push kind lexer.cursor.mark stop with cursor, keyAllowed := false }

def documentMark : Except SyntaxError Lexer := do
  let lexer ← (lexer.unroll (-1)).dropKey
  .ok { lexer.pushHere kind 3 with keyAllowed := false }

def openFlow : Except SyntaxError Lexer := do
  let lexer ← lexer.saveKey
  .ok { lexer.pushHere kind 1 with keys := none :: lexer.keys, keyAllowed := true }

def closeFlow : Except SyntaxError Lexer := do
  let lexer ← lexer.dropKey
  let keys := if lexer.inFlow then lexer.keys.tail else lexer.keys
  .ok { lexer.pushHere kind 1 with keys, keyAllowed := false }

def flowEntry (lexer : Lexer) : Except SyntaxError Lexer := do
  let lexer ← lexer.dropKey
  .ok { lexer.pushHere .flowEntry 1 with keyAllowed := true }

def refuse {α : Type} (lexer : Lexer) (s : String) : Except SyntaxError α :=
  .error (.problem s lexer.cursor.mark none)

def blockEntry (lexer : Lexer) : Except SyntaxError Lexer := do
  if !lexer.inFlow && !lexer.keyAllowed then
    lexer.refuse "block sequence entries are not allowed in this context"
  else
    let lexer := lexer.roll lexer.column none .blockSequenceStart lexer.cursor.mark
    let lexer ← lexer.dropKey
    .ok { lexer.pushHere .blockEntry 1 with keyAllowed := true }

def key (lexer : Lexer) : Except SyntaxError Lexer := do
  if !lexer.inFlow && !lexer.keyAllowed then
    lexer.refuse "mapping keys are not allowed in this context"
  else
    let lexer := lexer.roll lexer.column none .blockMappingStart lexer.cursor.mark
    let lexer ← lexer.dropKey
    .ok { lexer.pushHere .key 1 with keyAllowed := !lexer.inFlow }

def value (lexer : Lexer) : Except SyntaxError Lexer := do
  match lexer.keys with
  | some key :: keys =>
    let lexer := lexer.insert key.number .key key.mark
    let lexer := lexer.roll key.mark.column (some key.number) .blockMappingStart key.mark
    .ok { lexer.pushHere .value 1 with keys := none :: keys, keyAllowed := false }
  | _ =>
    if !lexer.inFlow && !lexer.keyAllowed then
      lexer.refuse "mapping values are not allowed in this context"
    else
      let lexer := lexer.roll lexer.column none .blockMappingStart lexer.cursor.mark
      .ok { lexer.pushHere .value 1 with keyAllowed := !lexer.inFlow }

def anchor (context : String) (kind : String → TokenKind) : Except SyntaxError Lexer := do
  let lexer ← lexer.saveKey
  let (name, cursor) ← Property.anchorName context lexer.cursor
  .ok { lexer.push (kind name) lexer.cursor.mark cursor.mark with cursor, keyAllowed := false }

def tag (lexer : Lexer) : Except SyntaxError Lexer := do
  let lexer ← lexer.saveKey
  let (kind, cursor) ← Property.tag lexer.inFlow lexer.cursor
  .ok { lexer.push kind lexer.cursor.mark cursor.mark with cursor, keyAllowed := false }

def blockScalar (style : ScalarStyle) : Except SyntaxError Lexer := do
  let lexer ← lexer.dropKey
  let (s, stop, cursor) ← Scalar.block (style == .folded) lexer.indent lexer.cursor
  .ok { lexer.push (.scalar s style) lexer.cursor.mark stop with cursor, keyAllowed := true }

def quotedScalar (quote : Char) (style : ScalarStyle) : Except SyntaxError Lexer := do
  let lexer ← lexer.saveKey
  let (s, cursor) ← Scalar.quoted quote lexer.cursor
  .ok
    { lexer.push (.scalar s style) lexer.cursor.mark cursor.mark with
      cursor, keyAllowed := false }

def plainScalar : Except SyntaxError Lexer := do
  let lexer ← lexer.saveKey
  let plain ← Scalar.plain lexer.inFlow lexer.indent lexer.cursor
  let kind := .scalar (String.ofList plain.text.reverse) .plain
  .ok
    { lexer.push kind lexer.cursor.mark plain.stop with
      cursor := plain.cursor, keyAllowed := plain.after.broken }

variable (c : Char)

def isIndicator : Bool := "-?:,[]\x7b\x7d#&*!|>'\"%@\x60".toList.contains c

def startsPlain : Bool :=
  !(isGap c || isBreak c || isIndicator c) || (c == '-' && !lexer.cursor.gapAt 1)
    || (!lexer.inFlow && (c == '?' || c == ':') && !lexer.cursor.wordEndsAt 1)

def readFrom : Except SyntaxError Lexer :=
  let cur := lexer.cursor
  if cur.mark.column == 0 && c == '%' then lexer.directive
  else if cur.atLineOf '-' then lexer.documentMark .documentStart
  else if cur.atLineOf '.' then lexer.documentMark .documentEnd
  else if c == '[' then lexer.openFlow .flowSequenceStart
  else if c == '\x7b' then lexer.openFlow .flowMappingStart
  else if c == ']' then lexer.closeFlow .flowSequenceEnd
  else if c == '\x7d' then lexer.closeFlow .flowMappingEnd
  else if c == ',' then lexer.flowEntry
  else if c == '-' && cur.wordEndsAt 1 then lexer.blockEntry
  else if c == '?' && (lexer.inFlow || cur.wordEndsAt 1) then lexer.key
  else if c == ':' && (lexer.inFlow || cur.wordEndsAt 1) then lexer.value
  else if c == '*' then lexer.anchor "while scanning an alias" .alias
  else if c == '&' then lexer.anchor "while scanning an anchor" .anchor
  else if c == '!' then lexer.tag
  else if c == '|' && !lexer.inFlow then lexer.blockScalar .literal
  else if c == '>' && !lexer.inFlow then lexer.blockScalar .folded
  else if c == '\'' then lexer.quotedScalar '\'' .singleQuoted
  else if c == '"' then lexer.quotedScalar '"' .doubleQuoted
  else if lexer.startsPlain c then lexer.plainScalar
  else
    cur.fail "while scanning for the next token" cur.mark
      "found character that cannot start any token"

def within (ahead : Nat) : Except SyntaxError Lexer :=
  match lexer.bound with
  | some (bound, off) =>
    let k := (lexer.cursor.rest.take ahead).foldl (fun k c => k + c.utf8Size) 0
    if lexer.cursor.mark.index + k > bound then .error (.badCharacter off) else .ok lexer
  | none => .ok lexer

def isOpenEnded : Bool := c ≠ '\'' && c ≠ '"'

def lookAhead : Nat := 4

def step : Except SyntaxError Lexer := do
  let lexer := skipBetween (lexer.cursor.rest.length + 1) lexer
  let lexer ← lexer.within 1
  let lexer ← lexer.dropStale
  let lexer := lexer.unroll lexer.column
  let lexer ← lexer.within lookAhead
  match lexer.cursor.rest with
  | [] => lexer.streamEnd
  | c :: _ => (← lexer.readFrom c).within (if isOpenEnded c then 1 else 0)

def release (lexer : Lexer) : List Token → Lexer
  | [] => { lexer with queue := [] }
  | tok :: queue =>
    if lexer.keys.any fun key => key.any fun key => key.number == lexer.ready.size then
      { lexer with queue := tok :: queue }
    else release { lexer with ready := lexer.ready.push tok } queue

def foremost (problem : SyntaxError) : SyntaxError :=
  match lexer.bound, problem with
  | some (bound, off), .problem _ mark _ =>
    if mark.index ≥ bound then .badCharacter off else problem
  | _, _ => problem

def run (fuel : Nat) (lexer : Lexer) : Array Token × Option SyntaxError :=
  match fuel with
  | 0 => (lexer.ready, none)
  | fuel + 1 =>
    if lexer.ended then (lexer.ready, none)
    else
      match lexer.step with
      | .error problem => (lexer.ready, some (lexer.foremost problem))
      | .ok next =>
        if next.queue.isEmpty then run fuel next
        else
          match next.dropStale with
          | .error problem => (next.ready, some problem)
          | .ok next => run fuel (next.release next.queue)

end Lexer

def isAllowed (c : Char) : Bool :=
  let n := c.toNat
  n == 0x09 || n == 0x0A || n == 0x0D || (0x20 ≤ n && n ≤ 0x7E) || n == 0x85
    || (0xA0 ≤ n && n ≤ 0xD7FF) || (0xE000 ≤ n && n ≤ 0xFFFD) || 0x10000 ≤ n

def chunkSize : Nat := 16384

def forbidden? (chunk off : Nat) : List Char → Option (Nat × Nat)
  | [] => none
  | c :: xs =>
    let next := off + c.utf8Size
    let chunk := if next > chunk + chunkSize then off else chunk
    if isAllowed c then forbidden? chunk next xs else some (chunk, off)

def tokens (s : String) : Array Token × Option SyntaxError :=
  let rest := s.toList
  let lexer : Lexer :=
    { cursor := { rest }, ready := #[{ kind := .streamStart, start := {}, stop := {} }]
      bound := forbidden? 0 0 rest }
  lexer.run (rest.length + 2)

end Assay.Yaml
