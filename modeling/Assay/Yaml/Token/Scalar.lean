import Assay.Yaml.Cursor

/-! # Reading scalars -/

namespace Assay.Yaml.Scalar

structure Blanks where
  gaps : List Char := []
  leading : List Char := []
  trailing : List Char := []
  broken : Bool := false

def foldBreaks (leading trailing : List Char) : List Char :=
  if leading.head? = some '\n' then (if trailing.isEmpty then [' '] else trailing)
  else leading ++ trailing

variable (blanks : Blanks)

def Blanks.onto (s : List Char) : List Char :=
  if blanks.broken then (foldBreaks blanks.leading blanks.trailing.reverse).reverse ++ s
  else blanks.gaps ++ s

def Blanks.addBreak (lineBreak : List Char) : Blanks :=
  if blanks.broken then { blanks with trailing := lineBreak ++ blanks.trailing }
  else { blanks with gaps := [], leading := lineBreak, broken := true }

def Blanks.addGap (c : Char) : Blanks :=
  if blanks.broken then blanks else { blanks with gaps := c :: blanks.gaps }

def readBlanks (margin : Int) (start : Mark) (fuel : Nat) (cursor : Cursor) (blanks : Blanks) :
    Except SyntaxError (Blanks × Cursor) :=
  match fuel with
  | 0 => .ok (blanks, cursor)
  | fuel + 1 =>
    match cursor.rest with
    | [] => .ok (blanks, cursor)
    | c :: _ =>
      if isGap c then
        if blanks.broken && (cursor.mark.column : Int) < margin && c == '\t' then
          cursor.fail "while scanning a plain scalar" start
            "found a tab character that violates indentation"
        else readBlanks margin start fuel cursor.skip (blanks.addGap c)
      else if isBreak c then
        readBlanks margin start fuel cursor.skipLine (blanks.addBreak cursor.lineBreak)
      else .ok (blanks, cursor)

/-! ## Plain scalars -/

def isFlowMark (c : Char) : Bool := c = ',' || c = '[' || c = ']' || c = '\x7b' || c = '\x7d'

def plainWord (flow : Bool) (start : Mark) (fuel : Nat) (cursor : Cursor) (w : List Char) :
    Except SyntaxError (List Char × Cursor) :=
  match fuel with
  | 0 => .ok (w, cursor)
  | fuel + 1 =>
    match cursor.rest with
    | [] => .ok (w, cursor)
    | c :: xs =>
      if isGap c || isBreak c then .ok (w, cursor)
      else if flow && c == ':' && xs.head?.any fun next => isFlowMark next || next == '?' then
        cursor.fail "while scanning a plain scalar" start "found unexpected ':'"
      else if (c == ':' && cursor.wordEndsAt 1) || (flow && isFlowMark c) then .ok (w, cursor)
      else plainWord flow start fuel cursor.skip (c :: w)

structure Plain where
  text : List Char := []
  after : Blanks := {}
  stop : Mark
  cursor : Cursor

def plainLines (flow : Bool) (indent : Int) (start : Mark) (fuel : Nat) (plain : Plain) :
    Except SyntaxError Plain :=
  match fuel with
  | 0 => .ok plain
  | fuel + 1 =>
    let cursor := plain.cursor
    if cursor.atDocumentMark || cursor.isAt '#' then .ok plain
    else do
      let (w, cursor) ← plainWord flow start cursor.rest.length cursor []
      let plain :=
        if w.isEmpty then { plain with cursor }
        else { text := w ++ plain.after.onto plain.text, after := {}, stop := cursor.mark, cursor }
      if !(cursor.gapAt 0 || cursor.breakAt 0) then .ok plain
      else
        let (after, cursor) ← readBlanks (indent + 1) start cursor.rest.length cursor plain.after
        let plain := { plain with after, cursor }
        if !flow && (cursor.mark.column : Int) < indent + 1 then .ok plain
        else plainLines flow indent start fuel plain

def plain (flow : Bool) (indent : Int) (cursor : Cursor) : Except SyntaxError Plain :=
  plainLines flow indent cursor.mark (cursor.rest.length + 1) { stop := cursor.mark, cursor }

/-! ## Quoted scalars -/

def escaped? : Char → Option Char
  | '0' => some '\x00'
  | 'a' => some '\x07'
  | 'b' => some '\x08'
  | 't' => some '\t'
  | '\t' => some '\t'
  | 'n' => some '\n'
  | 'v' => some '\x0b'
  | 'f' => some '\x0c'
  | 'r' => some '\r'
  | 'e' => some '\x1b'
  | ' ' => some ' '
  | '"' => some '"'
  | '/' => some '/'
  | '\\' => some '\\'
  | 'N' => some '\u0085'
  | '_' => some '\u00a0'
  | 'L' => some '\u2028'
  | 'P' => some '\u2029'
  | _ => none

def codeLength? : Char → Option Nat
  | 'x' => some 2
  | 'u' => some 4
  | 'U' => some 8
  | _ => none

def hexValue? (c : Char) : Option Nat :=
  if '0' ≤ c ∧ c ≤ '9' then some (c.toNat - 48)
  else if 'a' ≤ c ∧ c ≤ 'f' then some (c.toNat - 87)
  else if 'A' ≤ c ∧ c ≤ 'F' then some (c.toNat - 55)
  else none

def hexNumber? : Nat → List Char → Nat → Option Nat
  | 0, _, v => some v
  | _ + 1, [], _ => none
  | k + 1, c :: xs, v =>
    match hexValue? c with
    | some d => hexNumber? k xs (v * 16 + d)
    | none => none

def quotedContext : String := "while parsing a quoted scalar"

variable (start : Mark) (cursor : Cursor)

def readEscape : Except SyntaxError (Char × Cursor) :=
  let ch := (cursor.peek? 1).getD '\x01'
  match escaped? ch, codeLength? ch with
  | some c, _ => .ok (c, cursor.skipMany 2)
  | none, some k =>
    let cursor := cursor.skipMany 2
    match hexNumber? k cursor.rest 0 with
    | none => cursor.fail quotedContext start "did not find expected hexadecimal number"
    | some code =>
      if (0xD800 ≤ code ∧ code ≤ 0xDFFF) ∨ 0x10FFFF < code then
        cursor.fail quotedContext start "found invalid Unicode character escape code"
      else .ok (Char.ofNat code, cursor.skipMany k)
  | none, none => cursor.fail quotedContext start "found unknown escape character"

def quotedWord (quote : Char) (start : Mark) (fuel : Nat) (cursor : Cursor) (w : List Char) :
    Except SyntaxError (List Char × Bool × Cursor) :=
  match fuel with
  | 0 => .ok (w, false, cursor)
  | fuel + 1 =>
    match cursor.rest with
    | [] => .ok (w, false, cursor)
    | c :: xs =>
      if isGap c || isBreak c then .ok (w, false, cursor)
      else if c == quote then
        if quote == '\'' && xs.head? = some '\'' then
          quotedWord quote start fuel (cursor.skipMany 2) ('\'' :: w)
        else .ok (w, false, cursor)
      else if c == '\\' && quote == '"' then
        if cursor.breakAt 1 then .ok (w, true, cursor.skip.skipLine)
        else do
          let (c, cursor) ← readEscape start cursor
          quotedWord quote start fuel cursor (c :: w)
      else quotedWord quote start fuel cursor.skip (c :: w)

def quoteContext : String := "while scanning a quoted scalar"

def quotedLines (quote : Char) (start : Mark) (fuel : Nat) (cursor : Cursor) (s : List Char) :
    Except SyntaxError (List Char × Cursor) :=
  match fuel with
  | 0 => .ok (s, cursor)
  | fuel + 1 =>
    if cursor.atDocumentMark then
      cursor.fail quoteContext start "found unexpected document indicator"
    else if cursor.atEnd then cursor.fail quoteContext start "found unexpected end of stream"
    else do
      let (w, broken, cursor) ← quotedWord quote start cursor.rest.length cursor []
      if cursor.isAt quote then .ok (w ++ s, cursor.skip)
      else
        let (blanks, cursor) ← readBlanks 0 start cursor.rest.length cursor { broken }
        quotedLines quote start fuel cursor (blanks.onto (w ++ s))

def quoted (quote : Char) (cursor : Cursor) : Except SyntaxError (String × Cursor) := do
  let (s, cursor) ← quotedLines quote cursor.mark (cursor.rest.length + 1) cursor.skip []
  .ok (String.ofList s.reverse, cursor)

/-! ## Block scalars -/

inductive Chomping where
  | strip
  | clip
  | keep
  deriving DecidableEq

def blockContext : String := "while scanning a block scalar"

def readIncrement : Except SyntaxError (Nat × Cursor) :=
  match cursor.head? with
  | some c =>
    if c == '0' then cursor.fail blockContext start "found an indentation indicator equal to 0"
    else if c.isDigit then .ok (c.toNat - 48, cursor.skip)
    else .ok (0, cursor)
  | none => .ok (0, cursor)

def readChomping : Chomping × Cursor :=
  if cursor.isAt '+' then (.keep, cursor.skip)
  else if cursor.isAt '-' then (.strip, cursor.skip)
  else (.clip, cursor)

def readIndicators : Except SyntaxError (Chomping × Nat × Cursor) := do
  if cursor.isAt '+' || cursor.isAt '-' then
    let (chomping, cursor) := readChomping cursor
    let (increment, cursor) ← readIncrement start cursor
    .ok (chomping, increment, cursor)
  else
    let (increment, cursor) ← readIncrement start cursor
    if increment = 0 then .ok (.clip, 0, cursor)
    else
      let (chomping, cursor) := readChomping cursor
      .ok (chomping, increment, cursor)

def skipIndent (indent : Nat) (cursor : Cursor) : Cursor :=
  let spaces := (cursor.rest.takeWhile (· = ' ')).length
  cursor.skipMany (if indent = 0 then spaces else min spaces (indent - cursor.mark.column))

structure EmptyLines where
  breaks : List Char := []
  widest : Nat := 0
  stop : Mark
  cursor : Cursor

def readEmptyLines (start : Mark) (indent : Nat) (fuel : Nat) (ls : EmptyLines) :
    Except SyntaxError EmptyLines :=
  match fuel with
  | 0 => .ok ls
  | fuel + 1 =>
    let cursor := skipIndent indent ls.cursor
    let ls := { ls with cursor, widest := max ls.widest cursor.mark.column }
    if (indent = 0 || cursor.mark.column < indent) && cursor.isAt '\t' then
      cursor.fail blockContext start "found a tab character where an indentation space is expected"
    else if cursor.breakAt 0 then
      readEmptyLines start indent fuel
        { ls with
          breaks := cursor.lineBreak ++ ls.breaks
          stop := cursor.skipLine.mark
          cursor := cursor.skipLine }
    else .ok ls

structure Block where
  text : List Char := []
  leading : List Char := []
  trailing : List Char := []
  indented : Bool := false
  stop : Mark
  cursor : Cursor

def Block.joined (folded : Bool) (block : Block) : List Char :=
  let blank := block.cursor.gapAt 0
  let leading :=
    if folded && block.leading.head? == some '\n' && !block.indented && !blank then
      (if block.trailing.isEmpty then [' '] else [])
    else block.leading
  block.trailing.reverse ++ (leading.reverse ++ block.text)

def blockLines (folded : Bool) (start : Mark) (indent : Nat) (fuel : Nat) (block : Block) :
    Except SyntaxError Block :=
  match fuel with
  | 0 => .ok block
  | fuel + 1 =>
    let cursor := block.cursor
    if cursor.mark.column ≠ indent || cursor.atEnd then .ok block
    else do
      let l := cursor.rest.takeWhile fun c => !isBreak c
      let text := l.reverse ++ block.joined folded
      let post := cursor.skipMany l.length
      let ls ← readEmptyLines start indent (post.rest.length + 1)
        { stop := post.skipLine.mark, cursor := post.skipLine }
      blockLines folded start indent fuel
        { text
          leading := post.lineBreak
          trailing := ls.breaks.reverse
          indented := cursor.gapAt 0
          stop := ls.stop
          cursor := ls.cursor }

def block (folded : Bool) (parentIndent : Int) (cursor : Cursor) :
    Except SyntaxError (String × Mark × Cursor) := do
  let start := cursor.mark
  let (chomping, increment, cursor) ← readIndicators start cursor.skip
  let cursor := cursor.skipGaps.skipComment
  if !cursor.lineEnds then
    cursor.fail blockContext start "did not find expected comment or line break"
  else
    let cursor := cursor.skipLine
    let given :=
      if increment = 0 then 0
      else if parentIndent ≥ 0 then parentIndent.toNat + increment
      else increment
    let ls ← readEmptyLines start given (cursor.rest.length + 1) { stop := cursor.mark, cursor }
    let indent := if given = 0 then max (max ls.widest (parentIndent + 1).toNat) 1 else given
    let block ← blockLines folded start indent (cursor.rest.length + 1)
      { trailing := ls.breaks.reverse, stop := ls.stop, cursor := ls.cursor }
    let s := if chomping = .strip then block.text else block.leading.reverse ++ block.text
    let s := if chomping = .keep then block.trailing.reverse ++ s else s
    .ok (String.ofList s.reverse, block.stop, block.cursor)

end Assay.Yaml.Scalar
