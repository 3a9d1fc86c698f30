/-! # Moving through a text -/

namespace Assay.Yaml

/-! ## Tokens -/

/-! ## Positions and syntax errors -/

structure Mark where
  index : Nat := 0
  line : Nat := 0
  column : Nat := 0

namespace Mark

def isStart (mark : Mark) : Bool := mark.line == 0 && mark.column == 0

def samePosition (l r : Mark) : Bool := l.line == r.line && l.column == r.column

def describe (mark : Mark) : String := s!"line {mark.line + 1} column {mark.column + 1}"

def suffix (mark : Mark) : String := if mark.isStart then "" else " at " ++ mark.describe

end Mark

inductive SyntaxError where
  | problem (text : String) (mark : Mark) (context : Option (String × Mark))
  | badCharacter (offset : Nat)

def SyntaxError.message : SyntaxError → String
  | .badCharacter offset =>
    "control characters are not allowed" ++ if offset = 0 then "" else s!" at position {offset}"
  | .problem s mark none => s ++ mark.suffix
  | .problem s mark (some (context, since)) =>
    s ++ mark.suffix ++ ", " ++ context ++ if since.samePosition mark then "" else since.suffix

inductive ScalarStyle where
  | plain
  | singleQuoted
  | doubleQuoted
  | literal
  | folded
  deriving DecidableEq

inductive TokenKind where
  | streamStart
  | streamEnd
  | versionDirective (major minor : Nat)
  | tagDirective (handle lead : String)
  | documentStart
  | documentEnd
  | blockSequenceStart
  | blockMappingStart
  | blockEnd
  | flowSequenceStart
  | flowSequenceEnd
  | flowMappingStart
  | flowMappingEnd
  | blockEntry
  | flowEntry
  | key
  | value
  | alias (name : String)
  | anchor (name : String)
  | tag (handle suffix : String)
  | scalar (text : String) (style : ScalarStyle)
  deriving DecidableEq

structure Token where
  kind : TokenKind
  start : Mark
  stop : Mark

def isBreak (c : Char) : Bool :=
  c = '\n' || c = '\r' || c = '\u0085' || c = '\u2028' || c = '\u2029'

def isGap (c : Char) : Bool := c = ' ' || c = '\t'

def isWordChar (c : Char) : Bool := c.isAlphanum || c = '_' || c = '-'

structure Cursor where
  rest : List Char
  mark : Mark := {}

namespace Cursor

variable (cursor : Cursor) (distance : Nat)

def peek? : Option Char := cursor.rest[distance]?

def head? (cursor : Cursor) : Option Char := cursor.rest.head?

def isAt (c : Char) : Bool := cursor.rest.head? = some c

def atEnd : Bool := cursor.rest.isEmpty

def breakAt : Bool := (cursor.peek? distance).any isBreak

def gapAt : Bool := (cursor.peek? distance).any isGap

def wordEndsAt : Bool :=
  match cursor.peek? distance with
  | some c => isGap c || isBreak c
  | none => true

def lineEnds : Bool :=
  match cursor.rest with
  | c :: _ => isBreak c
  | [] => true

def skip : Cursor :=
  match cursor.rest with
  | [] => cursor
  | c :: rest =>
    { rest, mark :=
        { cursor.mark with
          index := cursor.mark.index + c.utf8Size, column := cursor.mark.column + 1 } }

def skipMany (cursor : Cursor) : Nat → Cursor
  | 0 => cursor
  | k + 1 => cursor.skip.skipMany k

def newLine (taken : Nat) (rest : List Char) : Cursor :=
  { rest
    mark := { index := cursor.mark.index + taken, line := cursor.mark.line + 1, column := 0 } }

def skipLine : Cursor :=
  match cursor.rest with
  | '\r' :: '\n' :: xs => cursor.newLine 2 xs
  | c :: xs => if isBreak c then cursor.newLine c.utf8Size xs else cursor
  | [] => cursor

def lineBreak : List Char :=
  match cursor.rest with
  | c :: _ => if c = '\u2028' || c = '\u2029' then [c] else if isBreak c then ['\n'] else []
  | [] => []

def skipWhile (accepts : Char → Bool) (cursor : Cursor) : Cursor :=
  cursor.skipMany (cursor.rest.takeWhile accepts).length

def readWhile (accepts : Char → Bool) (cursor : Cursor) : String × Cursor :=
  (String.ofList (cursor.rest.takeWhile accepts), cursor.skipWhile accepts)

def skipGaps : Cursor := cursor.skipWhile isGap

def skipComment : Cursor := if cursor.isAt '#' then cursor.skipWhile fun c => !isBreak c else cursor

def atLineOf (c : Char) : Bool :=
  cursor.mark.column == 0 && cursor.rest.take 3 == [c, c, c] && cursor.wordEndsAt 3

def atDocumentMark : Bool := cursor.atLineOf '-' || cursor.atLineOf '.'

def fail {α : Type} (cursor : Cursor) (context : String) (since : Mark) (s : String) :
    Except SyntaxError α :=
  .error (.problem s cursor.mark (some (context, since)))

end Cursor

end Assay.Yaml
