/-!
# The screen

Where a report is written. A report is a list of spans, some of them styled. A
coloured screen writes codes around the text of a styled span, each in a write
of its own. A screen may have room for a limited number of bytes only: a write
for which there is no room fails, and nothing is written after it.
-/

namespace Assay

inductive Color where
  | red
  | green
  | cyan
  deriving DecidableEq, Repr

def Color.digit : Color → String
  | .red => "1"
  | .green => "2"
  | .cyan => "6"

structure Style where
  color : Color
  bold : Bool := false
  deriving DecidableEq, Repr

structure Span where
  text : String
  style : Option Style := none
  deriving DecidableEq, Repr

/-- What is written at once: a text, or a code that begins or ends a style. -/
structure Piece where
  text : String
  isCode : Bool := false
  deriving DecidableEq, Repr

namespace Span

def reset : Piece :=
  { text := "\x1b[0m", isCode := true }

def opening (style : Style) : List Piece :=
  [reset] ++ (if style.bold then [{ text := "\x1b[1m", isCode := true }] else [])
    ++ [{ text := "\x1b[3" ++ style.color.digit ++ "m", isCode := true }]

/-- What is written for a span, piece by piece. -/
def pieces (colored : Bool) (span : Span) : List Piece :=
  match span.style with
  | some style =>
    if colored then opening style ++ [{ text := span.text }, reset] else [{ text := span.text }]
  | none => [{ text := span.text }]

end Span

structure WriteFault where
  message : String
  deriving DecidableEq, Repr

/-- Room for some bytes, and the fault of a write that goes beyond it. -/
structure Limit where
  bytes : Nat
  fault : WriteFault
  /-- Codes take room as texts do, but are also written where there is none. -/
  textOnly : Bool := false
  deriving DecidableEq, Repr

structure Screen where
  colored : Bool := false
  limit : Option Limit := none
  written : List String := []
  deriving DecidableEq, Repr

abbrev Writing := EStateM WriteFault Screen

def Limit.refuses (limit : Limit) (size : Nat) (piece : Piece) : Bool :=
  limit.bytes < size + piece.text.utf8ByteSize && !(limit.textOnly && piece.isCode)

namespace Screen

def text (screen : Screen) : String :=
  String.join screen.written.reverse

def refusal? (screen : Screen) (piece : Piece) : Option WriteFault :=
  match screen.limit with
  | some limit =>
    if limit.refuses screen.text.utf8ByteSize piece then some limit.fault else none
  | none => none

def put (piece : Piece) : Writing Unit := do
  let screen ← get
  match screen.refusal? piece with
  | some fault => throw fault
  | none => set { screen with written := piece.text :: screen.written }

def putAll (pieces : List Piece) : Writing Unit :=
  forM pieces put

def writeSpan (span : Span) : Writing Unit := do
  putAll (span.pieces (← get).colored)

def write (spans : List Span) : Writing Unit :=
  forM spans writeSpan

end Screen

end Assay
