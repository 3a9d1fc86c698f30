import Assay.Text.Locale

/-! # Names in output -/

namespace Assay.Tool

/-! ## Characters -/

def controlEscape (c : Char) : Raw :=
  match c with
  | '\x07' => "\\a"
  | '\x08' => "\\b"
  | '\t' => "\\t"
  | '\n' => "\\n"
  | '\x0b' => "\\v"
  | '\x0c' => "\\f"
  | '\r' => "\\r"
  | _ => (Raw.narrowChar c).flatMap Text.octalEscape

def isControl (c : Char) : Bool :=
  c < ' ' || c = '\x7f' || (c ≥ '\x80' && (Raw.isStray c || !Text.isShown c))

def isHiddenOctet (b : Char) : Bool := b < ' ' || b ≥ '\x7f'

def octetEscape (b : Char) : Raw := if b ≥ '\x80' then Text.octalEscape b else controlEscape b

/-! ## Styles -/

inductive NameStyle where
  | literal | shell | shellAlways | shellEscape | shellEscapeAlways | double | escape | locale
  | doubleLocale
  deriving DecidableEq

namespace NameStyle

def isSpecial (c : Char) : Bool := " !\"$&()*;<=>[^`|'?\\".contains c

def needsQuotes (hasEscapes : Bool) (extra name : List Char) : Bool :=
  name.isEmpty || name = ['\x7b'] || name = ['\x7d']
    || name.head?.any (fun c => c = '#' || c = '~')
    || name.any fun c =>
      isSpecial c || extra.contains c
        || (if hasEscapes then isControl c else c = '\n' || c = '\t' || c = '\r')

def isPlain : List Char → Bool
  | [] => true
  | c :: xs => (c = '#' || c = '~' || isFine c) && xs.all isFine
where
  isFine (c : Char) : Bool :=
    c.isAlphanum || " '%+,-./:@]_".contains c || (c ≥ '\x80' && !isControl c)

def singleQuoted (hasEscapes isInside : Bool) : List Char → List Char
  | [] => if isInside then "'" else []
  | c :: xs =>
    if c = '\'' then "'\\''" ++ singleQuoted hasEscapes false xs
    else if hasEscapes && isControl c then
      (if isInside then [] else "'$'") ++ controlEscape c ++ singleQuoted hasEscapes true xs
    else (if isInside then "''".toList else []) ++ c :: singleQuoted hasEscapes false xs

def shellQuoted (hasEscapes : Bool) (name : List Char) : List Char :=
  if name.contains '\'' && isPlain name then '"' :: (name ++ "\"")
  else
    let endsInEscape := hasEscapes && name.getLast?.any isControl
    let body := singleQuoted hasEscapes (endsInEscape && name.contains '\'') name
    '\'' :: (if endsInEscape then body else body ++ "'")

def escaped (closing : Option Char) (extra : List Char) (name : List Char) : List Char :=
  name.flatMap fun c =>
    if isControl c then controlEscape c
    else if c = '\\' || some c = closing || extra.contains c then ['\\', c]
    else [c]

def write (style : NameStyle) (loc : Text.Locale) (extra : List Char) (name : Raw) : Raw :=
  let cs := match loc with
    | .utf8 => name.wide
    | .plain => name.map fun b => if b ≥ '\x80' then Raw.stray b else b
  let marks : Char × Char := match loc with
    | .utf8 => (Text.openMark, Text.closeMark)
    | .plain => if style = .doubleLocale then ('"', '"') else ('\'', '\'')
  Raw.narrow <|
    match style with
    | .literal => cs
    | .shell => if needsQuotes false extra cs then shellQuoted false cs else cs
    | .shellAlways => shellQuoted false cs
    | .shellEscape => if needsQuotes true extra cs then shellQuoted true cs else cs
    | .shellEscapeAlways => shellQuoted true cs
    | .double => '"' :: (escaped (some '"') extra cs ++ "\"")
    | .escape => escaped none extra cs
    | .locale | .doubleLocale => marks.1 :: (escaped (some marks.2) extra cs ++ [marks.2])

end NameStyle

/-! ## Names in messages -/

def quoteMark : Char := Char.ofNat 0xF0000

def nameMark : Char := Char.ofNat 0xF0001

def endMark : Char := Char.ofNat 0xF0002

def quote (name : Raw) : Raw := quoteMark :: (name ++ [endMark])

def nameText (name : Raw) : Raw := nameMark :: (name ++ [endMark])

def cite (s : Raw) : Raw :=
  let c (c : Char) : Raw :=
    if c ≥ '\x80' then [Text.heldOctet c]
    else if isControl c then controlEscape c
    else if c = '\'' then [Text.apostropheMark]
    else if c = '\\' then ['\\', c]
    else [c]
  Text.openMark :: (s.flatMap c ++ [Text.closeMark])

/-- A message that is being written: the pieces that are done, the last one first, the mark of a
name that has begun, and the characters since then, the last one first. -/
structure MessageDraft where
  done : List Raw := []
  mark : Option Char := none
  held : Raw := []

namespace MessageDraft

def add (loc : Text.Locale) (draft : MessageDraft) (c : Char) : MessageDraft :=
  if c = quoteMark || c = nameMark then
    { done := loc.resolve draft.held.reverse :: draft.done, mark := some c }
  else if c = endMark then
    let name := draft.held.reverse
    let s := if draft.mark = some nameMark then NameStyle.shellEscape.write loc ":" name
      else NameStyle.shellEscapeAlways.write loc [] name
    { done := s :: draft.done }
  else { draft with held := c :: draft.held }

end MessageDraft

def messageText (loc : Text.Locale) (msg : Raw) : Raw :=
  if msg.all (· < 'Ā') then msg
  else
    let draft := msg.foldl (MessageDraft.add loc) {}
    (loc.resolve draft.held.reverse :: draft.done).reverse.flatten

end Assay.Tool
