import Assay.Text.Utf8
import Assay.Yaml.Cursor

/-! # Reading anchors, tags and directives -/

namespace Assay.Yaml.Property

/-! ## Anchors and aliases -/

def endsAnchor (cur : Cursor) : Bool :=
  cur.wordEndsAt 0 || cur.head?.any fun c => "?:,]\x7d%@\x60".toList.contains c

def anchorName (context : String) (cur : Cursor) : Except SyntaxError (String × Cursor) :=
  let start := cur.mark
  let (name, cur) := cur.skip.readWhile isWordChar
  if name.isEmpty || !endsAnchor cur then
    cur.fail context start "did not find expected alphabetic or numeric character"
  else .ok (name, cur)

/-! ## Tags -/

def octetDigit? (c : Char) : Option Nat :=
  if c.isDigit then some (c.toNat - 48)
  else if 'a' ≤ c ∧ c ≤ 'f' then some (c.toNat - 87)
  else if 'A' ≤ c ∧ c ≤ 'F' then some (c.toNat - 55)
  else none

def octet? (cur : Cursor) : Option UInt8 := do
  let '%' ← cur.peek? 0 | none
  let high ← octetDigit? (← cur.peek? 1)
  let low ← octetDigit? (← cur.peek? 2)
  return UInt8.ofNat (high * 16 + low)

def octetWidth? (b : UInt8) : Option Nat :=
  if b < 0x80 then some 1
  else if 0xC0 ≤ b ∧ b ≤ 0xDF then some 2
  else if 0xE0 ≤ b ∧ b ≤ 0xEF then some 3
  else if 0xF0 ≤ b ∧ b ≤ 0xF7 then some 4
  else none

def readTrailing (context : String) (start : Mark) : Nat → Cursor → Text.Bytes →
    Except SyntaxError (Text.Bytes × Cursor)
  | 0, cur, bs => .ok (bs, cur)
  | k + 1, cur, bs =>
    match octet? cur with
    | none => cur.fail context start "did not find URI escaped octet"
    | some b =>
      if 0x80 ≤ b ∧ b ≤ 0xBF then readTrailing context start k (cur.skipMany 3) (b :: bs)
      else cur.fail context start "found an incorrect trailing UTF-8 octet"

def readOctets (context : String) (start : Mark) (cur : Cursor) :
    Except SyntaxError (List Char × Cursor) := do
  match octet? cur with
  | none => cur.fail context start "did not find URI escaped octet"
  | some b =>
    match octetWidth? b with
    | none => cur.fail context start "found an incorrect leading UTF-8 octet"
    | some w =>
      let (bs, cur) ← readTrailing context start (w - 1) (cur.skipMany 3) [b]
      .ok ((Text.decodeLossy bs.reverse).toList, cur)

def isSuffixChar (wide : Bool) (c : Char) : Bool :=
  isWordChar c || ";/?:@&=+$.%!~*'()".toList.contains c || (wide && ",[]".toList.contains c)

def suffixChars (wide : Bool) (context : String) (start : Mark) (fuel : Nat) (cur : Cursor)
    (cs : List Char) : Except SyntaxError (List Char × Cursor) :=
  match fuel with
  | 0 => .ok (cs, cur)
  | fuel + 1 =>
    match cur.rest with
    | [] => .ok (cs, cur)
    | c :: _ =>
      if !isSuffixChar wide c then .ok (cs, cur)
      else if c == '%' then do
        let (read, cur) ← readOctets context start cur
        suffixChars wide context start fuel cur (read.reverse ++ cs)
      else suffixChars wide context start fuel cur.skip (c :: cs)

def readSuffix (wide directive : Bool) (head : String) (start : Mark) (cur : Cursor) :
    Except SyntaxError (String × Cursor) := do
  let context := if directive then "while parsing a %TAG directive" else "while parsing a tag"
  let (cs, post) ← suffixChars wide context start (cur.rest.length + 1) cur []
  if cs.isEmpty && head.isEmpty then post.fail context start "did not find expected tag URI"
  else .ok (String.ofList (head.toList.drop 1 ++ cs.reverse), post)

def readHandle (directive : Bool) (start : Mark) (cur : Cursor) :
    Except SyntaxError (String × Cursor) :=
  if !cur.isAt '!' then
    cur.fail (if directive then "while scanning a tag directive" else "while scanning a tag")
      start "did not find expected '!'"
  else
    let (w, cur) := cur.skip.readWhile isWordChar
    if cur.isAt '!' then .ok ("!" ++ w ++ "!", cur.skip)
    else if directive && !w.isEmpty then
      cur.fail "while parsing a tag directive" start "did not find expected '!'"
    else .ok ("!" ++ w, cur)

def endsAtOnce (s : String) : Bool := s.toList.head?.all (· = '\x00')

def tagParts (start : Mark) (cur : Cursor) : Except SyntaxError (String × String × Cursor) := do
  if cur.peek? 1 = some '<' then
    let (suffix, cur) ← readSuffix true false "" start (cur.skipMany 2)
    if cur.isAt '>' then .ok ("", suffix, cur.skip)
    else cur.fail "while scanning a tag" start "did not find the expected '>'"
  else
    let (handle, cur) ← readHandle false start cur
    if handle.length > 1 && handle.endsWith "!" then
      let (suffix, cur) ← readSuffix false false "" start cur
      .ok (handle, suffix, cur)
    else
      let (suffix, cur) ← readSuffix false false handle start cur
      .ok (if endsAtOnce suffix then ("", "!", cur) else ("!", suffix, cur))

def tag (flow : Bool) (cur : Cursor) : Except SyntaxError (TokenKind × Cursor) := do
  let start := cur.mark
  let (handle, suffix, cur) ← tagParts start cur
  if cur.wordEndsAt 0 || (flow && cur.isAt ',') then .ok (.tag handle suffix, cur)
  else cur.fail "while scanning a tag" start "did not find expected whitespace or line break"

/-! ## Directives -/

def maxVersionDigits : Nat := 9

def versionNumber (start : Mark) (cur : Cursor) : Except SyntaxError (Nat × Cursor) :=
  let context := "while scanning a %YAML directive"
  let ds := cur.rest.takeWhile Char.isDigit
  if ds.isEmpty then cur.fail context start "did not find expected version number"
  else if ds.length > maxVersionDigits then
    (cur.skipMany maxVersionDigits).fail context start "found extremely long version number"
  else
    .ok (ds.foldl (fun v d => v * 10 + (d.toNat - 48)) 0, cur.skipMany ds.length)

def versionDirective (start : Mark) (cur : Cursor) :
    Except SyntaxError (TokenKind × Cursor) := do
  let (major, cur) ← versionNumber start cur.skipGaps
  if !cur.isAt '.' then
    cur.fail "while scanning a %YAML directive" start "did not find expected digit or '.' character"
  else
    let (minor, cur) ← versionNumber start cur.skip
    .ok (.versionDirective major minor, cur)

def tagDirective (start : Mark) (cur : Cursor) : Except SyntaxError (TokenKind × Cursor) := do
  let context := "while scanning a %TAG directive"
  let (handle, cur) ← readHandle true start cur.skipGaps
  if !cur.gapAt 0 then cur.fail context start "did not find expected whitespace"
  else
    let (lead, cur) ← readSuffix true true "" start cur.skipGaps
    if cur.wordEndsAt 0 then .ok (.tagDirective handle lead, cur)
    else cur.fail context start "did not find expected whitespace or line break"

def directive (cur : Cursor) : Except SyntaxError (TokenKind × Mark × Cursor) := do
  let context := "while scanning a directive"
  let start := cur.mark
  let (name, cur) := cur.skip.readWhile isWordChar
  if name.isEmpty then cur.fail context start "could not find expected directive name"
  else if !cur.wordEndsAt 0 then
    cur.fail context start "found unexpected non-alphabetical character"
  else
    let (kind, cur) ←
      if name = "YAML" then versionDirective start cur
      else if name = "TAG" then tagDirective start cur
      else cur.fail context start "found unknown directive name"
    let post := cur.skipGaps.skipComment
    if post.lineEnds then .ok (kind, cur.mark, post.skipLine)
    else post.fail context start "did not find expected comment or line break"

end Assay.Yaml.Property
