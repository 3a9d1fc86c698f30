import Assay.Text.Pattern
import Assay.Tool.Basic

/-! # Exchanging characters -/

namespace Assay.Tool

namespace Exchange

/-! ## Escapes -/

abbrev Marked := Char × Bool

def letterEscape (c : Char) : Char :=
  ([('n', '\n'), ('t', '\t'), ('r', '\r'), ('a', '\x07'), ('b', '\x08'), ('f', '\x0c'),
    ('v', '\x0b')].lookup c).getD c

def octalEscape (ds : List Nat) : Nat × Nat :=
  match ds with
  | [] => (0, 0)
  | [x] => (x, 1)
  | [x, y] => (8 * x + y, 2)
  | x :: y :: third :: _ =>
    let code := 64 * x + 8 * y + third
    if code < 256 then (code, 3) else (8 * x + y, 2)

def unescape : Nat → Raw → List Raw × List Marked
  | 0, _ => ([], [])
  | _, [] => ([], [])
  | _, ['\\'] =>
    (["warning: an unescaped backslash at end of string is not portable"], [('\\', false)])
  | fuel + 1, '\\' :: c :: xs =>
    if (Raw.octalDigit? c).isSome then
      let ds := ((c :: xs).take 3).map Raw.octalDigit?
      let ds := (ds.takeWhile Option.isSome).filterMap id
      let (code, len) := octalEscape ds
      let warning : List Raw :=
        if len < ds.length then
          ["warning: the ambiguous octal escape \\" ++ (c :: xs).take 3
            ++ " is being\n\tinterpreted as the 2-byte sequence \\0"
            ++ (c :: xs).take 2 ++ ", " ++ (xs.drop 1).take 1]
        else []
      let (warnings, ms) := unescape fuel ((c :: xs).drop len)
      (warning ++ warnings, (Char.ofNat code, true) :: ms)
    else
      let (warnings, ms) := unescape fuel xs
      (warnings, (letterEscape c, true) :: ms)
  | fuel + 1, c :: xs =>
    let (warnings, ms) := unescape fuel xs
    (warnings, (c, false) :: ms)

/-! ## Sets -/

inductive Piece where
  | single (c : Char)
  | range (low high : Char)
  | named (name : String)
  | same (c : Char)
  | filling (c : Char) (k : Option Nat)
  deriving DecidableEq

def allChars : List Char := (List.range 256).map Char.ofNat

namespace Piece

def classChars (name : String) : List Char :=
  let ranges := Text.CharSet.classRanges name.toList
  allChars.filter fun c => ranges.any fun range => range.1 ≤ c && c ≤ range.2

def chars : Piece → List Char
  | .single c => [c]
  | .range low high =>
    (List.range (high.toNat + 1 - low.toNat)).map fun step => Char.ofNat (low.toNat + step)
  | .named name => classChars name
  | .same c => [c]
  | .filling c k => List.replicate (k.getD 0) c

def isCase (p : Piece) : Bool := p = .named "upper" || p = .named "lower"

def isNamed : Piece → Bool
  | .named _ => true
  | _ => false

def isFilling : Piece → Bool
  | .filling _ none => true
  | _ => false

def last? : Piece → Option Char
  | .single c => some c
  | .range _ high => some high
  | .filling c _ => some c
  | .named _ | .same _ => none

end Piece

def upToClosing (mark : Char) (read : List Char) : List Marked → Option (List Char × List Marked)
  | (c, isMarked) :: (next, nextMarked) :: xs =>
    if c = mark && !isMarked && next = ']' && !nextMarked then some (read.reverse, xs)
    else upToClosing mark (c :: read) ((next, nextMarked) :: xs)
  | _ => none

def isRepeatCount : List Marked → Bool
  | ('*', false) :: xs => (xs.dropWhile (·.1.isDigit)).head? = some (']', false)
  | _ => false

def filling? (cs : List Marked) : Except Raw (Option (Piece × List Marked)) :=
  match cs with
  | (c, _) :: ('*', false) :: xs =>
    let inside := xs.takeWhile fun (c, isMarked) => !isMarked && c ≠ ']'
    let ds := inside.map (·.1)
    match xs.drop inside.length with
    | (']', false) :: xs =>
      if ds.isEmpty then .ok (some (.filling c none, xs))
      else
        let isOctal := ds.head? = some '0'
        let fits (d : Char) : Bool := d.isDigit && (!isOctal || d < '8')
        if ds.all fits then
          let k := ds.foldl (fun k d => k * (if isOctal then 8 else 10) + (d.toNat - 48)) 0
          .ok (some (.filling c (if k = 0 then none else some k), xs))
        else .error ("invalid repeat count " ++ cite ds ++ " in [c*n] construct")
    | _ => .ok none
  | _ => .ok none

def bracketed? (cs : List Marked) : Except Raw (Option (Piece × List Marked)) :=
  match cs with
  | (mark, false) :: xs =>
    if mark = ':' || mark = '=' then
      match upToClosing mark [] xs with
      | none => filling? cs
      | some (name, post) =>
        let isClass := mark = ':'
        if name.isEmpty then
          .error (if isClass then "missing character class name '[::]'"
            else "missing equivalence class character '[==]'").toList
        else if isClass && !(Text.CharSet.classRanges name).isEmpty then
          .ok (some (.named (String.ofList name), post))
        else if !isClass && name.length = 1 then .ok (some (.same (name.headD ' '), post))
        else if isRepeatCount xs then filling? cs
        else if isClass then .error ("invalid character class " ++ cite name)
        else .error (name ++ ": equivalence class operand must be a single character")
    else filling? cs
  | _ => filling? cs

def shown (c : Char) : Raw :=
  if isHiddenOctet c then
    let ds := Nat.toDigits 8 c.toNat
    '\\' :: (List.replicate (3 - ds.length) '0' ++ ds)
  else [c]

def pieces : Nat → List Marked → Except Raw (List Piece)
  | 0, _ => .ok []
  | fuel + 1, cs => do
    if cs.length < 3 then return cs.map fun (c, _) => .single c
    match cs with
    | (c, isMarked) :: xs =>
      let inBrackets ← if c = '[' && !isMarked then bracketed? xs else .ok none
      match inBrackets, xs with
      | some (p, post), _ => return p :: (← pieces fuel post)
      | none, ('-', false) :: (high, _) :: post =>
        if high < c then
          .error ("range-endpoints of '" ++ shown c ++ "-" ++ shown high
            ++ "' are in reverse collating sequence order")
        else return .range c high :: (← pieces fuel post)
      | none, _ => return .single c :: (← pieces fuel xs)
    | [] => return []

/-! ## Matching two sets -/

inductive Change where
  | one (src t : Char)
  | toUpper | toLower

structure Element where
  chars : List Char
  case : Option String := none
  begun : Bool := false

def elements (ps : List Piece) : List Element :=
  (ps.map fun p => match p with
    | .named name => { chars := p.chars, case := if p.isCase then some name else none }
    | p => ({ chars := p.chars } : Element)).filter fun x => !x.chars.isEmpty

def Element.advance : List Element → List Element
  | { chars := _ :: next :: xs, .. } :: elements =>
    { chars := next :: xs, begun := true } :: elements
  | _ :: elements => elements
  | [] => []

def align : Nat → List Element → List Element → Option (List Change × Nat)
  | 0, _, _ => some ([], 0)
  | _, _, [] => some ([], 0)
  | fuel + 1, sources, t :: targets =>
    let isNew (x : Element) : Bool := x.case.isSome && !x.begun
    if isNew t then
      match sources with
      | src :: sources =>
        if !isNew src then none
        else do
          let (changes, k) ← align fuel sources targets
          let change := match src.case, t.case with
            | some "lower", some "upper" => [Change.toUpper]
            | some "upper", some "lower" => [.toLower]
            | _, _ => []
          some (change ++ changes, k + 1)
      | [] => none
    else
      match sources with
      | src :: _ => do
        let (changes, k) ← align fuel (Element.advance sources) (Element.advance (t :: targets))
        some (.one (src.chars.headD ' ') (t.chars.headD ' ') :: changes, k)
      | [] => some ([], 0)

def letterCount : Nat := 26

def size (ps : List Piece) : Nat := ps.foldl (fun size p => size + p.chars.length) 0

def filled (wanted : Nat) (ps : List Piece) : List Piece :=
  ps.map fun p => match p with
    | .filling c none => .filling c (some (wanted - size ps))
    | p => p

def changes (complement truncates : Bool) (x y : List Piece) :
    Except Raw (List Change) := do
  let ms := x.flatMap Piece.chars
  let others := allChars.filter fun c => !ms.contains c
  let len := if complement then others.length else ms.length
  if x.any Piece.isFilling then .error "the [c*] repeat construct may not appear in string1"
  if (y.filter Piece.isFilling).length > 1 then
    .error "only one [c*] repeat construct may appear in string2"
  if y.any fun p => match p with | .same _ => true | _ => false then
    .error "[=c=] expressions may not appear in string2 when translating"
  if y.any fun p => p.isNamed && !p.isCase then
    .error ("when translating, the only character classes that may appear in\n"
      ++ "string2 are 'upper' and 'lower'")
  let y := filled len y
  let sources := if complement then others.map fun c => ({ chars := [c] } : Element)
    else elements x
  let fuel := len + size y + 2
  let hasClass := y.any Piece.isNamed
  let qs ← if complement || !hasClass then .ok 0
    else
      match align fuel sources (elements y) with
      | some (_, k) => .ok k
      | none => .error "misaligned [:upper:] and/or [:lower:] construct"
  let len := len - qs * (letterCount - 1)
  let available := size y - qs * (letterCount - 1)
  let y ← if len > available && !truncates then
      if available = 0 then .error "when not truncating set1, string2 must be non-empty"
      else
        match y.getLast?.bind Piece.last? with
        | some c => .ok (y ++ [.filling c (some (len - available))])
        | none =>
          .error ("when translating with string1 longer than string2,\n"
            ++ "the latter string must not end with a character class")
    else .ok y
  let targets := y.flatMap Piece.chars
  if complement && x.any Piece.isNamed
      && !(targets.length = len && targets.all (some · = targets.head?)) then
    .error ("when translating with complemented character classes,\n"
      ++ "string2 must map all characters in the domain to one")
  let targets := if complement then targets.map fun c => ({ chars := [c] } : Element)
    else elements y
  .ok (((align (len * letterCount + fuel) sources targets).map (·.1)).getD [])

def table (changes : List Change) : Array Char :=
  let change (table : Array Char) (change : Change) : Array Char :=
    match change with
    | .one src t => table.setIfInBounds src.toNat t
    | .toUpper => (Piece.classChars "lower").foldl (fun (table : Array Char) c =>
        table.setIfInBounds c.toNat c.toUpper) table
    | .toLower => (Piece.classChars "upper").foldl (fun (table : Array Char) c =>
        table.setIfInBounds c.toNat c.toLower) table
  changes.foldl change allChars.toArray

def membership (cs : List Char) : Char → Bool :=
  let table := cs.foldl (fun (table : Array Bool) c => table.setIfInBounds c.toNat true)
    (Array.replicate 256 false)
  fun c => table[c.toNat]?.getD false

def squeeze (isMember : Char → Bool) (last : Option Char) (read : Raw) : Raw → Raw × Option Char
  | [] => (read.reverse, last)
  | c :: xs =>
    if last = some c && isMember c then squeeze isMember last read xs
    else squeeze isMember (some c) (c :: read) xs

def run (change : Raw → Raw) (squeezed : Option (Char → Bool)) : Act Nat := do
  let some i := (← read).job.stream? 0 | abort 1 "read error: Bad file descriptor"
  let _ ← foldBlocks i Run.blockSize (fun last bs => do
    let cs := change (Raw.ofBytes bs)
    let some isMember := squeezed | emit cs; pure (.more last)
    let (cs, last) := squeeze isMember last [] cs
    emit cs
    pure (.more last)) Run.maxReads (none : Option Char)
  pure 0

end Exchange

open Exchange in
def tr (args : List Raw) : Act Nat := do
  let flags ← flagsOr 1
    { plain := "AcCdst"
      long := "complement=c delete=d squeeze-repeats=s truncate-set1=t"
      mixed := false } args
  let usage (s : Raw) (note : Option String) : Act Nat := do
    complain s
    if let some note := note then report (note.toList ++ ['\n'])
    pointToHelp
    throw (.exited 1)
  let deletes := flags.has 'd'
  let squeezes := flags.has 's'
  let complement := flags.has 'c' || flags.has 'C'
  let piecesOf (s : Raw) : Act (List Exchange.Piece) := do
    let (warnings, marked) := Exchange.unescape (s.length + 1) s
    for warning in warnings do
      complain warning
    match pieces (marked.length + 1) marked with
    | .ok pieces => pure pieces
    | .error msg => abort 1 msg
  let setOf (pieces : List Exchange.Piece) : Char → Bool :=
    let isMember := membership (pieces.flatMap (·.chars))
    fun c => isMember c != complement
  match flags.operands with
  | [] => usage "missing operand" none
  | [only] =>
    if deletes && squeezes then
      usage ("missing operand after " ++ cite only)
        (some "Two strings must be given when both deleting and squeezing repeats.")
    else if !deletes && !squeezes then
      usage ("missing operand after " ++ cite only)
        (some "Two strings must be given when translating.")
    else
      let x ← piecesOf only
      if x.any (·.isFilling) then abort 1 "the [c*] repeat construct may not appear in string1"
      let isMember := setOf x
      if deletes then run (fun chars => chars.filter fun c => !isMember c) none
      else run (fun chars => chars) (some isMember)
  | [x, y] =>
    if deletes && !squeezes then
      usage ("extra operand " ++ cite y)
        (some "Only one string may be given when deleting without squeezing repeats.")
    else
      let x ← piecesOf x
      let y ← piecesOf y
      if deletes then
        if x.any (·.isFilling) then abort 1 "the [c*] repeat construct may not appear in string1"
        if (y.filter (·.isFilling)).length > 1 then
          abort 1 "only one [c*] repeat construct may appear in string2"
        if y.any (·.isFilling) then
          abort 1 "the [c*] construct may appear in string2 only when translating"
        let isMember := setOf x
        run (fun chars => chars.filter fun c => !isMember c)
          (some (membership (y.flatMap (·.chars))))
      else
        match changes complement (flags.has 't') x y with
        | .error msg => abort 1 msg
        | .ok changes =>
          let table := table changes
          let members := x.flatMap (·.chars)
          let isMember := membership members
          let length := if complement then (allChars.filter fun c => !isMember c).length
            else members.length
          let squeezed := membership ((filled length y).flatMap (·.chars))
          run (fun chars => chars.map fun c => table[c.toNat]?.getD c)
            (if squeezes then some squeezed else none)
  | _ :: _ :: third :: _ => usage ("extra operand " ++ cite third) none

end Assay.Tool
