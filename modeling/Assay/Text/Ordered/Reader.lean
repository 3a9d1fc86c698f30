import Assay.Text.Ordered

/-! # Reading ordered patterns -/

namespace Assay.Text.Ordered

inductive Flaw where
  | trailingBackslash | unknownEscape | boundsOutOfOrder | boundTooBig | openSet | rangeOutOfOrder
  | nothingToRepeat | unknownGroup | unknownClass | openGroup | closedGroup | unfixedLength

def Flaw.message : Flaw → String
  | .trailingBackslash => "\\ at end of pattern"
  | .unknownEscape => "unrecognized character follows \\"
  | .boundsOutOfOrder => "numbers out of order in \x7b\x7d quantifier"
  | .boundTooBig => "number too big in \x7b\x7d quantifier"
  | .openSet => "missing terminating ] for character class"
  | .rangeOutOfOrder => "range out of order in character class"
  | .nothingToRepeat => "quantifier does not follow a repeatable item"
  | .unknownGroup => "unrecognized character after (? or (?-"
  | .unknownClass => "unknown POSIX class name"
  | .openGroup => "missing closing parenthesis"
  | .closedGroup => "unmatched closing parenthesis"
  | .unfixedLength => "lookbehind assertion is not fixed length"

structure Reading where
  rest : List Char
  ignoresCase : Bool := false

abbrev Reader := StateT Reading (Except Flaw)

def left : Reader (List Char) := do
  pure (← get).rest

def skipTo (rest : List Char) : Reader Unit := modify ({ · with rest })

def setOf (ranges : List (Char × Char)) (negated : Bool) : CharUnion :=
  { negated, parts := [{ ranges }] }

variable (c : Char)

def kindRanges? : Option (List (Char × Char)) :=
  match c with
  | 'd' => some [('0', '9')]
  | 'w' => some [('0', '9'), ('a', 'z'), ('A', 'Z'), ('_', '_')]
  | 's' => some [('\t', '\r'), (' ', ' ')]
  | 'h' => some [('\t', '\t'), (' ', ' '), ('\u00a0', '\u00a0')]
  | 'v' => some [('\n', '\r'), ('\u0085', '\u0085')]
  | _ => none

def kind? : Option CharUnion :=
  if c.isUpper then (kindRanges? c.toLower).map (setOf · true)
  else (kindRanges? c).map (setOf · false)

def numberOf (base : Nat) (ds : List Char) : Nat :=
  ds.foldl (fun n ch => n * base + (Raw.hexDigit? ch).getD 0) 0

def readCharEscape : Reader Char := do
  match c with
  | 'a' => pure '\x07'
  | 'e' => pure '\x1b'
  | 'f' => pure '\x0c'
  | 'n' => pure '\n'
  | 'r' => pure '\r'
  | 't' => pure '\t'
  | 'x' =>
    let xs ← left
    let ds := (xs.take 2).takeWhile fun ch => (Raw.hexDigit? ch).isSome
    skipTo (xs.drop ds.length)
    pure (Char.ofNat (numberOf 16 ds))
  | _ => if c.isAlphanum then throw .unknownEscape else pure c

/-! ## Sets -/

def readMember : Reader (CharUnion ⊕ Char) := do
  match ← left with
  | '[' :: ':' :: xs =>
    let name := xs.takeWhile Char.isAlpha
    match xs.drop name.length with
    | ':' :: ']' :: post =>
      let ranges := CharSet.classRanges name
      if ranges.isEmpty then throw .unknownClass
      skipTo post
      pure (.inl (setOf ranges false))
    | _ =>
      skipTo (':' :: xs)
      pure (.inr '[')
  | '\\' :: c :: xs =>
    skipTo xs
    match kind? c with
    | some set => pure (.inl set)
    | none => if c = 'b' then pure (.inr '\x08') else .inr <$> readCharEscape c
  | c :: xs =>
    skipTo xs
    pure (.inr c)
  | [] => throw .openSet

def readMembers : Nat → Bool → List CharSet → Reader (List CharSet)
  | 0, _, _ => throw .openSet
  | fuel + 1, isFirst, hit => do
    match ← left, isFirst with
    | ']' :: xs, false =>
      skipTo xs
      pure hit
    | _, _ =>
      match ← readMember with
      | .inl set =>
        let parts := set.parts.map ({ · with negated := set.negated })
        readMembers fuel false (parts ++ hit)
      | .inr low =>
        match ← left with
        | '-' :: ']' :: _ => readMembers fuel false ({ ranges := [(low, low)] } :: hit)
        | '-' :: xs =>
          skipTo xs
          match ← readMember with
          | .inr high =>
            if high < low then throw .rangeOutOfOrder
            readMembers fuel false ({ ranges := [(low, high)] } :: hit)
          | .inl _ => throw .rangeOutOfOrder
        | _ => readMembers fuel false ({ ranges := [(low, low)] } :: hit)

def readSet : Reader CharUnion := do
  let xs ← left
  let negated := xs.head? = some '^'
  if negated then skipTo (xs.drop 1)
  let parts ← readMembers (xs.length + 1) true []
  let parts := if (← get).ignoresCase then parts.map CharSet.ignoringCase else parts
  pure { negated, parts }

/-! ## Repetitions -/

def bounds? (cs : List Char) : Option (Nat × Option Nat × List Char) :=
  match cs with
  | '*' :: xs => some (0, none, xs)
  | '+' :: xs => some (1, none, xs)
  | '?' :: xs => some (0, some 1, xs)
  | '\x7b' :: xs =>
    let ds := xs.takeWhile Char.isDigit
    let least := numberOf 10 ds
    if ds.isEmpty then none
    else
      match xs.drop ds.length with
      | '\x7d' :: xs => some (least, some least, xs)
      | ',' :: xs =>
        let others := xs.takeWhile Char.isDigit
        match xs.drop others.length with
        | '\x7d' :: xs =>
          some (least, if others.isEmpty then none else some (numberOf 10 others), xs)
        | _ => none
      | _ => none
  | _ => none

def readRepeat (x : Ordered) : Reader Ordered := do
  let some (least, most, xs) := bounds? (← left) | pure x
  if max least (most.getD 0) > 65535 then throw .boundTooBig
  if most.any (· < least) then throw .boundsOutOfOrder
  let (isEager, xs) : Bool × List Char := match xs with
    | '?' :: xs => (false, xs)
    | xs => (true, xs)
  skipTo xs
  pure (.many x least most isEager)

/-! ## Items -/

def single (ch : Char) : Reader Ordered := do
  let set : CharSet := { ranges := [(ch, ch)] }
  pure (.oneOf { parts := [if (← get).ignoresCase then set.ignoringCase else set] })

def readEscape : Reader Ordered := do
  match ← left with
  | [] => throw .trailingBackslash
  | c :: xs =>
    skipTo xs
    match kind? c with
    | some set => pure (.oneOf set)
    | none =>
      match c with
      | 'b' => pure (.check .wordEdge)
      | 'B' => pure (.check .noWordEdge)
      | 'A' => pure (.check .textStart)
      | 'Z' => pure (.check .nearEnd)
      | 'z' => pure (.check .textEnd)
      | 'K' => pure .start
      | 'N' => pure (.oneOf (setOf [('\n', '\n')] true))
      | _ => single (← readCharEscape c)

def width? : Ordered → Option Nat
  | .empty | .check _ | .start | .ahead _ _ | .back _ => some 0
  | .oneOf _ => some 1
  | .seq x y => do pure ((← x.width?) + (← y.width?))
  | .either x y => do
    let w ← x.width?
    if (← y.width?) = w then some w else none
  | .many body least most _ => do
    let w ← body.width?
    if most = some least then some (least * w) else none

def behind : Ordered → Option Ordered
  | .either x y => do pure (.either (← x.behind) (← y.behind))
  | oth => do pure (.seq (.back (← oth.width?)) oth)

variable (inner : Reader Ordered)

def readInner : Reader Ordered := do
  let body ← inner
  match ← left with
  | ')' :: xs => skipTo xs
  | _ => throw .openGroup
  pure body

def readGroup : Reader Ordered := do
  let lookingBack (wanted : Bool) (xs : List Char) : Reader Ordered := do
    skipTo xs
    let some body := (← readInner inner).behind | throw .unfixedLength
    pure (.ahead wanted body)
  match ← left with
  | '?' :: ':' :: xs => skipTo xs; readInner inner
  | '?' :: '=' :: xs => skipTo xs; .ahead true <$> readInner inner
  | '?' :: '!' :: xs => skipTo xs; .ahead false <$> readInner inner
  | '?' :: '<' :: '=' :: xs => lookingBack true xs
  | '?' :: '<' :: '!' :: xs => lookingBack false xs
  | '?' :: _ => throw .unknownGroup
  | _ => readInner inner

def readItem : Reader (Ordered × Bool) := do
  match ← left with
  | '(' :: xs => skipTo xs; pure (← readGroup inner, true)
  | '[' :: xs => skipTo xs; pure (.oneOf (← readSet), true)
  | '.' :: xs => skipTo xs; pure (.oneOf (setOf [('\n', '\n')] true), true)
  | '^' :: xs => skipTo xs; pure (.check .textStart, false)
  | '$' :: xs => skipTo xs; pure (.check .textEnd, false)
  | '\\' :: xs =>
    skipTo xs
    let x ← readEscape
    pure (x, match x with
      | .check _ | .start => false
      | _ => true)
  | ch :: xs =>
    if (bounds? (ch :: xs)).isSome then throw .nothingToRepeat
    skipTo xs
    pure (← single ch, true)
  | [] => pure (.empty, false)

def readItems (inner : Reader Ordered) : Nat → Reader Ordered
  | 0 => pure .empty
  | fuel + 1 => do
    match ← left with
    | [] | '|' :: _ | ')' :: _ => pure .empty
    | _ =>
      let (x, canRepeat) ← readItem inner
      if !canRepeat && (bounds? (← left)).isSome then throw .nothingToRepeat
      let x ← readRepeat x
      let xs ← readItems inner fuel
      pure (match xs with
        | .empty => x
        | xs => .seq x xs)

def readChoices (inner : Reader Ordered) : Nat → Reader Ordered
  | 0 => pure .empty
  | fuel + 1 => do
    let x ← readItems inner ((← left).length + 1)
    match ← left with
    | '|' :: xs =>
      skipTo xs
      pure (.either x (← readChoices inner fuel))
    | _ => pure x

def readNested : Nat → Reader Ordered
  | 0 => throw .openGroup
  | d + 1 => do readChoices (readNested d) ((← left).length + 1)

def read (ignoresCase : Bool) (cs : List Char) : Except Flaw Ordered := do
  let (pat, rd) ← (readNested (cs.length + 1)).run { rest := cs, ignoresCase }
  match rd.rest with
  | ')' :: _ => throw .closedGroup
  | _ => pure pat

end Assay.Text.Ordered
