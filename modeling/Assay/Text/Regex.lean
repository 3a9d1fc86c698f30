import Assay.Text.Pattern

/-! # Regular expressions -/

namespace Assay.Text

inductive Check where
  | textStart | textEnd | start | finish | lineStart | lineEnd | wordStart | wordEnd | wordEdge
  | noWordEdge

inductive Regex where
  | empty
  | oneOf (set : CharSet)
  | check (check : Check)
  | seq (x y : Regex)
  | either (l r : Regex)
  | many (body : Regex) (least : Nat) (most : Option Nat)
  | group (number : Nat) (body : Regex)
  | again (number : Nat)

namespace Regex

inductive Dialect where
  | basic | strict | extended | relaxed | uncounted
  /-- Basic without counted repetitions, where the other signs that repeat stand without
  backslashes. -/
  | grouped
  deriving DecidableEq

def Dialect.isBasic (dialect : Dialect) : Bool :=
  dialect = .basic || dialect = .strict || dialect = .grouped

structure Progress where
  offset : Nat
  rest : Raw
  groups : List (Nat × Nat × Nat) := []

end Regex

def isWordChar (c : Char) : Bool := c = '_' || CharClass.alnum.contains c

def Check.holds (asked : Check) (cs : Raw) (pt : Regex.Progress) : Bool :=
  let pre := if pt.offset = 0 then none else cs[pt.offset - 1]?
  let wasWord := pre.any isWordChar
  let isWord := pt.rest.head?.any isWordChar
  match asked with
  | .textStart | .start => pt.offset = 0
  | .textEnd | .finish => pt.rest.isEmpty
  | .lineStart => pt.offset = 0 || pre = some '\n'
  | .lineEnd => pt.rest.isEmpty || pt.rest.head? = some '\n'
  | .wordStart => !wasWord && isWord
  | .wordEnd => wasWord && !isWord
  | .wordEdge => wasWord != isWord
  | .noWordEdge => wasWord == isWord

namespace Regex

def distinct (points : List Progress) : List Progress :=
  (points.foldl (fun (kept : List Progress) pt =>
    if kept.any fun known => known.offset = pt.offset && known.groups = pt.groups
    then kept else pt :: kept) []).reverse

/-- The points that repeated steps come to, those with more steps first: the points found so far,
and those from which the next step starts. -/
def closure (step : Progress → List Progress) : Nat → List Progress → List Progress → List Progress
  | 0, hit, _ => hit
  | fuel + 1, hit, frontier =>
    let next := (frontier.flatMap step).foldl (fun kept pt =>
      let isKnown (known : Progress) : Bool := known.offset = pt.offset
      if kept.any isKnown || hit.any isKnown then kept else kept ++ [pt]) []
    if next.isEmpty then hit else closure step fuel (next ++ hit) next

def steps (step : Progress → List Progress) : Nat → List Progress → List Progress
  | 0, points => points
  | k + 1, points => steps step k (distinct (points.flatMap step))

def stepsUpTo (step : Progress → List Progress) : Nat → List Progress → List Progress
  | 0, points => points
  | k + 1, points =>
    if points.isEmpty then [] else stepsUpTo step k (distinct (points.flatMap step)) ++ points

def run (set : CharSet) (groups : List (Nat × Nat × Nat)) :
    List Progress → Nat → Raw → List Progress
  | hit, off, c :: rest =>
    if set.contains c then
      run set groups ({ offset := off + 1, rest, groups } :: hit) (off + 1) rest
    else hit
  | hit, _, [] => hit

def farthestFirst (points : List Progress) : List Progress :=
  points.mergeSort fun l r => r.offset ≤ l.offset

def reach (ln : Raw) : Regex → Progress → List Progress
  | .empty, pt => [pt]
  | .oneOf set, pt =>
    match pt.rest with
    | c :: rest => if set.contains c then [{ pt with offset := pt.offset + 1, rest }] else []
    | [] => []
  | .check asked, pt => if asked.holds ln pt then [pt] else []
  | .seq x y, pt =>
    match reach ln x pt with
    | [] => []
    | [only] => reach ln y only
    | points => distinct (points.flatMap (reach ln y))
  | .either l r, pt => farthestFirst (reach ln l pt ++ reach ln r pt)
  | .many (.oneOf set) 0 none, pt => run set pt.groups [pt] pt.offset pt.rest
  | .many body least most, pt =>
    let started := steps (reach ln body) least [pt]
    match most with
    | some most => stepsUpTo (reach ln body) (most - least) started
    | none => closure (reach ln body) (pt.rest.length + 1) started started
  | .group n body, pt =>
    (reach ln body pt).map fun post =>
      { post with
        groups := (n, pt.offset, post.offset) :: post.groups.filter fun grp => grp.1 ≠ n }
  | .again n, pt =>
    match pt.groups.find? fun grp => grp.1 = n with
    | some (_, x, last) =>
      let s := (ln.drop x).take (last - x)
      if s.isPrefixOf pt.rest then
        [{ pt with offset := pt.offset + s.length, rest := pt.rest.drop s.length }]
      else []
    | none => []

def matchFrom (re : Regex) (l : Raw) (offset : Nat) (rest : Raw) : Option Progress :=
  (re.reach l { offset, rest }).foldl (fun best pt =>
    match best with
    | some kept => if kept.offset < pt.offset then some pt else some kept
    | none => some pt) none

def search (re : Regex) (l : Raw) (off : Nat) (xs : Raw) : Option (Nat × Progress) :=
  match re.matchFrom l off xs with
  | some pt => some (off, pt)
  | none =>
    match xs with
    | [] => none
    | _ :: xs => search re l (off + 1) xs

def isFound (re : Regex) (l : Raw) : Bool := (re.search l 0 l).isSome

inductive Flaw where
  | openGroup | closedGroup | openSet | badExpression | openRepeat | badRepeat | noBounds | tooBig
  | trailingBackslash | badRange | badClass | badElement | badReference | nothingToRepeat

def Flaw.message : Flaw → String
  | .openGroup => "Unmatched ( or \\("
  | .closedGroup => "Unmatched ) or \\)"
  | .openSet => "Unmatched [, [^, [:, [., or [="
  | .badExpression => "Invalid regular expression"
  | .openRepeat => "Unmatched \\\x7b"
  | .tooBig => "Regular expression too big"
  | .badRepeat | .noBounds => "Invalid content of \\\x7b\\\x7d"
  | .trailingBackslash => "Trailing backslash"
  | .badRange => "Invalid range end"
  | .badClass => "Invalid character class name"
  | .badElement => "Invalid collation character"
  | .badReference => "Invalid back reference"
  | .nothingToRepeat => "Invalid preceding regular expression"

inductive Token where
  | item (regex : Regex)
  | star | plus | option
  | bounds (least : Nat) (most : Option Nat)
  | opening | closing | bar

def single (c : Char) : Regex := .oneOf { ranges := [(c, c)] }

def splitBound (dialect : Dialect) (read : Raw) : Raw → Option (Raw × Bool × Raw)
  | [] => none
  | ',' :: xs => some (read.reverse, false, xs)
  | '\\' :: '\x7d' :: xs =>
    if dialect.isBasic then some (read.reverse, true, xs)
    else splitBound dialect ('\x7d' :: read) xs
  | c :: xs =>
    if c = '\x7d' && !dialect.isBasic then some (read.reverse, true, xs)
    else splitBound dialect (c :: read) xs

variable (dialect : Dialect) (cs : Raw)

def splitBounds : Except Flaw (Nat × Option Nat × Raw) :=
  match splitBound dialect [] cs with
  | none => .error .openRepeat
  | some (lead, isClosed, xs) =>
    if lead.isEmpty && isClosed then .error .badRepeat
    else if !lead.all Char.isDigit then .error .noBounds
    else
      let least := lead.toNat?.getD 0
      let close (most : Option Nat) (xs : Raw) : Except Flaw (Nat × Option Nat × Raw) :=
        if most.any (· < least) then .error .badRepeat
        else if max least (most.getD 0) > 32767 then .error .tooBig
        else .ok (least, most, xs)
      if isClosed then close (some least) xs
      else
        match splitBound dialect [] xs with
        | none => .error .openRepeat
        | some (ds, isClosed, xs) =>
          if !ds.all Char.isDigit then .error .noBounds
          else if !isClosed then .error .badRepeat
          else close ds.toNat? xs

def namesNoClass : Raw → Bool
  | '[' :: ':' :: xs =>
    match CharSet.splitClass? [] xs with
    | some (name, _) => (CharSet.classRanges name).isEmpty || namesNoClass xs
    | none => namesNoClass xs
  | _ :: xs => namesNoClass xs
  | [] => false

def namesNoElement : Raw → Bool
  | '[' :: mark :: xs =>
    if mark = '.' || mark = '=' then
      match xs with
      | _ :: y :: ']' :: _ => y ≠ mark || namesNoElement xs
      | _ => xs.contains mark || namesNoElement xs
    else namesNoElement (mark :: xs)
  | _ :: xs => namesNoElement xs
  | [] => false

def hasBadRange (cs : Raw) : Bool :=
  let cs := if cs.head? = some '^' then cs.drop 1 else cs
  CharSet.hasBadRange (cs.length + 1) (cs.map fun c => (c, false))

def escaped (c : Char) : Regex :=
  let ws (negated : Bool) : Regex := .oneOf { negated, ranges := [('_', '_')], classes := [.alnum] }
  match c with
  | 'w' => ws false
  | 'W' => ws true
  | 's' => .oneOf { classes := [.space] }
  | 'S' => .oneOf { negated := true, classes := [.space] }
  | '<' => .check .wordStart
  | '>' => .check .wordEnd
  | 'b' => .check .wordEdge
  | 'B' => .check .noWordEdge
  | '`' => .check .textStart
  | '\'' => .check .textEnd
  | _ => if c.isDigit && c ≠ '0' then .again (c.toNat - '0'.toNat) else single c

def operator? : Option (Char × Raw) :=
  match dialect, cs with
  | .basic, '\\' :: c :: xs | .strict, '\\' :: c :: xs =>
    if "()|+?\x7b".contains c then some (c, xs) else none
  | .basic, '*' :: xs | .strict, '*' :: xs => some ('*', xs)
  | .basic, _ | .strict, _ => none
  | .grouped, '\\' :: c :: xs => if "()|".contains c then some (c, xs) else none
  | .grouped, c :: xs => if "+?*".contains c then some (c, xs) else none
  | .uncounted, c :: xs => if "()|+?*".contains c then some (c, xs) else none
  | _, c :: xs => if "()|+?*\x7b".contains c then some (c, xs) else none
  | _, [] => none

def unapplied (c : Char) : Except Flaw (List Token) :=
  match dialect with
  | .basic | .grouped => .ok [.item (single c)]
  | .strict => if c = '\x7b' then .error .nothingToRepeat else .ok [.item (single c)]
  | .extended | .uncounted => .error .nothingToRepeat
  | .relaxed => .ok []

def spread (range : Char × Char) : List (Char × Char) :=
  if range.2 < range.1 then [range.1, '-', range.2].map fun c => (c, c) else [range]

def tokens (dialect : Dialect) (fuel : Nat) (fresh : Bool) (cs : Raw) :
    Except Flaw (List Token) :=
  let extended := !dialect.isBasic
  match fuel with
  | 0 => .ok []
  | fuel + 1 =>
    let post (tok : Token) (fresh : Bool) (xs : Raw) : Except Flaw (List Token) :=
      (tok :: ·) <$> tokens dialect fuel fresh xs
    let repeated (c : Char) (tok : Token) (xs : Raw) : Except Flaw (List Token) :=
      if fresh then do
        let lead ← unapplied dialect c
        (lead ++ ·) <$> tokens dialect fuel lead.isEmpty xs
      else post tok false xs
    match operator? dialect cs with
    | some ('(', xs) => post .opening true xs
    | some (')', xs) => post .closing false xs
    | some ('|', xs) => post .bar true xs
    | some ('+', xs) => repeated '+' .plus xs
    | some ('?', xs) => repeated '?' .option xs
    | some ('*', xs) => repeated '*' .star xs
    | some (_, xs) =>
      if fresh && (dialect = .extended || dialect = .strict) then .error .nothingToRepeat
      else if fresh && dialect = .basic then post (.item (single '\x7b')) false xs
      else
      match dialect, splitBounds dialect xs with
      | _, .ok (least, most, xs) => repeated '\x7b' (.bounds least most) xs
      | .relaxed, .error .noBounds | .relaxed, .error .openRepeat =>
        post (.item (single '\x7b')) false xs
      | _, .error flaw => .error flaw
    | none =>
      match cs with
      | [] => .ok []
      | ['\\'] => .error .trailingBackslash
      | '\\' :: c :: xs => post (.item (escaped c)) false xs
      | ['['] | ['[', '^'] => .error .badExpression
      | '[' :: xs =>
        match CharSet.read? (· = '^') xs with
        | some (set, l) =>
          let isBackward := set.ranges.any fun range => range.2 < range.1
          if isBackward && dialect = .uncounted then
            post (.item (.oneOf { set with ranges := set.ranges.flatMap spread })) false l
          else if isBackward then .error .badRange
          else if namesNoClass (xs.take (xs.length - l.length)) then .error .badClass
          else if hasBadRange (xs.take (xs.length - l.length - 1)) then .error .badRange
          else if namesNoElement (xs.take (xs.length - l.length)) then .error .badElement
          else post (.item (.oneOf set)) false l
        | none => .error .openSet
      | '.' :: xs => post (.item (.oneOf { negated := true })) false xs
      | '^' :: xs =>
        if fresh || extended then post (.item (.check .start)) true xs
        else post (.item (single '^')) false xs
      | '$' :: xs =>
        let isEnd := extended || match xs with
          | [] => true
          | '\\' :: ')' :: _ => true
          | '\\' :: '|' :: _ => true
          | _ => false
        post (.item (if isEnd then .check .finish else single '$')) false xs
      | c :: xs => post (.item (single c)) false xs

def repeatsAgain : List Token → Bool
  | x :: y :: xs =>
    let isRepeat : Bool := x matches .star | .plus | .option | .bounds _ _
    let isSecond : Bool := y matches .star | .bounds _ _
    isRepeat && isSecond || repeatsAgain (y :: xs)
  | _ => false

structure Open where
  number : Nat
  choices : Option Regex := none
  items : List Regex := []

def Open.close (grp : Open) : Regex :=
  let last := grp.items.foldl (fun xs x => .seq x xs) .empty
  match grp.choices with
  | some choices => .either choices last
  | none => last

def Open.repeatLast (grp : Open) (least : Nat) (most : Option Nat) : Open :=
  match grp.items with
  | x :: xs => { grp with items := .many x least most :: xs }
  | [] => grp

def build (strict : Bool) (k : Nat) (h : List Open) (cur : Open) : List Token → Except Flaw Regex
  | [] => if h.isEmpty then .ok cur.close else .error .openGroup
  | .item x :: xs => build strict k h { cur with items := x :: cur.items } xs
  | .star :: xs => build strict k h (cur.repeatLast 0 none) xs
  | .plus :: xs => build strict k h (cur.repeatLast 1 none) xs
  | .option :: xs => build strict k h (cur.repeatLast 0 (some 1)) xs
  | .bounds least most :: xs => build strict k h (cur.repeatLast least most) xs
  | .opening :: xs => build strict (k + 1) (cur :: h) { number := k + 1 } xs
  | .closing :: xs =>
    match h with
    | around :: h =>
      build strict k h { around with items := .group cur.number cur.close :: around.items } xs
    | [] =>
      if strict then .error .closedGroup
      else build strict k h { cur with items := single ')' :: cur.items } xs
  | .bar :: xs => build strict k h { cur with choices := some cur.close, items := [] } xs

def lastReference : Regex → Nat
  | .again n => n
  | .seq x y => max x.lastReference y.lastReference
  | .either l r => max l.lastReference r.lastReference
  | .many body _ _ => body.lastReference
  | .group _ body => body.lastReference
  | _ => 0

def groupCount : Regex → Nat
  | .seq x y => x.groupCount + y.groupCount
  | .either l r => l.groupCount + r.groupCount
  | .many body _ _ => body.groupCount
  | .group _ body => body.groupCount + 1
  | _ => 0

def read : Except Flaw Regex := do
  let tokens ← tokens dialect (cs.length + 1) true cs
  let re ← build (dialect.isBasic || dialect = .extended) 0 [] { number := 0 } tokens
  if dialect = .strict && repeatsAgain tokens then .error .nothingToRepeat
  if re.lastReference > re.groupCount then .error .badReference else .ok re

def acrossLines : Regex → Regex
  | .check .start => .check .lineStart
  | .check .finish => .check .lineEnd
  | .oneOf set =>
    .oneOf (if set.negated then { set with ranges := ('\n', '\n') :: set.ranges } else set)
  | .seq x y => .seq x.acrossLines y.acrossLines
  | .either l r => .either l.acrossLines r.acrossLines
  | .many body least most => .many body.acrossLines least most
  | .group n body => .group n body.acrossLines
  | oth => oth

def plainClasses : Regex → Regex
  | .oneOf set =>
    .oneOf { set with
      ranges := set.classes.flatMap (fun kind => CharSet.classRanges kind.name.toList) ++ set.ranges
      classes := [] }
  | .seq x y => .seq x.plainClasses y.plainClasses
  | .either l r => .either l.plainClasses r.plainClasses
  | .many body least most => .many body.plainClasses least most
  | .group n body => .group n body.plainClasses
  | oth => oth

def mapChars (change : Char → Char) : Regex → Regex
  | .oneOf set =>
    .oneOf { set with ranges := set.ranges.map fun range => (change range.1, change range.2) }
  | .seq x y => .seq (x.mapChars change) (y.mapChars change)
  | .either l r => .either (l.mapChars change) (r.mapChars change)
  | .many body least most => .many (body.mapChars change) least most
  | .group n body => .group n (body.mapChars change)
  | oth => oth

def fixed : Regex := cs.foldr (fun c xs => .seq (single c) xs) .empty

def ignoringCase : Regex → Regex
  | .oneOf set => .oneOf set.ignoringCase
  | .seq x y => .seq x.ignoringCase y.ignoringCase
  | .either l r => .either l.ignoringCase r.ignoringCase
  | .many body least most => .many body.ignoringCase least most
  | .group n body => .group n body.ignoringCase
  | oth => oth

end Regex

end Assay.Text
