import Assay.Text.Letter

/-! # Patterns -/

namespace Assay.Text

structure CharSet where
  negated : Bool := false
  ranges : List (Char × Char) := []
  classes : List CharClass := []

namespace CharSet

def contains (set : CharSet) (c : Char) : Bool :=
  let isMember := (set.ranges.any fun range => range.1 ≤ c && c ≤ range.2)
    || set.classes.any (·.contains c)
  if set.negated then !isMember && !Raw.isStray c else isMember

def classRanges (name : Raw) : List (Char × Char) :=
  match String.ofList name with
  | "digit" => [('0', '9')]
  | "alpha" => [('a', 'z'), ('A', 'Z')]
  | "alnum" => [('0', '9'), ('a', 'z'), ('A', 'Z')]
  | "lower" => [('a', 'z')]
  | "upper" => [('A', 'Z')]
  | "space" => [('\t', '\r'), (' ', ' ')]
  | "blank" => [('\t', '\t'), (' ', ' ')]
  | "punct" => [('!', '/'), (':', '@'), ('[', '`'), ('\x7b', '~')]
  | "print" => [(' ', '~')]
  | "graph" => [('!', '~')]
  | "cntrl" => [('\x00', '\x1f'), ('\x7f', '\x7f')]
  | "xdigit" => [('0', '9'), ('a', 'f'), ('A', 'F')]
  | _ => []

def splitClass? (read : Raw) : Raw → Option (Raw × Raw)
  | ':' :: ']' :: xs => some (read.reverse, xs)
  | c :: xs => if c.isAlpha then splitClass? (c :: read) xs else none
  | [] => none

abbrev Marked := Char × Bool

inductive Member where
  | char (char : Char)
  | kind (kind : CharClass)
  | nothing

def member : List Marked → Option (Member × List Marked)
  | [] => none
  | ('[', false) :: (':', false) :: xs =>
    match splitClass? [] (xs.map (·.1)) with
    | some (name, _) =>
      let hit := match CharClass.ofName? name with
        | some kind => Member.kind kind
        | none => .nothing
      some (hit, xs.drop (name.length + 2))
    | none => some (.char '[', (':', false) :: xs)
  | ('[', false) :: ('.', false) :: (c, _) :: ('.', false) :: (']', false) :: xs =>
    some (.char c, xs)
  | ('[', false) :: ('=', false) :: (c, _) :: ('=', false) :: (']', false) :: xs =>
    some (.char c, xs)
  | (c, _) :: xs => some (.char c, xs)

def membersOnto (read : CharSet) (x : Bool) : Nat → List Marked → Option (CharSet × List Marked)
  | 0, _ => none
  | fuel + 1, cs =>
    match cs, x with
    | [], _ => none
    | (']', false) :: xs, false => some (read, xs)
    | cs, _ =>
      match member cs with
      | none => none
      | some (.kind kind, xs) =>
        membersOnto { read with classes := kind :: read.classes } false fuel xs
      | some (.nothing, xs) => membersOnto read false fuel xs
      | some (.char low, xs) =>
        let alone : Option (CharSet × List Marked) :=
          membersOnto { read with ranges := (low, low) :: read.ranges } false fuel xs
        match xs with
        | ('-', false) :: (']', false) :: _ => alone
        | ('-', false) :: others =>
          match member others with
          | some (.char high, xs) =>
            membersOnto { read with ranges := (low, high) :: read.ranges } false fuel xs
          | _ => alone
        | _ => alone

def readMarked? (isNegation : Char → Bool) (cs : List Marked) : Option (CharSet × List Marked) :=
  let (negated, cs) := match cs with
    | (x, false) :: xs => if isNegation x then (true, xs) else (false, cs)
    | _ => (false, cs)
  membersOnto { negated } true (cs.length + 1) cs

def read? (isNegation : Char → Bool) (cs : Raw) : Option (CharSet × Raw) :=
  (readMarked? isNegation (cs.map fun c => (c, false))).map fun (set, xs) => (set, xs.map (·.1))

def hasBadRange : Nat → List Marked → Bool
  | 0, _ => false
  | fuel + 1, cs =>
    match member cs with
    | none => false
    | some (x, xs) =>
      match xs with
      | [] | [(']', false)] => false
      | ('-', false) :: (']', false) :: _ => false
      | ('-', false) :: others =>
        match x, member others with
        | .char _, some (.char _, xs) => hasBadRange fuel xs
        | _, _ => true
      | xs => hasBadRange fuel xs

def ignoringCase (set : CharSet) : CharSet :=
  let y (range : Char × Char) : List (Char × Char) :=
    let shift (low high : Char) (dist : Int) : List (Char × Char) :=
      let x := max range.1.toNat low.toNat
      let last := min range.2.toNat high.toNat
      if x ≤ last then
        [(Char.ofNat ((x : Int) + dist).toNat, Char.ofNat ((last : Int) + dist).toNat)]
      else []
    let far : List (Char × Char) :=
      if Letter.isBasic range.1 || range.1 ≠ range.2 then []
      else [Letter.toLower range.1, Letter.toUpper range.1].map fun c => (c, c)
    range :: shift 'a' 'z' (-32) ++ shift 'A' 'Z' 32 ++ far
  let classes := set.classes.flatMap fun kind =>
    if kind = .lower || kind = .upper then [.lower, .upper] else [kind]
  { set with ranges := set.ranges.flatMap y, classes }

end CharSet

inductive PatternItem where
  | char (char : Char)
  | any | many
  | oneOf (set : CharSet)

abbrev Pattern := List PatternItem

namespace Pattern

def ofMarked (fuel : Nat) (cs : List (Char × Bool)) : Pattern :=
  match fuel, cs with
  | 0, _ => []
  | _, [] => []
  | fuel + 1, (c, quoted) :: xs =>
    if quoted then .char c :: ofMarked fuel xs
    else if c = '*' then .many :: ofMarked fuel xs
    else if c = '?' then .any :: ofMarked fuel xs
    else if c = '[' then
      match CharSet.readMarked? (fun c => c = '!' || c = '^') xs with
      | some (set, l) => .oneOf set :: ofMarked fuel l
      | none => .char '[' :: ofMarked fuel xs
    else .char c :: ofMarked fuel xs

variable (pat : Pattern)

def isActive : Bool :=
  pat.any fun
    | .char _ => false
    | _ => true

def openings : Pattern → List Pattern
  | .many :: ys => (.many :: ys) :: openings ys
  | ys => [ys]

def afterChar (c : Char) : Pattern → List Pattern
  | [] => []
  | .many :: ys => openings (.many :: ys)
  | .any :: ys => openings ys
  | .char wanted :: ys => if wanted = c then openings ys else []
  | .oneOf set :: ys => if set.contains c then openings ys else []

def afterAll (c : Char) (patterns : List Pattern) : List Pattern :=
  (patterns.flatMap (afterChar c)).foldl (fun hit pat =>
    if hit.any fun known => known.length = pat.length then hit else pat :: hit) []

def covers (cs : List Char) : Bool :=
  (cs.foldl (fun patterns c => afterAll c patterns) pat.openings).any List.isEmpty

/-- How many characters at the start are taken by one of some patterns, `taken` having gone before:
as few or as many as possible. -/
def takenAtStart (longest : Bool) (taken : Nat) (best : Option Nat) :
    List Pattern → List Char → Option Nat
  | patterns, cs =>
    let best := if patterns.any List.isEmpty then some taken else best
    if best.isSome && !longest then best
    else
      match cs with
      | [] => best
      | c :: xs =>
        if patterns.isEmpty then best
        else takenAtStart longest (taken + 1) best (afterAll c patterns) xs
termination_by _ cs => cs.length

def trimStart (longest : Bool) (cs : List Char) : List Char :=
  match takenAtStart longest 0 none pat.openings cs with
  | some k => cs.drop k
  | none => cs

def trimEnd (longest : Bool) (cs : List Char) : List Char :=
  (trimStart pat.reverse longest cs.reverse).reverse

end Pattern

end Assay.Text
