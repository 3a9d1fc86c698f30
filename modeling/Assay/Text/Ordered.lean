import Assay.Text.Regex

/-! # Ordered patterns -/

namespace Assay.Text

inductive Anchor where
  | textStart | textEnd | nearEnd | wordEdge | noWordEdge

structure CharUnion where
  negated : Bool := false
  parts : List CharSet := []

def CharUnion.contains (set : CharUnion) (c : Char) : Bool :=
  !Raw.isStray c && ((set.parts.any (·.contains c)) != set.negated)

inductive Ordered where
  | empty
  | oneOf (set : CharUnion)
  | check (anchor : Anchor)
  | seq (x y : Ordered)
  | either (x y : Ordered)
  | many (body : Ordered) (least : Nat) (most : Option Nat) (isEager : Bool)
  | ahead (wanted : Bool) (body : Ordered)
  | back (k : Nat)
  | start

namespace Ordered

/-! ## Matching -/

structure Point where
  offset : Nat := 0
  before : List Char := []
  rest : List Char
  start : Option Nat := none

def isWordChar (c : Char) : Bool := c = '_' || c.isAlphanum

def holds (anchor : Anchor) (pt : Point) : Bool :=
  let wasWord := pt.before.head?.any isWordChar
  let isWord := pt.rest.head?.any isWordChar
  match anchor with
  | .textStart => pt.before.isEmpty
  | .textEnd => pt.rest.isEmpty
  | .nearEnd => pt.rest.isEmpty || pt.rest = "\n"
  | .wordEdge => wasWord != isWord
  | .noWordEdge => wasWord == isWord

def Point.next? (pt : Point) : Option (Char × Point) :=
  match pt.rest with
  | c :: rest => some (c, { pt with offset := pt.offset + 1, before := c :: pt.before, rest })
  | [] => none

def Point.back? (pt : Point) : Nat → Option Point
  | 0 => some pt
  | k + 1 =>
    match pt.before with
    | c :: before => Point.back? { pt with offset := pt.offset - 1, before, rest := c :: pt.rest } k
    | [] => none

abbrev Trial := Nat → Option Point × Nat

def tryAll (next : Point → Trial) : List Point → Trial
  | [], budget => (none, budget)
  | pt :: points, budget =>
    match next pt budget with
    | (some hit, budget) => (some hit, budget)
    | (none, budget) => tryAll next points budget

def run (set : CharUnion) : Nat → List Point → Point → List Point
  | 0, hit, _ => hit
  | k + 1, hit, pt =>
    match pt.next? with
    | some (c, post) => if set.contains c then run set k (post :: hit) post else hit
    | none => hit

def attempt : Nat → Ordered → Point → (Point → Trial) → Trial
  | 0, _, _, _, _ => (none, 0)
  | _, _, _, _, 0 => (none, 0)
  | fuel + 1, pat, pt, next, budget + 1 =>
    match pat with
    | .empty => next pt budget
    | .oneOf set =>
      match pt.next? with
      | some (c, post) => if set.contains c then next post budget else (none, budget)
      | none => (none, budget)
    | .check anchor => if holds anchor pt then next pt budget else (none, budget)
    | .seq x y => attempt fuel x pt (fun post => attempt fuel y post next) budget
    | .either x y =>
      match attempt fuel x pt next budget with
      | (some hit, budget) => (some hit, budget)
      | (none, budget) => attempt fuel y pt next budget
    | .many (.oneOf set) 0 most isEager =>
      let points := run set (most.getD pt.rest.length) [pt] pt
      tryAll next (if isEager then points else points.reverse) budget
    | .many body (least + 1) most isEager =>
      let xs := Ordered.many body least (most.map (· - 1)) isEager
      attempt fuel body pt (fun post => attempt fuel xs post next) budget
    | .many body 0 most isEager =>
      let onceMore : Trial :=
        if most = some 0 then fun budget => (none, budget)
        else
          attempt fuel body pt fun post =>
            if post.offset = pt.offset then fun budget => (none, budget)
            else attempt fuel (.many body 0 (most.map (· - 1)) isEager) post next
      let (first, second) : Trial × Trial :=
        if isEager then (onceMore, next pt) else (next pt, onceMore)
      match first budget with
      | (some hit, budget) => (some hit, budget)
      | (none, budget) => second budget
    | .ahead wanted body =>
      match attempt fuel body pt (fun post budget => (some post, budget)) budget with
      | (some post, budget) =>
        if wanted then next { pt with start := post.start } budget
        else (none, budget)
      | (none, budget) => if wanted then (none, budget) else next pt budget
    | .back k =>
      match pt.back? k with
      | some pre => next pre budget
      | none => (none, budget)
    | .start => next { pt with start := some pt.offset } budget

def maxSteps : Nat := 10000000

inductive Found where
  | matched (start : Nat) (point : Point)
  | nothing | tooMany

def searchFrom (pat : Ordered) (budget : Nat) : List Char → Point → Found
  | rest, pt =>
    match attempt maxSteps pat pt (fun post budget => (some post, budget)) budget with
    | (some post, _) => .matched (post.start.getD pt.offset) post
    | (none, 0) => .tooMany
    | (none, budget) =>
      match rest with
      | [] => .nothing
      | c :: rest =>
        searchFrom pat budget rest
          { pt with offset := pt.offset + 1, before := c :: pt.before, rest }
termination_by rest => rest.length

def search (pat : Ordered) (s : List Char) (offset : Nat) : Found :=
  let rest := s.drop offset
  searchFrom pat maxSteps rest { offset, before := (s.take offset).reverse, rest }

end Ordered

end Assay.Text
