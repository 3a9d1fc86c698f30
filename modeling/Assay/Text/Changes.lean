import Assay.Text.Raw
import Std.Data.HashMap

/-! # Changes between lists of lines -/

namespace Assay.Text.Changes

structure Hunk where
  (left right removed added : Nat)

/-! ## Fewest changes -/

structure Sides where
  (lefts rights : Array Nat)

variable (sides : Sides)

def Sides.agree (x y : Nat) : Bool :=
  match sides.lefts[x]?, sides.rights[y]? with
  | some l, some r => l == r
  | _, _ => false

structure Box where
  (left leftEnd top topEnd : Nat)

def runDown (sides : Sides) (box : Box) : Nat → Nat → Nat → Nat
  | 0, x, _ => x
  | fuel + 1, x, y =>
    if x < box.leftEnd && y < box.topEnd && sides.agree x y then
      runDown sides box fuel (x + 1) (y + 1)
    else x

def runUp (sides : Sides) (box : Box) : Nat → Nat → Nat → Nat
  | 0, x, _ => x
  | fuel + 1, x, y =>
    if box.left < x && box.top < y && sides.agree (x - 1) (y - 1) then
      runUp sides box fuel (x - 1) (y - 1)
    else x

/-- How far a search got on each diagonal; the diagonal of a point is its place on the left side
less that on the right side. -/
structure Front where
  reached : Array Int
  shift : Nat
  (low high : Int)

namespace Front

variable (front : Front)

def get (diagonal : Int) : Int := front.reached[(diagonal + front.shift).toNat]?.getD 0

def set (diagonal v : Int) : Front :=
  { front with reached := front.reached.setIfInBounds (diagonal + front.shift).toNat v }

def start (k shift : Nat) (diagonal v : Int) : Front :=
  ({ reached := Array.replicate k 0, shift, low := diagonal, high := diagonal } : Front).set
    diagonal v

def widen (least most outside : Int) : Front :=
  let front := if front.low > least
    then ({ front with low := front.low - 1 } : Front).set (front.low - 2) outside
    else { front with low := front.low + 1 }
  if front.high < most
    then ({ front with high := front.high + 1 } : Front).set (front.high + 2) outside
    else { front with high := front.high - 1 }

end Front

def advance (sides : Sides) (box : Box) (isForward isMeeting : Bool) (y : Front) :
    Nat → Int → Front → Front × Option (Nat × Nat)
  | 0, _, front => (front, none)
  | fuel + 1, diagonal, front =>
    if diagonal < front.low then (front, none)
    else
      let below := front.get (diagonal - 1)
      let above := front.get (diagonal + 1)
      let start := if isForward then (if below < above then above else below + 1)
        else if below < above then below else above - 1
      let k := box.leftEnd - box.left + 1
      let x := if isForward then runDown sides box k start.toNat (start - diagonal).toNat
        else runUp sides box k start.toNat (start - diagonal).toNat
      let front := front.set diagonal x
      let isOver : Bool := isMeeting && y.low ≤ diagonal && diagonal ≤ y.high
        && (if isForward then y.get diagonal ≤ x else x ≤ y.get diagonal)
      if isOver then (front, some (x, (x - diagonal).toNat))
      else advance sides box isForward isMeeting y fuel (diagonal - 2) front

def meet (sides : Sides) (box : Box) (least most : Int) (isOdd : Bool) :
    Nat → Front → Front → Nat × Nat
  | 0, _, _ => (box.left, box.top)
  | fuel + 1, forward, backward =>
    let k := box.leftEnd - box.left + (box.topEnd - box.top) + 3
    let forward := forward.widen least most (-1)
    match advance sides box true isOdd backward k forward.high forward with
    | (_, some pt) => pt
    | (forward, none) =>
      let backward := backward.widen least most (sides.lefts.size + sides.rights.size + 2)
      match advance sides box false (!isOdd) forward k backward.high backward with
      | (_, some pt) => pt
      | (backward, none) => meet sides box least most isOdd fuel forward backward

def middle (box : Box) : Nat × Nat :=
  let x : Int := (box.left : Int) - box.top
  let last : Int := (box.leftEnd : Int) - box.topEnd
  let shift := sides.rights.size + 2
  let k := sides.lefts.size + sides.rights.size + 5
  meet sides box ((box.left : Int) - box.topEnd) ((box.leftEnd : Int) - box.top)
    ((x - last) % 2 ≠ 0) (k + 1)
    (Front.start k shift x box.left) (Front.start k shift last box.leftEnd)

structure Marks where
  (lefts rights : Array Bool)

def markRange (marks : Array Bool) (start k : Nat) : Array Bool :=
  (List.range' start k).foldl (fun marks i => marks.setIfInBounds i true) marks

def markChanges (sides : Sides) : Nat → Box → Marks → Marks
  | 0, _, marks => marks
  | fuel + 1, box, marks =>
    let down := runDown sides box (box.leftEnd - box.left + 1) box.left box.top - box.left
    let box := { box with left := box.left + down, top := box.top + down }
    let up := box.leftEnd - runUp sides box (box.leftEnd - box.left + 1) box.leftEnd box.topEnd
    let box := { box with leftEnd := box.leftEnd - up, topEnd := box.topEnd - up }
    if box.left = box.leftEnd then
      { marks with rights := markRange marks.rights box.top (box.topEnd - box.top) }
    else if box.top = box.topEnd then
      { marks with lefts := markRange marks.lefts box.left (box.leftEnd - box.left) }
    else
      let (x, y) := middle sides box
      let marks := markChanges sides fuel { box with leftEnd := x, topEnd := y } marks
      markChanges sides fuel { box with left := x, top := y } marks

/-! ## Lines that do not take part -/

inductive Part where
  | taken | left | maybe
  deriving DecidableEq

def rootOf : Nat → Nat → Nat
  | 0, _ => 1
  | fuel + 1, n => if n / 4 = 0 then 1 else 2 * rootOf fuel (n / 4)

variable (ns : Array Nat)

def countNumbers : Std.HashMap Nat Nat :=
  ns.foldl (fun counts n => counts.insert n (counts.getD n 0 + 1)) {}

def firstParts (others : Std.HashMap Nat Nat) : Array Part :=
  let many := 5 * rootOf (ns.size + 1) (ns.size / 64)
  ns.map fun n =>
    let k := others.getD n 0
    if k = 0 then .left else if many < k then .maybe else .taken

def takeLong (least : Nat) (run : List Part) : List Part :=
  (run.splitBy fun one two => one = two).flatMap fun stretch =>
    if stretch.head? = some .maybe && least ≤ stretch.length then stretch.map fun _ => .taken
    else stretch

/-- A run in which the lines that may be left out are taken up to three lines in a row that are left
out, or to such a line after the first eight. -/
def takeFirst : Nat → Nat → List Part → List Part
  | _, _, [] => []
  | i, row, part :: xs =>
    if 8 ≤ i && part = .left then part :: xs
    else
      match part with
      | .maybe => .taken :: takeFirst (i + 1) 0 xs
      | .taken => .taken :: takeFirst (i + 1) 0 xs
      | .left => if row = 2 then .left :: xs else .left :: takeFirst (i + 1) (row + 1) xs

def settleRun (run : List Part) : List Part :=
  let maybes := run.count .maybe
  let run := if maybes * 4 > run.length
    then run.map fun part => if part = .maybe then .taken else part
    else
      let run := takeLong (rootOf run.length (run.length / 4) + 1) run
      (takeFirst 0 0 (takeFirst 0 0 run).reverse).reverse
  run

def settleParts : Nat → List Part → List Part
  | 0, parts => parts
  | _, [] => []
  | fuel + 1, .left :: xs =>
    let run := (Part.left :: xs).takeWhile (· ≠ .taken)
    let post := (Part.left :: xs).drop run.length
    let tail := (run.reverse.takeWhile (· = .maybe)).length
    settleRun (run.take (run.length - tail)) ++ List.replicate tail .taken ++ settleParts fuel post
  | fuel + 1, _ :: xs => .taken :: settleParts fuel xs

def leftOut (others : Std.HashMap Nat Nat) : Array Bool :=
  ((settleParts (ns.size + 1) (firstParts ns others).toList).map fun part =>
    decide (part ≠ .taken)).toArray

def marksOf (sides : Sides) : Marks :=
  let outLefts := leftOut sides.lefts (countNumbers sides.rights)
  let outRights := leftOut sides.rights (countNumbers sides.lefts)
  let keep (ns : Array Nat) (out : Array Bool) : Array (Nat × Nat) :=
    ns.zipIdx.filter fun (_, i) => !(out[i]?.getD false)
  let ls := keep sides.lefts outLefts
  let rs := keep sides.rights outRights
  let g : Sides := { lefts := ls.map (·.1), rights := rs.map (·.1) }
  let hit := markChanges g (ls.size + rs.size + 1)
    { left := 0, leftEnd := ls.size, top := 0, topEnd := rs.size }
    { lefts := Array.replicate ls.size false, rights := Array.replicate rs.size false }
  let spread (out : Array Bool) (kept : Array (Nat × Nat)) (marks : Array Bool) : Array Bool :=
    (kept.zip marks).foldl (fun out ((_, i), mark) => out.setIfInBounds i mark) out
  { lefts := spread outLefts ls hit.lefts, rights := spread outRights rs hit.rights }

/-! ## Moving runs of changes -/

/-- A run of changes on one side: its start and its end, and the place on the other side that
corresponds to its end. -/
structure Slide where
  marks : Array Bool
  (start stop : Nat)
  other : Int
  beside : Option Nat := none

def isMarked (marks : Array Bool) (p : Int) : Bool := 0 ≤ p && marks[p.toNat]?.getD false

def nextFree (marks : Array Bool) : Nat → Int → Int
  | 0, p => p
  | fuel + 1, p => if isMarked marks p then nextFree marks fuel (p + 1) else p

def lastFree (marks : Array Bool) : Nat → Int → Int
  | 0, p => p
  | fuel + 1, p => if isMarked marks p then lastFree marks fuel (p - 1) else p

def slideBack (ns : Array Nat) (others : Array Bool) : Nat → Slide → Slide
  | 0, slide => slide
  | fuel + 1, slide =>
    if 0 < slide.start && ns[slide.start - 1]? = ns[slide.stop - 1]? then
      let marks := (slide.marks.setIfInBounds (slide.start - 1) true).setIfInBounds
        (slide.stop - 1) false
      let start := (lastFree marks (slide.start + 1) ((slide.start : Int) - 2) + 1).toNat
      slideBack ns others fuel
        { slide with
          marks, start, stop := slide.stop - 1
          other := lastFree others (others.size + 1) (slide.other - 1) }
    else slide

def slideOn (ns : Array Nat) (others : Array Bool) : Nat → Slide → Slide
  | 0, slide => slide
  | fuel + 1, slide =>
    if slide.stop < ns.size && ns[slide.start]? = ns[slide.stop]? then
      let marks := (slide.marks.setIfInBounds slide.start false).setIfInBounds slide.stop true
      let stop := (nextFree marks (ns.size + 1) ((slide.stop : Int) + 1)).toNat
      let other := nextFree others (others.size + 1) (slide.other + 1)
      slideOn ns others fuel
        { marks, start := slide.start + 1, stop, other
          beside := if slide.other + 1 < other then some stop else slide.beside }
    else slide

def slideAround (ns : Array Nat) (others : Array Bool) : Nat → Slide → Slide
  | 0, slide => slide
  | fuel + 1, slide =>
    let len := slide.stop - slide.start
    let slide := slideBack ns others (ns.size + 1) slide
    let slide := { slide with
      beside := if isMarked others (slide.other - 1) then some slide.stop else none }
    let slide := slideOn ns others (ns.size + 1) slide
    if slide.stop - slide.start = len then slide else slideAround ns others fuel slide

def slideTo (others : Array Bool) (stop : Nat) : Nat → Slide → Slide
  | 0, slide => slide
  | fuel + 1, slide =>
    if stop < slide.stop then
      slideTo others stop fuel
        { slide with
          marks := (slide.marks.setIfInBounds (slide.start - 1) true).setIfInBounds
            (slide.stop - 1) false
          start := slide.start - 1, stop := slide.stop - 1
          other := lastFree others (others.size + 1) (slide.other - 1) }
    else slide

def slideRuns (ns : Array Nat) (others : Array Bool) : Nat → Array Bool → Nat → Int → Array Bool
  | 0, marks, _, _ => marks
  | fuel + 1, marks, p, y =>
    if ns.size ≤ p then marks
    else if !isMarked marks p then
      slideRuns ns others fuel marks (p + 1) (nextFree others (others.size + 1) y + 1)
    else
      let slide : Slide :=
        { marks, start := p
          stop := (nextFree marks (ns.size + 1) ((p : Int) + 1)).toNat
          other := nextFree others (others.size + 1) y }
      let slide := slideAround ns others (ns.size + 1) slide
      let slide := slide.beside.elim slide fun stop => slideTo others stop (ns.size + 1) slide
      slideRuns ns others fuel slide.marks slide.stop slide.other

def slideAll (marks : Marks) : Marks :=
  let lefts := slideRuns sides.lefts marks.rights (2 * sides.lefts.size + 2) marks.lefts 0 0
  let rights := slideRuns sides.rights lefts (2 * sides.rights.size + 2) marks.rights 0 0
  { lefts, rights }

/-! ## Runs -/

def hunksOf : Nat → Nat → Nat → List Bool → List Bool → List Hunk
  | 0, _, _, _, _ => []
  | fuel + 1, left, right, one, two =>
    let removed := (one.takeWhile id).length
    let added := (two.takeWhile id).length
    if removed + added > 0 then
      { left, right, removed, added }
        :: hunksOf fuel (left + removed) (right + added) (one.drop removed) (two.drop added)
    else
      match one, two with
      | _ :: one, _ :: two => hunksOf fuel (left + 1) (right + 1) one two
      | _, _ => []

def numbersOf (known : Std.HashMap String Nat) (ss : List Raw) :
    Std.HashMap String Nat × Array Nat :=
  ss.foldl (fun (known, ns) s =>
    let s := String.ofList s
    match known.get? s with
    | some n => (known, ns.push n)
    | none => (known.insert s known.size, ns.push known.size)) (known, #[])

def commonStart : List Raw → List Raw → Nat
  | l :: ls, r :: rs => if l = r then commonStart ls rs + 1 else 0
  | _, _ => 0

def between (key : Raw → Raw) (horizon : Nat) (ls rs : List Raw) : List Hunk :=
  let start := commonStart ls rs - horizon
  let ls := ls.drop start
  let rs := rs.drop start
  let stop := commonStart ls.reverse rs.reverse - horizon
  let (known, leftNumbers) := numbersOf {} ((ls.take (ls.length - stop)).map key)
  let (_, rightNumbers) := numbersOf known ((rs.take (rs.length - stop)).map key)
  let sides : Sides := { lefts := leftNumbers, rights := rightNumbers }
  let marks := slideAll sides (marksOf sides)
  hunksOf (ls.length + rs.length + 1) start start marks.lefts.toList marks.rights.toList

end Assay.Text.Changes
