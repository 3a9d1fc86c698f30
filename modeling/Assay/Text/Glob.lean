import Assay.Text.Pattern

/-! # Patterns with groups -/

namespace Assay.Text

inductive Repeat where
  | once | atMostOnce | anyTimes | someTimes | never

namespace Repeat

def ofSign? : Char → Option Repeat
  | '@' => some .once
  | '?' => some .atMostOnce
  | '*' => some .anyTimes
  | '+' => some .someTimes
  | '!' => some .never
  | _ => none

end Repeat

inductive GlobItem where
  | plain (item : PatternItem)
  | group (times : Repeat) (choices : List (List GlobItem))

abbrev Glob := List GlobItem

namespace Glob

def splitGroup (d : Nat) (hit : List (List (Char × Bool))) (cur : List (Char × Bool)) :
    List (Char × Bool) → Option (List (List (Char × Bool)) × List (Char × Bool))
  | [] => none
  | (c, quoted) :: xs =>
    let goOn (d : Nat) : Option (List (List (Char × Bool)) × List (Char × Bool)) :=
      splitGroup d hit ((c, quoted) :: cur) xs
    if quoted then goOn d
    else if c = '(' then goOn (d + 1)
    else if c = ')' then
      match d with
      | 0 => some ((cur.reverse :: hit).reverse, xs)
      | d + 1 => goOn d
    else if c = '|' && d = 0 then splitGroup d (cur.reverse :: hit) [] xs
    else goOn d

def ofMarked (grouped : Bool) : Nat → List (Char × Bool) → Glob
  | 0, _ => []
  | _, [] => []
  | fuel + 1, (c, quoted) :: xs =>
    let plain (x : PatternItem) (xs : List (Char × Bool)) : Glob :=
      .plain x :: ofMarked grouped fuel xs
    let single : Glob :=
      if quoted then plain (.char c) xs
      else if c = '*' then plain .many xs
      else if c = '?' then plain .any xs
      else if c = '[' then
        match CharSet.readMarked? (fun c => c = '!' || c = '^') xs with
        | some (set, l) => plain (.oneOf set) l
        | none => plain (.char '[') xs
      else plain (.char c) xs
    match if grouped && !quoted then Repeat.ofSign? c else none, xs with
    | some times, ('(', false) :: inside =>
      match splitGroup 0 [] [] inside with
      | some (choices, l) =>
        .group times (choices.map (ofMarked grouped fuel)) :: ofMarked grouped fuel l
      | none => single
    | _, _ => single

def folded (folds : Bool) (c : Char) : Char := if folds then Letter.toLower c else c

def standsFor (folds : Bool) (x : PatternItem) (c : Char) : Bool :=
  match x with
  | .char wanted => folded folds wanted = folded folds c
  | .any => true
  | .many => true
  | .oneOf set =>
    set.contains c
      || (folds && (set.contains (Letter.toLower c) || set.contains (Letter.toUpper c)))

def union (l r : List Nat) : List Nat :=
  r.foldl (fun hit pos => if hit.contains pos then hit else hit ++ [pos]) l

def closure (step : List Nat → List Nat) : Nat → List Nat → List Nat
  | 0, hit => hit
  | fuel + 1, hit =>
    let more := union hit (step hit)
    if more.length = hit.length then hit else closure step fuel more

def advance (folds : Bool) (s : Array Char) : Nat → Glob → List Nat → List Nat
  | 0, _, _ => []
  | d + 1, ys, positions =>
    ys.foldl (fun positions it =>
      match it with
      | .plain .many =>
        match positions.min? with
        | some x => (List.range (s.size + 1 - x)).map (· + x)
        | none => []
      | .plain it => positions.filterMap fun pos =>
        match s[pos]? with
        | some c => if standsFor folds it c then some (pos + 1) else none
        | none => none
      | .group times choices =>
        let once (positions : List Nat) : List Nat :=
          choices.foldl (fun hit choice => union hit (advance folds s d choice positions)) []
        match times with
        | .once => once positions
        | .atMostOnce => union positions (once positions)
        | .anyTimes => closure once (s.size + 1) positions
        | .someTimes => closure once (s.size + 1) (once positions)
        | .never => positions.foldl (fun hit pos =>
            let taken := once [pos]
            union hit (((List.range (s.size + 1 - pos)).map (· + pos)).filter
              fun y => !taken.contains y)) []) positions

def maxDepth : Nat := 20

variable (glob : Glob) (folds : Bool)

def endsFrom (s : Array Char) (pos : Nat) : List Nat := advance folds s maxDepth glob [pos]

def plain? : Option Pattern :=
  glob.mapM fun
    | .plain x => some x
    | .group _ _ => none

def covers (cs : List Char) : Bool := (glob.endsFrom folds cs.toArray 0).contains cs.length

def trimStart (glob : Glob) (longest : Bool) (cs : List Char) : List Char :=
  match glob.plain? with
  | some pat => pat.trimStart longest cs
  | none =>
    let ends := glob.endsFrom false cs.toArray 0
    match if longest then ends.max? else ends.min? with
    | some k => cs.drop k
    | none => cs

def trimEnd (glob : Glob) (longest : Bool) (cs : List Char) : List Char :=
  match glob.plain? with
  | some pat => pat.trimEnd longest cs
  | none =>
    let s := cs.toArray
    let counts := List.range (cs.length + 1)
    let counts := if longest then counts else counts.reverse
    match counts.find? fun k => (glob.endsFrom false s k).contains cs.length with
    | some k => cs.take k
    | none => cs

def longestFrom? (s : Array Char) (pos : Nat) : Option Nat := (glob.endsFrom folds s pos).max?

end Glob

end Assay.Text
