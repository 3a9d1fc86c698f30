import Assay.Text.Blank
import Assay.Text.Lines

/-!
# Line diff

The difference of two texts as a list of tagged lines. A table of the lengths
of common subsequences is walked from its last cell, which yields common lines;
the lines of both texts are then merged around those.

The table is one flat row after another, and the walk compares flat positions.
In the first column the position on the left is the last cell of the row
above, so the walk can end there and leave a common line out. A common part
that is one empty line is no common part at all.
-/

namespace Assay

inductive DiffLine where
  | same (line : String)
  | missing (line : String)
  | extra (line : String)
  deriving DecidableEq, Repr

namespace Diff

/-- One cell of a row, from the cell above: the cells before it in reverse, the
cell above and to the left, and the cell to the left. Cells outside the table
count as zero. -/
def nextCell (line : String) (state : List Nat × Nat × Nat) (above : Nat × String) :
    List Nat × Nat × Nat :=
  let (cells, corner, left) := state
  let cell := if line = above.2 then corner + 1 else max left above.1
  (cell :: cells, above.1, cell)

def nextRow (rights : List String) (above : List Nat) (line : String) : List Nat :=
  ((above.zip rights).foldl (nextCell line) ([], 0, 0)).1.reverse

/-- The rows of the left lines, from the row above them. -/
def rowsFrom (rights : List String) (above : List Nat) : List String → List (List Nat)
  | [] => []
  | line :: lines =>
    let row := nextRow rights above line
    row :: rowsFrom rights row lines

def table (lefts rights : List String) : Array Nat :=
  (rowsFrom rights (rights.map fun _ => 0) lefts).flatten.toArray

def cellBefore? (cells : Array Nat) : Nat → Option Nat
  | 0 => none
  | position + 1 => cells[position]?

/-- Whether the walk goes to the left rather than up. In the first row it does. -/
def goesLeft? (cells : Array Nat) (width row column : Nat) : Option Bool :=
  if row = 0 then some true
  else
    match cellBefore? cells (row * width + column), cells[(row - 1) * width + column]? with
    | some left, some above => some (left > above)
    | _, _ => none

/-- The walk from a cell, given by the numbers of lines before and including
it, with the common lines found so far. A walk that looks at a line or a cell
that is not there finds nothing. -/
def walk? (cells : Array Nat) (lefts rights : Array String) (kept : List String) :
    Nat → Nat → Option (List String)
  | row + 1, column + 1 =>
    match lefts[row]?, rights[column]? with
    | some left, some right =>
      if left = right then walk? cells lefts rights (left :: kept) row column
      else if row = 0 ∧ column = 0 then some kept
      else
        match goesLeft? cells rights.size row column with
        | some true => walk? cells lefts rights kept (row + 1) column
        | some false => walk? cells lefts rights kept row (column + 1)
        | none => none
    | _, _ => none
  | _, _ => some kept
termination_by row column => row + column

def commonLines? (lefts rights : List String) : Option (List String) :=
  walk? (table lefts rights) lefts.toArray rights.toArray [] lefts.length rights.length

/-- The lines of a text that is to be merged: none if the text is empty. -/
def mergeLines (text : String) : List String :=
  if text.isEmpty then [] else Text.splitLines text

/-- A run of lines with one tag, joined to one text. -/
inductive Change where
  | same (text : String)
  | removed (text : String)
  | added (text : String)
  deriving DecidableEq, Repr

def Change.lines : Change → List DiffLine
  | .same text => (Text.splitLines text).map .same
  | .removed text => (Text.splitLines text).map .missing
  | .added text => (Text.splitLines text).map .extra

def run (tag : String → Change) (lines : List String) : List Change :=
  if lines.isEmpty then [] else [tag (Text.joinLines lines)]

/-- The lines of both texts and of their common part that are still to be
merged. -/
structure Rest where
  lefts : List String
  rights : List String
  common : List String
  deriving DecidableEq, Repr

/-- The lines at the front of both lists that are also the next common ones. -/
def takeSame (rest : Rest) : List String :=
  ((rest.lefts.zip (rest.rights.zip rest.common)).takeWhile fun (left, right, next) =>
    left = next ∧ right = next).map Prod.fst

/-- The lines before the next common one, and the others. Without a next common
line these are all lines. -/
def takeUntil (next : Option String) (lines : List String) : List String × List String :=
  lines.span fun line => some line ≠ next

/-- One round of the merge. It takes the shared lines, then those of the left
text and then those of the right text before the next common line. -/
def round (rest : Rest) : List Change × Rest :=
  let same := takeSame rest
  let common := rest.common.drop same.length
  let (missing, lefts) := takeUntil common.head? (rest.lefts.drop same.length)
  let (extra, rights) := takeUntil common.head? (rest.rights.drop same.length)
  (run .same same ++ run .removed missing ++ run .added extra, { lefts, rights, common })

/-- Merges in rounds until both texts are used up. A merge that needs more
rounds than it may take gives nothing. -/
def merge? (rounds : Nat) (rest : Rest) : Option (List Change) :=
  if rest.lefts.isEmpty && rest.rights.isEmpty then some []
  else
    match rounds with
    | 0 => none
    | rounds + 1 =>
      let (changes, rest) := round rest
      (merge? rounds rest).map (changes ++ ·)

def start (left right : String) (common : List String) : Rest :=
  { lefts := mergeLines left
    rights := mergeLines right
    common := mergeLines (Text.joinLines common) }

end Diff

/-- The line diff of two texts after trimming, with the expected text on the
left. Every round of its merge takes a line of one of the texts. -/
def lineDiff? (observed expected : String) : Option (List DiffLine) :=
  let left := Text.trim expected
  let right := Text.trim observed
  match Diff.commonLines? (Text.splitLines left) (Text.splitLines right) with
  | none => none
  | some common =>
    let rest := Diff.start left right common
    (Diff.merge? (rest.lefts.length + rest.rights.length) rest).map
      (·.flatMap Diff.Change.lines)

def lineDiff (observed expected : String) : List DiffLine :=
  (lineDiff? observed expected).getD []

end Assay
