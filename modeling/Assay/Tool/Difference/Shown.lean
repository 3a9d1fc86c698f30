import Assay.Text.Changes
import Assay.Tool.Format

/-! # Layouts of changes -/

namespace Assay.Tool.Difference

open Text.Changes (Hunk)

/-! ## Colors -/

structure Palette where
  (header added removed numbers reset : Raw)

def Palette.usual : Palette :=
  { header := "1", added := "32", removed := "31", numbers := "36", reset := "0" }

def Palette.paint (palette : Option Palette) (code : Palette → Raw) (s : Raw) : Raw :=
  match palette with
  | none => s
  | some palette =>
    let escape (code : Raw) : Raw := '\x1b' :: '[' :: code ++ "m"
    escape (code palette) ++ s ++ escape palette.reset

/-! ## Lines -/

variable (palette : Option Palette)

def ending (l : Raw) : Raw :=
  if l.getLast? = some '\n' then "\n" else "\n\\ No newline at end of file\n"

def marked (code : Palette → Raw) (mark : String) (l : Raw) : Raw :=
  Palette.paint palette code (mark.toList ++ ' ' :: l.chomp) ++ ending l

def tight (code : Option (Palette → Raw)) (mark : Char) (l : Raw) : Raw :=
  let s := mark :: l.chomp
  (match code with
    | some code => Palette.paint palette code s
    | none => s) ++ ending l

structure Pair where
  (lefts rights : Array Raw)

def sliceOf (ls : Array Raw) (start k : Nat) : List Raw := (ls.extract start (start + k)).toList

def Pair.removed (pair : Pair) (hunk : Hunk) : List Raw := sliceOf pair.lefts hunk.left hunk.removed

def Pair.added (pair : Pair) (hunk : Hunk) : List Raw := sliceOf pair.rights hunk.right hunk.added

def rangeText (start k : Nat) : Raw :=
  if k ≤ 1 then Raw.ofNat (start + k)
  else Raw.ofNat (start + 1) ++ ',' :: Raw.ofNat (start + k)

def changeLetter (hunk : Hunk) : Char :=
  if hunk.removed = 0 then 'a' else if hunk.added = 0 then 'd' else 'c'

/-! ## One by one -/

variable (pair : Pair)

def plainChange (hunk : Hunk) : Raw :=
  let ch := changeLetter hunk
  Palette.paint palette (·.numbers)
      (rangeText hunk.left hunk.removed ++ ch :: rangeText hunk.right hunk.added)
    ++ '\n' :: (pair.removed hunk).flatMap (marked palette (·.removed) "<")
    ++ (if ch = 'c' then "---\n".toList else [])
    ++ (pair.added hunk).flatMap (marked palette (·.added) ">")

def insertedLines (isInserting : Bool) : List Raw → Raw
  | [] => if isInserting then ".\n" else []
  | l :: xs =>
    let lead : Raw := if isInserting then [] else "a\n"
    if l = ".\n" then lead ++ "..\n.\ns/.//\n" ++ insertedLines false xs
    else lead ++ l ++ insertedLines true xs

def commandChange (hunk : Hunk) : Raw :=
  rangeText hunk.left hunk.removed ++ [changeLetter hunk, '\n']
    ++ (if hunk.added = 0 then [] else insertedLines true (pair.added hunk))

def countedChange (hunk : Hunk) : Raw :=
  let counted (ch : Char) (l k : Nat) : Raw :=
    if k = 0 then []
    else ch :: Raw.ofNat l ++ ' ' :: Raw.ofNat k ++ "\n"
  counted 'd' (hunk.left + 1) hunk.removed ++ counted 'a' (hunk.left + hunk.removed) hunk.added
    ++ (pair.added hunk).flatten

/-! ## With lines around -/

def groupHunks (around : Nat) : List Hunk → List (List Hunk)
  | [] => []
  | hunk :: xs =>
    match groupHunks around xs with
    | (next :: grp) :: groups =>
      if next.left - (hunk.left + hunk.removed) < 2 * around + 1
      then (hunk :: next :: grp) :: groups
      else [hunk] :: (next :: grp) :: groups
    | groups => [hunk] :: groups

def unifiedLines (palette : Option Palette) (pair : Pair) (stop : Nat) : Nat → List Hunk → Raw
  | p, [] => (sliceOf pair.lefts p (stop - p)).flatMap (tight palette none ' ')
  | p, hunk :: xs =>
    (sliceOf pair.lefts p (hunk.left - p)).flatMap (tight palette none ' ')
      ++ (pair.removed hunk).flatMap (tight palette (some (·.removed)) '-')
      ++ (pair.added hunk).flatMap (tight palette (some (·.added)) '+')
      ++ unifiedLines palette pair stop (hunk.left + hunk.removed) xs

structure Extent where
  (start stop startRight stopRight : Nat)

variable (around : Nat)

def extentOf (pair : Pair) (x last : Hunk) : Extent :=
  { start := x.left - around
    startRight := x.right - min around x.left
    stop := min pair.lefts.size (last.left + last.removed + around)
    stopRight := min pair.rights.size (last.right + last.added + around) }

def unifiedGroup (pair : Pair) (grp : List Hunk) : Raw :=
  match grp.head?, grp.getLast? with
  | some x, some last =>
    let extent := extentOf around pair x last
    let range (start k : Nat) : Raw :=
      if k = 1 then Raw.ofNat (start + 1)
      else Raw.ofNat (if k = 0 then start else start + 1) ++ ',' :: Raw.ofNat k
    Palette.paint palette (·.numbers)
        ("@@ -" ++ range extent.start (extent.stop - extent.start) ++ " +"
          ++ range extent.startRight (extent.stopRight - extent.startRight) ++ " @@")
      ++ '\n' :: unifiedLines palette pair extent.stop extent.start grp
  | _, _ => []

/-- The lines of one file in a group of changes, from a line on: for each change where it starts,
how many lines it has and how they are marked. -/
def contextLines (palette : Option Palette) (code : Palette → Raw) (ls : Array Raw)
    (stop : Nat) : Nat → List (Nat × Nat × String) → Raw
  | p, [] => (sliceOf ls p (stop - p)).flatMap (marked palette code " ")
  | p, (start, k, mark) :: xs =>
    (sliceOf ls p (start - p)).flatMap (marked palette code " ")
      ++ (sliceOf ls start k).flatMap (marked palette code mark)
      ++ contextLines palette code ls stop (start + k) xs

def contextGroup (pair : Pair) (grp : List Hunk) : Raw :=
  match grp.head?, grp.getLast? with
  | some x, some last =>
    let extent := extentOf around pair x last
    let mark (hunk : Hunk) (alone : String) : String :=
      if hunk.removed > 0 && hunk.added > 0 then "!" else alone
    let removals := grp.map fun hunk => (hunk.left, hunk.removed, mark hunk "-")
    let additions := grp.map fun hunk => (hunk.right, hunk.added, mark hunk "+")
    let ns (s : Raw) : Raw := Palette.paint palette (·.numbers) s ++ "\n"
    "***************\n"
      ++ ns ("*** " ++ rangeText extent.start (extent.stop - extent.start) ++ " ****")
      ++ (if grp.any (·.removed > 0)
        then contextLines palette (·.removed) pair.lefts extent.stop extent.start removals else [])
      ++ ns ("--- "
        ++ rangeText extent.startRight (extent.stopRight - extent.startRight)
        ++ " ----")
      ++ (if grp.any (·.added > 0)
        then contextLines palette (·.added) pair.rights extent.stopRight extent.startRight additions
        else [])
  | _, _ => []

end Assay.Tool.Difference
