import Assay.Text.Letter
import Assay.Text.Locale
import Assay.Tool.Difference.Shown

/-! # Files side by side -/

namespace Assay.Tool.Difference

open Text.Changes (Hunk)

structure Columns where
  (half second : Nat)
  palette : Option Palette
  locale : Text.Locale
  (leftOnly hidesCommon : Bool := false)

def Columns.ofWidth (palette : Option Palette) (locale : Text.Locale) (w : Nat) : Columns :=
  let p := w / 2 + 5 + (if w % 2 = 1 then 1 else 0)
  let p := p - p % 8
  let half := if p ≤ 3 || w ≤ p then 0 else min (p - 3) (w - p)
  { half, second := if half = 0 then w else p, palette, locale }

structure Cursor where
  (read written : Nat := 0)
  text : Raw := []

def gapTo : Nat → Nat → Nat → Raw
  | 0, _, _ => []
  | fuel + 1, from_, goal =>
    if goal ≤ from_ then []
    else
      let next := from_ + 8 - from_ % 8
      if goal < next then ' ' :: gapTo fuel (from_ + 1) goal
      else '\t' :: gapTo fuel next goal

variable (columns : Columns)

def Columns.put (cur : Cursor) (c : Char) : Cursor :=
  match c with
  | '\t' =>
    let blanks := 8 - cur.read % 8
    let stop := cur.written + blanks
    let cur := if cur.read = cur.written && stop < columns.half
      then { cur with text := '\t' :: cur.text, written := stop } else cur
    { cur with read := cur.read + blanks }
  | c =>
    let w := if Text.Letter.isOctet c then 1 else (Text.Letter.width? c).getD 0
    let read := cur.read + w
    if read ≤ columns.half then { read, written := read, text := c :: cur.text }
    else { cur with read }

def Columns.halfLine (l : Raw) : Raw × Nat :=
  let cur := (columns.locale.chars l.chomp).foldl columns.put {}
  (Raw.narrow cur.text.reverse, cur.written)

def Columns.row (l : Option Raw) (sgn : Char) (r : Option Raw) : Raw :=
  let hasEnd (ln : Option Raw) : Bool := ln.any (·.getLast? = some '\n')
  let sgn := if sgn = '|' && hasEnd l ≠ hasEnd r
    then if hasEnd l then '/' else '\\'
    else sgn
  let (x, col) := match l with
    | some ln => columns.halfLine ln
    | none => ([], 0)
  let goal := (columns.half + columns.second - 1) / 2
  let (between, col) : Raw × Nat := if sgn = ' ' then ([], col)
    else (gapTo (goal + 1) col goal ++ [sgn], max goal col + 1)
  let last : Raw := match r with
    | some ln =>
      if ln.head? = some '\n' then []
      else gapTo (columns.second + 1) col columns.second
        ++ (columns.halfLine ln).1
    | none => []
  let s := x ++ between ++ last ++ (if hasEnd l || hasEnd r then ['\n'] else [])
  match sgn with
  | '<' => Palette.paint columns.palette (·.removed) s
  | '>' => Palette.paint columns.palette (·.added) s
  | _ => s

def Columns.common (ls rs : List Raw) : Raw :=
  if columns.hidesCommon then []
  else if columns.leftOnly then ls.flatMap fun ln => columns.row (some ln) '(' none
  else
    (ls.zip rs).flatMap (fun (l, r) => columns.row (some l) ' ' (some r))
      ++ (rs.drop ls.length).flatMap (fun ln => columns.row none ')' (some ln))
      ++ (ls.drop rs.length).flatMap (fun ln => columns.row (some ln) '(' none)

def Columns.change (ls rs : List Raw) : Raw :=
  (ls.zip rs).flatMap (fun (l, r) => columns.row (some l) '|' (some r))
    ++ (rs.drop ls.length).flatMap (fun ln => columns.row none '>' (some ln))
    ++ (ls.drop rs.length).flatMap (fun ln => columns.row (some ln) '<' none)

def Columns.all (columns : Columns) (q : Pair) (l r : Nat) : List Hunk → Raw
  | [] =>
    columns.common (sliceOf q.lefts l q.lefts.size) (sliceOf q.rights r q.rights.size)
  | hunk :: xs =>
    columns.common (sliceOf q.lefts l (hunk.left - l)) (sliceOf q.rights r (hunk.right - r))
      ++ columns.change (q.removed hunk) (q.added hunk)
      ++ columns.all q (hunk.left + hunk.removed) (hunk.right + hunk.added) xs

end Assay.Tool.Difference
