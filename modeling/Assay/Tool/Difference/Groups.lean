import Assay.Tool.Difference.Shown

/-! # Formats for groups of lines -/

namespace Assay.Tool.Difference

open Text.Changes (Hunk)

structure GroupFormats where
  (old new same changed : Raw)

def groupText (ls rs : List Raw) : Raw → Raw
  | [] => []
  | '%' :: '%' :: xs => '%' :: groupText ls rs xs
  | '%' :: '<' :: xs | '%' :: '=' :: xs => ls.flatMap (·.chomp ++ ['\n']) ++ groupText ls rs xs
  | '%' :: '>' :: xs => rs.flatMap (·.chomp ++ ['\n']) ++ groupText ls rs xs
  | c :: xs => c :: groupText ls rs xs

def GroupFormats.common (formats : GroupFormats) (q : Pair) (l leftEnd r rightEnd : Nat) : Raw :=
  if l < leftEnd || r < rightEnd then
    groupText (sliceOf q.lefts l (leftEnd - l)) (sliceOf q.rights r (rightEnd - r)) formats.same
  else []

def GroupFormats.all (formats : GroupFormats) (q : Pair) (l r : Nat) : List Hunk → Raw
  | [] => formats.common q l q.lefts.size r q.rights.size
  | hunk :: xs =>
    let format := if hunk.removed = 0 then formats.new
      else if hunk.added = 0 then formats.old
      else formats.changed
    formats.common q l hunk.left r hunk.right
      ++ groupText (q.removed hunk) (q.added hunk) format
      ++ formats.all q (hunk.left + hunk.removed) (hunk.right + hunk.added) xs

def GroupFormats.ofGiven (old new same changed : Option Raw) : GroupFormats :=
  let older := old.getD (changed.getD "%<")
  let newer := new.getD (changed.getD "%>")
  { old := older, new := newer, same := same.getD "%=", changed := changed.getD (older ++ newer) }

end Assay.Tool.Difference
