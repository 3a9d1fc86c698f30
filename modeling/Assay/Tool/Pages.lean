import Assay.Text.Letter
import Assay.Tool.Ends

/-! # Pages -/

namespace Assay.Tool.Pages

def feedsOf (s : Raw) : List (List Raw) :=
  let parts := s.splitOn '\x0c'
  let parts := if parts.getLast? = some [] then parts.dropLast else parts
  parts.map fun part => (Raw.lines part).map Raw.chomp

def chunksOf {α : Type} (k : Nat) : Nat → List α → List (List α)
  | 0, _ => []
  | fuel + 1, ys => if ys.length ≤ k then [ys] else ys.take k :: chunksOf k fuel (ys.drop k)

variable (locale : Text.Locale) (date title : Raw)

def titleLine (n : Nat) : Raw :=
  let page := "Page " ++ Raw.ofNat n
  let w (s : Raw) : Nat := Text.Letter.widthOf (locale.chars s)
  let free := 72 - w date - w page - w title
  date ++ List.replicate (max 1 (free / 2)) ' ' ++ title
    ++ List.replicate (max 1 (free - free / 2)) ' ' ++ page

/-- A page has 66 lines, of which five at its start and five at its end are not for rows. -/
def pageText (n : Nat) (rows : List Raw) : Raw :=
  "\n\n" ++ titleLine locale date title n ++ "\n\n\n" ++ rows.flatMap (· ++ ['\n'])
    ++ List.replicate (61 - rows.length) '\n'

def ofText (s : Raw) : Raw :=
  let pages := (feedsOf s).flatMap fun ls => chunksOf 56 (ls.length + 1) ls
  (pages.zipIdx 1).flatMap fun (rows, n) => pageText locale date title n rows

end Assay.Tool.Pages
