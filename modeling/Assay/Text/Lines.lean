/-! # Lines -/

namespace Assay.Text

def consPiece (c : Char) (pieces : List (List Char)) : List (List Char) :=
  if c = '\n' then [] :: pieces
  else
    match pieces with
    | [] => [[c]]
    | piece :: later => (c :: piece) :: later

def splitChars (chars : List Char) : List (List Char) := chars.foldr consPiece [[]]

def splitLines (text : String) : List String := (splitChars text.toList).map String.ofList

def joinLines (lines : List String) : String := "\n".intercalate lines

def dropReturn (line : List Char) : List Char :=
  match line.reverse with
  | '\r' :: before => before.reverse
  | _ => line

/-- The lines of a text as shown: every newline ends a line, what follows the last newline is a line
of its own unless it is empty, and a carriage return right before a newline belongs to the line end.
-/
def displayLines (text : String) : List String :=
  match (splitChars text.toList).reverse with
  | [] => []
  | last :: before =>
    let ended := (before.reverse.map dropReturn).map String.ofList
    if last.isEmpty then ended else ended ++ [String.ofList last]

end Assay.Text
