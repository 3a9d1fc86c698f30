import Assay.FileTree.Basic
import Assay.Path
import Assay.SysFault

/-!
# Following a path

A path is followed name by name from a directory. A link is replaced by what it
points to, at most forty times. The last name may be missing.
-/

namespace Assay

def Place.path (place : Place) : Path :=
  ⟨"/" ++ "/".intercalate place⟩

namespace FileTree

inductive Target where
  | found (place : Place) (entry : Entry)
  | absent (directory : Place) (name : String)
  deriving DecidableEq, Repr

inductive LastLink where
  | follow
  | keep
  deriving DecidableEq, Repr

def maxLinks : Nat := 40

def maxNameBytes : Nat := 255

def maxPathBytes : Nat := 4095

/-- Follows the pieces of a path from a place. `links` is the number of links
that may still be followed. -/
def walkPieces (tree : FileTree) (lastLink : LastLink) (links : Nat) (here : Place)
    (pieces : List String) : Except SysFault Target :=
  match pieces with
  | [] => .ok (.found here ((tree.get? here).getD .directory))
  | piece :: rest =>
    match tree.get? here with
    | some .directory =>
      if piece = "" then walkPieces tree lastLink links here rest
      else if !tree.allows here 0o100 then .error .denied
      else if piece = "." then walkPieces tree lastLink links here rest
      else if piece = ".." then walkPieces tree lastLink links here.dropLast rest
      else if piece.utf8ByteSize > maxNameBytes then .error .nameTooLong
      else
        match tree.get? (here ++ [piece]) with
        | none =>
          if rest.all String.isEmpty then .ok (.absent here piece) else .error .notFound
        | some (.link target) =>
          if rest.isEmpty ∧ lastLink = .keep then .ok (.found (here ++ [piece]) (.link target))
          else
            match links with
            | 0 => .error .tooManyLinks
            | links + 1 =>
              let start := if target.startsWith "/" then [] else here
              walkPieces tree lastLink links start (Path.pieces target ++ rest)
        | some _ => walkPieces tree lastLink links (here ++ [piece]) rest
    | some _ => .error .notDirectory
    | none =>
      -- A directory that was removed still leads to itself and to the one around it.
      if piece = "" ∨ piece = "." then walkPieces tree lastLink links here rest
      else if piece = ".." then walkPieces tree lastLink links here.dropLast rest
      else .error .notFound
termination_by (links, pieces.length)

def resolve (tree : FileTree) (lastLink : LastLink) (cwd : Place) (path : Path) :
    Except SysFault Target :=
  if path.text.isEmpty then .error .notFound
  else if path.text.contains '\x00' then .error .zeroInPath
  else if path.text.utf8ByteSize > maxPathBytes then .error .nameTooLong
  else
    walkPieces tree lastLink maxLinks (if path.isAbsolute then [] else cwd)
      (Path.pieces path.text)

/-- Where a path leads that is opened and made if it is not there. A path that ends with a
slash asks for a directory, which opening does not make, whatever its last name is. -/
def resolveOrMake (tree : FileTree) (cwd : Place) (path : Path) : Except SysFault Target := do
  let target := tree.resolve .follow cwd path
  if path.text.endsWith "/" ∧ path.text.utf8ByteSize ≤ maxPathBytes
      ∧ !path.text.contains '\x00' then
    let around := ((Path.pieces path.text).reverse.dropWhile String.isEmpty).drop 1
    let _ ← walkPieces tree .follow maxLinks (if path.isAbsolute then [] else cwd)
      (around.reverse ++ ["."])
    .error .isDirectory
  else target

def locate (tree : FileTree) (lastLink : LastLink) (cwd : Place) (path : Path) :
    Except SysFault (Place × Entry) :=
  match tree.resolve lastLink cwd path with
  | .ok (.found place entry) => .ok (place, entry)
  | .ok (.absent _ _) => .error .notFound
  | .error fault => .error fault

end FileTree

end Assay
