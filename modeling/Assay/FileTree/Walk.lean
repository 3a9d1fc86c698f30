import Assay.FileTree.Access

/-!
# Walking a directory

All regular files below a directory, links followed. What a member is, its
directory tells; only links are looked up. A link that leads back to a directory
on the way to it is a loop and ends the walk, and so does a link that leads
nowhere and a directory that cannot be read.
-/

namespace Assay

inductive WalkFault where
  | loop (link ancestor : Path)
  | access (path : Path) (fault : SysFault)
  /-- A directory that a link leads to cannot be compared with those on the way. -/
  | handle (fault : SysFault)
  deriving DecidableEq, Repr

def WalkFault.message : WalkFault → String
  | .loop link ancestor =>
    "File system loop found: " ++ link.text ++ " points to an ancestor " ++ ancestor.text
  | .access path fault => "IO error for operation on " ++ path.text ++ ": " ++ fault.message
  | .handle fault => fault.message

namespace FileTree

/-- What a walk finds at a path that is listed with an entry. `above` holds the
directories on the way, the nearest first. -/
def walkTarget (tree : FileTree) (cwd : Place) (above : List (Path × Place)) (path : Path) :
    Entry → Except WalkFault Entry
  | .link _ =>
    match tree.locate .follow cwd path with
    | .error fault => .error (.access path fault)
    | .ok (place, .directory) =>
      if !tree.allows place 0o400 then .error (.handle .denied)
      else
        match above.find? (·.2 = place) with
        | some (ancestor, _) => .error (.loop path ancestor)
        | none => .ok .directory
    | .ok (_, entry) => .ok entry
  | entry => .ok entry

/-- The place of a directory that is opened to be read. -/
def openDirectory (tree : FileTree) (cwd : Place) (path : Path) : Except SysFault Place :=
  match tree.locate .follow cwd path with
  | .error fault => .error fault
  | .ok (place, .directory) => if tree.allows place 0o400 then .ok place else .error .denied
  | .ok _ => .error .notDirectory

/-- The regular files at and below a path that is listed with an entry, down to a
depth. `list` gives the members of a directory in the order in which they are
met. -/
def walkFrom (tree : FileTree) (list : Place → List (String × Entry)) (cwd : Place)
    (depth : Nat) (above : List (Path × Place)) (path : Path) (entry : Entry) :
    Except WalkFault (List Path) :=
  match depth with
  | 0 => .ok []
  | depth + 1 =>
    match tree.walkTarget cwd above path entry with
    | .error fault => .error fault
    | .ok .directory =>
      match tree.openDirectory cwd path with
      | .error fault => .error (.access path fault)
      | .ok place =>
        (list place).foldlM (fun files (name, entry) => do
          let more ←
            tree.walkFrom list cwd depth ((path, place) :: above) (path.join ⟨name⟩) entry
          .ok (files ++ more)) []
    | .ok entry => .ok (if entry.isRegular then [path] else [])

/-- A depth that no walk without a loop can pass: between two links it goes
down a plain path, and no two of its links lead to the same directory. -/
def walkDepth (tree : FileTree) : Nat :=
  (tree.entries.length + 2) * (tree.entries.length + 2)

def walk (tree : FileTree) (list : Place → List (String × Entry)) (cwd : Place) (path : Path) :
    Except WalkFault (List Path) :=
  match tree.locate .keep cwd path with
  | .error fault => .error (.access path fault)
  | .ok (_, entry) => tree.walkFrom list cwd tree.walkDepth [] path entry

end FileTree

end Assay
