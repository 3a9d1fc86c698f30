import Assay.FileTree.Order
import Assay.Text.Utf8

/-!
# File trees

The files of the machine that the suite runs on. A place in the tree is the
list of names that lead to it from the root; the tree maps places to entries.
The root itself is a directory and has no entry. Regular files hold their modes;
those of other entries are kept apart, as far as they are not the usual ones.
-/

namespace Assay

open Text (Bytes)

/-- A place in the file tree: the names from the root down. -/
abbrev Place := List String

inductive Device where
  | null
  | zero
  | full
  | fifo
  | descriptor (number : Nat)
  deriving DecidableEq, Repr

inductive Entry where
  | directory
  /-- A regular file. The mode tells who may read, write and run it. -/
  | file (content : Bytes) (mode : Nat)
  | link (target : String)
  | device (device : Device)
  deriving DecidableEq, Repr, Inhabited

structure FileTree where
  entries : List (Place × Entry) := []
  /-- The modes of directories and devices that do not have the usual one. -/
  modes : List (Place × Nat) := []
  deriving DecidableEq, Repr

namespace FileTree

def get? (tree : FileTree) (place : Place) : Option Entry :=
  if place.isEmpty then some .directory else tree.entries.lookup place

def put (tree : FileTree) (place : Place) (entry : Entry) : FileTree :=
  match tree.entries.lookup place with
  | some _ =>
    { tree with entries := tree.entries.map fun (other, found) =>
        if other = place then (other, entry) else (other, found) }
  | none => { tree with entries := tree.entries ++ [(place, entry)] }

def erase (tree : FileTree) (place : Place) : FileTree :=
  { entries := tree.entries.filter fun (other, _) => !place.isPrefixOf other
    modes := tree.modes.filter fun (other, _) => !place.isPrefixOf other }

def moveAll (tree : FileTree) (move : Place → Place) : FileTree :=
  { entries := tree.entries.map fun (place, entry) => (move place, entry)
    modes := tree.modes.map fun (place, mode) => (move place, mode) }

def mode? (tree : FileTree) (place : Place) : Option Nat :=
  tree.modes.lookup place

def setMode (tree : FileTree) (place : Place) (mode : Nat) : FileTree :=
  { tree with modes := (place, mode) :: tree.modes.filter fun pair => pair.1 ≠ place }

/-- Whether a directory lets its owner do what the bits of a mode stand for. -/
def allows (tree : FileTree) (place : Place) (bits : Nat) : Bool :=
  match tree.mode? place with
  | some mode => mode &&& bits = bits
  | none => true

/-- The places right below a place, with their names, in the order in which they were made. -/
def members (tree : FileTree) (place : Place) : List (String × Entry) :=
  tree.entries.filterMap fun (other, entry) =>
    match other.getLast? with
    | some name => if other.dropLast = place then some (name, entry) else none
    | none => none

/-- The places right below a place, with their names, in the order in which the directory
lists them. -/
def children (tree : FileTree) (place : Place) : List (String × Entry) :=
  NameOrder.sort (·.1) (tree.members place)

def below (tree : FileTree) (place : Place) : List (Place × Entry) :=
  tree.entries.filterMap fun (other, entry) =>
    if place.isPrefixOf other && other.length > place.length then
      some (other.drop place.length, entry)
    else none

def putDirectories (tree : FileTree) (place : Place) : FileTree :=
  (List.range place.length).foldl (fun tree count =>
    let here := place.take (count + 1)
    match tree.get? here with
    | some _ => tree
    | none => tree.put here .directory) tree

end FileTree

end Assay
