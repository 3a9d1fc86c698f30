import Assay.FileTree.Resolve

/-!
# Reading and changing files

The operations that the runner uses on files, by path. A failed operation
changes nothing.
-/

namespace Assay

open Text (Bytes)

namespace Entry

def plainMode : Nat := 0o644

def runnableMode : Nat := 0o755

def isRegular : Entry → Bool
  | .file _ _ => true
  | _ => false

def isExecutable : Entry → Bool
  | .file _ mode => mode &&& 0o111 ≠ 0
  | _ => false

def content : Entry → Except SysFault Bytes
  | .file content _ => .ok content
  | .device _ => .ok []
  | .directory => .error .isDirectory
  | .link _ => .error .tooManyLinks

end Entry

namespace FileTree

def isDirectory (tree : FileTree) (cwd : Place) (path : Path) : Bool :=
  match tree.locate .follow cwd path with
  | .ok (_, .directory) => true
  | _ => false

def isFile (tree : FileTree) (cwd : Place) (path : Path) : Bool :=
  match tree.locate .follow cwd path with
  | .ok (_, entry) => entry.isRegular
  | .error _ => false

/-- Whether an entry at a place lets its owner do what the bits of a mode stand for. -/
def permits (tree : FileTree) (place : Place) (bits : Nat) : Entry → Bool
  | .file _ mode => mode &&& bits = bits
  | _ => tree.allows place bits

def read (tree : FileTree) (cwd : Place) (path : Path) : Except SysFault Bytes := do
  let (place, entry) ← tree.locate .follow cwd path
  if tree.permits place 0o400 entry then entry.content else .error .denied

def readText (tree : FileTree) (cwd : Place) (path : Path) : Except SysFault String := do
  let bytes ← tree.read cwd path
  match Text.decode? bytes with
  | some text => .ok text
  | none => .error .notText

/-- Where a path leads if it is to be written: a file, a device, or a free
place for a new file. -/
def openForWriting (tree : FileTree) (cwd : Place) (path : Path) :
    Except SysFault (Place × Option Entry) := do
  match ← tree.resolveOrMake cwd path with
  | .found _ .directory => .error .isDirectory
  | .found place entry =>
    if tree.permits place 0o200 entry then .ok (place, some entry) else .error .denied
  | .absent directory name =>
    if tree.allows directory 0o200 then .ok (directory ++ [name], none) else .error .denied

def write (tree : FileTree) (cwd : Place) (path : Path) (content : Bytes) :
    Except SysFault FileTree := do
  match ← tree.openForWriting cwd path with
  | (place, none) => .ok (tree.put place (.file content Entry.plainMode))
  | (place, some (.file _ mode)) => .ok (tree.put place (.file content mode))
  | (_, some (.device .full)) => if content.isEmpty then .ok tree else .error .noSpace
  | (_, some (.device _)) => .ok tree
  | (_, some _) => .error .denied

def makeDirectory (tree : FileTree) (cwd : Place) (path : Path) :
    Except SysFault (Place × FileTree) := do
  match ← tree.resolve .keep cwd path with
  | .found _ _ => .error .exists
  | .absent directory name =>
    if tree.allows directory 0o200 then
      .ok (directory ++ [name], tree.put (directory ++ [name]) .directory)
    else .error .denied

def makeDirectories (tree : FileTree) (cwd : Place) (path : Path) : Except SysFault FileTree :=
  let pieces := Path.pieces path.text
  (List.range pieces.length).foldlM (fun tree count =>
    let here : Path := ⟨"/".intercalate (pieces.take (count + 1))⟩
    if here.text.isEmpty || tree.isDirectory cwd here then .ok tree
    else (tree.makeDirectory cwd here).map (·.2)) tree

def makeLink (tree : FileTree) (cwd : Place) (path : Path) (target : String) :
    Except SysFault FileTree := do
  match ← tree.resolve .keep cwd path with
  | .found _ _ => .error .exists
  | .absent directory name =>
    if tree.allows directory 0o200 then .ok (tree.put (directory ++ [name]) (.link target))
    else .error .denied

def setExecutable (tree : FileTree) (cwd : Place) (path : Path) (executable : Bool) :
    Except SysFault FileTree := do
  match ← tree.locate .follow cwd path with
  | (place, .file content _) =>
    .ok (tree.put place
      (.file content (if executable then Entry.runnableMode else Entry.plainMode)))
  | _ => .ok tree

/-- Removes what a path leads to, with all that is below it. A link is removed
itself. -/
def remove (tree : FileTree) (cwd : Place) (path : Path) : Except SysFault FileTree := do
  let (place, _) ← tree.locate .keep cwd path
  .ok (tree.erase place)

/-- Removes what is at a place, and before that all that is below it, one after the other.
This ends at what cannot be removed. -/
def clear (fuel : Nat) (tree : FileTree) (place : Place) : Option SysFault × FileTree :=
  let unlinked (tree : FileTree) : Option SysFault × FileTree :=
    if tree.allows place.dropLast 0o300 then (none, tree.erase place) else (some .denied, tree)
  match fuel, tree.get? place with
  | fuel + 1, some .directory =>
    if !tree.allows place 0o400 then (some .denied, tree)
    else
      let cleared := (tree.children place).foldl (fun (fault?, tree) (name, _) =>
        if fault?.isSome then (fault?, tree)
        else if !tree.allows place 0o100 then (some .denied, tree)
        else clear fuel tree (place ++ [name])) (none, tree)
      if cleared.1.isSome then cleared else unlinked cleared.2
  | _, _ => unlinked tree

/-- Removes a link, or a directory with all that is below it as far as that can be done. -/
def removeDirectory (tree : FileTree) (cwd : Place) (path : Path) :
    Option SysFault × FileTree :=
  match tree.locate .keep cwd path with
  | .error fault => (some fault, tree)
  | .ok (place, .directory) | .ok (place, .link _) =>
    tree.clear (tree.entries.length + 1) place
  | .ok _ => (some .notDirectory, tree)

def listingMark : Entry → String
  | .directory => "/"
  | .link _ => "@"
  | _ => ""

/-- Whether all directories on a way down from a place can be looked into. -/
def isOpen (tree : FileTree) (place : Place) (names : List String) : Bool :=
  tree.modes.isEmpty || (List.range names.length).all fun count =>
    tree.allows (place ++ names.take count) (if count + 1 < names.length then 0o500 else 0o400)

def listing (tree : FileTree) (place : Place) : List String :=
  (((tree.below place).filter fun found => tree.isOpen place found.1).map fun (names, entry) =>
    "/".intercalate names ++ listingMark entry).mergeSort fun left right => !(right < left : Bool)

end FileTree

end Assay
