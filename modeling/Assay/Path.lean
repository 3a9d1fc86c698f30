/-!
# Paths

A path is kept as it was written and is never cleaned up. Joining and splitting
work on the text; the components of a path leave out repeated slashes, trailing
slashes, and dots other than a leading one.
-/

namespace Assay

structure Path where
  text : String
  deriving DecidableEq, Repr, Inhabited

inductive PathComponent where
  | root
  | current
  | parent
  | name (name : String)
  deriving DecidableEq, Repr

namespace PathComponent

/-- The order of components: the root, the current directory, the parent
directory, then names. -/
def rank : PathComponent → Nat
  | .root => 0
  | .current => 1
  | .parent => 2
  | .name _ => 3

def le (left right : PathComponent) : Bool :=
  match left, right with
  | .name left, .name right => !(right < left : Bool)
  | left, right => left.rank ≤ right.rank

end PathComponent

namespace Path

def pieces (text : String) : List String :=
  (text.toList.splitOn '/').map String.ofList

def isAbsolute (path : Path) : Bool :=
  path.text.startsWith "/"

/-- A path taken from a base directory. An absolute path replaces the base. -/
def join (base path : Path) : Path :=
  if path.isAbsolute then path
  else if base.text.isEmpty || base.text.endsWith "/" then ⟨base.text ++ path.text⟩
  else ⟨base.text ++ "/" ++ path.text⟩

def componentOf? (piece : String) : Option PathComponent :=
  if piece = "" ∨ piece = "." then none
  else if piece = ".." then some .parent
  else some (.name piece)

def components (path : Path) : List PathComponent :=
  match pieces path.text with
  | [] => []
  | first :: rest =>
    let lead :=
      if path.isAbsolute then [.root]
      else if first = "." then [.current]
      else (componentOf? first).toList
    lead ++ rest.filterMap componentOf?

/-- The name of the file that a path leads to: its last component, if that is
a name. -/
def fileName? (path : Path) : Option String :=
  match path.components.getLast? with
  | some (.name name) => some name
  | _ => none

/-- Splits a file name at its last dot. A name without a dot, or with no
other dot than its first character, has no extension. -/
def splitExtension (name : String) : String × Option String :=
  if name = ".." then (name, none)
  else
    let reversed := name.toList.reverse
    match reversed.dropWhile (· ≠ '.') with
    | [] => (name, none)
    | [_] => (name, none)
    | _ :: before =>
      (String.ofList before.reverse, some (String.ofList (reversed.takeWhile (· ≠ '.')).reverse))

def stem? (path : Path) : Option String :=
  path.fileName?.map fun name => (splitExtension name).1

def extension? (path : Path) : Option String :=
  path.fileName?.bind fun name => (splitExtension name).2

/-- Pieces, from the last, without those that are no components. -/
def dropIdle (reversed : List String) : List String :=
  reversed.dropWhile fun piece => (componentOf? piece).isNone

/-- The directory that holds what a path leads to: the path up to its last
component. The root and the empty path have none. -/
def parent? (path : Path) : Option Path :=
  match pieces path.text with
  | [] => none
  | first :: rest =>
    match dropIdle rest.reverse with
    | _ :: before =>
      match (dropIdle before).reverse with
      | [] => if path.isAbsolute then some ⟨"/"⟩ else some ⟨first⟩
      | kept => some ⟨"/".intercalate (first :: kept)⟩
    | [] => if path.isAbsolute || first.isEmpty then none else some ⟨""⟩

/-- Whether a list of components comes before another or equals it, component
by component. -/
def componentsLe : List PathComponent → List PathComponent → Bool
  | [], _ => true
  | _ :: _, [] => false
  | left :: lefts, right :: rights =>
    if left = right then componentsLe lefts rights else left.le right

def le (left right : Path) : Bool :=
  componentsLe left.components right.components

/-- Whether a path says where to look, rather than being a bare command
name. -/
def isExplicit (path : Path) : Bool :=
  path.isAbsolute || path.components.length > 1

/-- A path taken from a base directory unless it is a bare command name. -/
def anchorExplicit (path base : Path) : Path :=
  if path.isExplicit then base.join path else path

end Path

end Assay
