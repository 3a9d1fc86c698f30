import Assay.Settings
import Assay.Text.Case

/-!
# Discovery

The fixtures of a category are the `.c` files at any depth below its directory
of source files. They are ordered by the components of their paths, so the
order does not depend on how the directories are read.
-/

namespace Assay

namespace Discovery

def isSource (path : Path) : Bool :=
  path.extension? = some "c"

def fixtureOf? (tree : FileTree) (cwd : Place) (root : Path) (category : Category)
    (source : Path) : Option Fixture :=
  source.stem?.map fun name =>
    let outputs := category.outputsDir root
    let stdin := outputs.join ⟨name ++ ".in"⟩
    { category := category.name
      name
      source
      stdin := if tree.isFile cwd stdin then some stdin else none
      expected := outputs.join ⟨name ++ ".out"⟩
      expectRejection := category.expectRejection }

def sources (files : List Path) : List Path :=
  (files.filter isSource).mergeSort Path.le

/-- The fixtures of a category, found in the order of a listing. A category
without a directory of source files has none. -/
def categoryBy (tree : FileTree) (list : Place → List (String × Entry)) (cwd : Place)
    (root : Path) (category : Category) : Except Fatal (List Fixture) :=
  let codes := category.codesDir root
  if !tree.isDirectory cwd codes then .ok []
  else
    match tree.walk list cwd codes with
    | .error fault => .error (.walk codes fault)
    | .ok files => .ok ((sources files).filterMap (fixtureOf? tree cwd root category))

def category (tree : FileTree) (cwd : Place) (root : Path) (category : Category) :
    Except Fatal (List Fixture) :=
  categoryBy tree tree.children cwd root category

def group (tree : FileTree) (cwd : Place) (root : Path) (category : Category) :
    Except Fatal Group := do
  return { category, fixtures := ← Discovery.category tree cwd root category }

def all (tree : FileTree) (cwd : Place) (settings : Settings) : Except Fatal (List Group) :=
  if tree.isDirectory cwd settings.fixtureRoot then
    settings.categories.mapM (group tree cwd settings.fixtureRoot)
  else .error (.missingFixtureRoot settings.fixtureRoot)

def occursIn (needle : List Char) : List Char → Bool
  | [] => needle.isEmpty
  | c :: rest => needle.isPrefixOf (c :: rest) || occursIn needle rest

/-- Whether the name of a fixture contains a text, whatever the case of its
letters. -/
def matchesFilter (filter : String) (fixture : Fixture) : Bool :=
  occursIn (Text.lower filter).toList (Text.lower fixture.name).toList

def filter (text : String) (groups : List Group) : List Group :=
  groups.map fun group =>
    { group with fixtures := group.fixtures.filter (matchesFilter text) }

def run (tree : FileTree) (cwd : Place) (settings : Settings) (filter : Option String) :
    Except Fatal (List Group) := do
  let groups ← all tree cwd settings
  return match filter with
    | some text => Discovery.filter text groups
    | none => groups

end Discovery

end Assay
