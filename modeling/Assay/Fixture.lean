import Assay.Path

/-!
# Fixtures

A fixture is one test of the suite: a source file, the golden text expected for
it, and possibly input for the program. Fixtures belong to categories, and a
category's fixtures form a group.
-/

namespace Assay

structure Category where
  name : String
  /-- The directory of the category below the fixture root, if it is not the
  name. -/
  dir : Option Path := none
  expectRejection : Bool := false
  deriving DecidableEq, Repr

namespace Category

def root (category : Category) (fixtureRoot : Path) : Path :=
  fixtureRoot.join (category.dir.getD ⟨category.name⟩)

def codesDir (category : Category) (fixtureRoot : Path) : Path :=
  (category.root fixtureRoot).join ⟨"codes"⟩

def outputsDir (category : Category) (fixtureRoot : Path) : Path :=
  (category.root fixtureRoot).join ⟨"outputs"⟩

end Category

structure Fixture where
  category : String
  name : String
  source : Path
  stdin : Option Path := none
  expected : Path
  expectRejection : Bool := false
  deriving DecidableEq, Repr, Inhabited

def Fixture.id (fixture : Fixture) : String :=
  fixture.category ++ "/" ++ fixture.name

/-- The fixtures of one category, in the order in which they run. -/
structure Group where
  category : Category
  fixtures : List Fixture
  deriving DecidableEq, Repr

end Assay
