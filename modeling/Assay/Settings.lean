import Assay.Fatal
import Assay.Fixture

/-!
# Settings

All that is known before the first fixture is looked for: where the fixtures
and tools are, the limits, and the categories.
-/

namespace Assay

def defaultCategories : List Category :=
  [{ name := "algorithm" }, { name := "function" }, { name := "error", expectRejection := true }]

structure Settings where
  fixtureRoot : Path := ⟨"test"⟩
  compiler : Path := ⟨"../myComp"⟩
  /-- What stands before the source on the compiler's command line. -/
  compilerArgs : List String := []
  toolchain : Path := ⟨"cc"⟩
  runtimeSupport : Path := ⟨"../lib/printint.c"⟩
  /-- The file that the compiler writes in its working directory. -/
  assemblyName : String := "out.s"
  executableName : String := "out"
  /-- Where workspaces are made, if not in the system's temporary directory. -/
  scratchDir : Option Path := none
  timeoutSecs : Nat := 10
  jobs : Nat := 1
  categories : List Category := defaultCategories
  deriving DecidableEq, Repr

namespace Settings

/-- The first flaw of a list of categories. `seen` holds the names before. -/
def categoriesFlaw? (seen : List String) : List Category → Option SettingsFlaw
  | [] => none
  | category :: rest =>
    if category.name.isEmpty then some .emptyCategoryName
    else if category.name ∈ seen then some (.repeatedCategory category.name)
    else categoriesFlaw? (category.name :: seen) rest

def flaw? (settings : Settings) : Option SettingsFlaw :=
  if settings.categories.isEmpty then some .noCategory
  else
    match categoriesFlaw? [] settings.categories with
    | some flaw => some flaw
    | none =>
      if settings.jobs = 0 then some .noJobs
      else if settings.timeoutSecs = 0 then some .noTimeout
      else if settings.assemblyName.isEmpty || settings.executableName.isEmpty then
        some .emptyArtifactName
      else none

def validate (settings : Settings) : Except Fatal Unit :=
  match settings.flaw? with
  | some flaw => .error (.invalidSettings flaw)
  | none => .ok ()

def categoryNames (settings : Settings) : List String :=
  settings.categories.map Category.name

/-- Keeps the named categories, in the order of the settings. With no names all
are kept. -/
def restrict (settings : Settings) (names : List String) : Except Fatal Settings :=
  if names.isEmpty then .ok settings
  else
    match names.find? fun name => !settings.categoryNames.contains name with
    | some name => .error (.unknownCategory name settings.categoryNames)
    | none =>
      .ok { settings with
        categories := settings.categories.filter fun category => names.contains category.name }

/-- Looks a name up in the settings as they are. -/
def requireCategory (name : String) : ExceptT Fatal (StateM Settings) Unit := do
  let settings ← get
  if settings.categoryNames.contains name then return ()
  else throw (.unknownCategory name settings.categoryNames)

/-- Restricts settings where they are: one pass looks all names up, and another one drops
categories. -/
def restrictInPlace (names : List String) : ExceptT Fatal (StateM Settings) Unit := do
  if names.isEmpty then return ()
  names.forM requireCategory
  modify fun settings => { settings with
    categories := settings.categories.filter fun category => names.contains category.name }

/-- Takes the paths of the settings from a base directory. Bare command names
are left to be looked up when they are run. -/
def anchor (base : Path) (settings : Settings) : Settings :=
  { settings with
    fixtureRoot := base.join settings.fixtureRoot
    runtimeSupport := base.join settings.runtimeSupport
    scratchDir := settings.scratchDir.map base.join
    compiler := settings.compiler.anchorExplicit base
    toolchain := settings.toolchain.anchorExplicit base }

def checkTools (settings : Settings) (tree : FileTree) (cwd : Place) : Except Fatal Unit :=
  if !tree.isDirectory cwd settings.fixtureRoot then
    .error (.missingFixtureRoot settings.fixtureRoot)
  else if settings.compiler.isExplicit && !tree.isFile cwd settings.compiler then
    .error (.missingCompiler settings.compiler)
  else if !tree.isFile cwd settings.runtimeSupport then
    .error (.missingRuntimeSupport settings.runtimeSupport)
  else
    match settings.scratchDir with
    | some scratch =>
      if tree.isDirectory cwd scratch then .ok ()
      else .error (.invalidSettings (.scratchNotDirectory scratch))
    | none => .ok ()

end Settings

end Assay
