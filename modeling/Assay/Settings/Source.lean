import Assay.Settings
import Assay.Yaml.Reading

/-!
# Settings from a text

Settings are written as a YAML mapping. Every key may be left out, and then the
default holds.
-/

namespace Assay.Settings

open Yaml (Reading Problem)

/-! ## Categories -/

inductive CategoryKey where
  | name
  | dir
  | expectRejection
  | other
  deriving DecidableEq, Repr

/-- The key of a text. Unknown keys of a category are passed over. -/
def CategoryKey.ofText (text : String) : Except String CategoryKey :=
  .ok <|
    if text = "name" then .name
    else if text = "dir" then .dir
    else if text = "expect_rejection" then .expectRejection
    else .other

structure CategoryDraft where
  name : Option String := none
  dir : Option (Option Path) := none
  expectRejection : Option Bool := none

def readPath (way : String) : Reading Path := do
  return ⟨← Reading.text "path string" way⟩

def CategoryDraft.add (key : CategoryKey) (way : String) (draft : CategoryDraft) :
    Reading CategoryDraft := do
  match key with
  | .name =>
    return { draft with
      name := ← Reading.once "name" draft.name (Reading.text "a string" way) }
  | .dir =>
    return { draft with
      dir := ← Reading.once "dir" draft.dir (Reading.option (readPath way)) }
  | .expectRejection =>
    return { draft with
      expectRejection :=
        ← Reading.once "expect_rejection" draft.expectRejection (Reading.truth way) }
  | .other =>
    Reading.skip
    return draft

/-- The category of the values read. A category has a name. -/
def CategoryDraft.finish (draft : CategoryDraft) : Reading Category :=
  match draft.name with
  | some name =>
    return {
      name, dir := draft.dir.getD none, expectRejection := draft.expectRejection.getD false }
  | none => Reading.misfit "missing field `name`"

def readCategory (way : String) : Reading Category :=
  Reading.mapping "struct Category" way (Reading.key CategoryKey.ofText) CategoryDraft.add {}
    CategoryDraft.finish

/-! ## Settings -/

inductive Key where
  | fixtureRoot
  | compiler
  | compilerArgs
  | toolchain
  | runtimeSupport
  | assemblyName
  | executableName
  | scratchDir
  | timeoutSecs
  | jobs
  | categories
  deriving DecidableEq, Repr

namespace Key

def all : List Key :=
  [.fixtureRoot, .compiler, .compilerArgs, .toolchain, .runtimeSupport, .assemblyName,
    .executableName, .scratchDir, .timeoutSecs, .jobs, .categories]

def text : Key → String
  | .fixtureRoot => "fixture_root"
  | .compiler => "compiler"
  | .compilerArgs => "compiler_args"
  | .toolchain => "toolchain"
  | .runtimeSupport => "runtime_support"
  | .assemblyName => "assembly_name"
  | .executableName => "executable_name"
  | .scratchDir => "scratch_dir"
  | .timeoutSecs => "timeout_secs"
  | .jobs => "jobs"
  | .categories => "categories"

def ofText (text : String) : Except String Key :=
  match all.find? (·.text = text) with
  | some key => .ok key
  | none =>
    .error (s!"unknown field `{text}`, expected one of "
      ++ ", ".intercalate (all.map fun key => s!"`{key.text}`"))

end Key

structure Draft where
  fixtureRoot : Option Path := none
  compiler : Option Path := none
  compilerArgs : Option (List String) := none
  toolchain : Option Path := none
  runtimeSupport : Option Path := none
  assemblyName : Option String := none
  executableName : Option String := none
  scratchDir : Option (Option Path) := none
  timeoutSecs : Option Nat := none
  jobs : Option Nat := none
  categories : Option (List Category) := none

namespace Draft

def add (key : Key) (way : String) (draft : Draft) : Reading Draft := do
  let once {α : Type} (given : Option α) (reading : Reading α) :=
    Reading.once key.text given reading
  let name := Reading.text "a string"
  match key with
  | .fixtureRoot =>
    return { draft with fixtureRoot := ← once draft.fixtureRoot (readPath way) }
  | .compiler => return { draft with compiler := ← once draft.compiler (readPath way) }
  | .compilerArgs =>
    return { draft with compilerArgs := ← once draft.compilerArgs (Reading.sequence way name) }
  | .toolchain => return { draft with toolchain := ← once draft.toolchain (readPath way) }
  | .runtimeSupport =>
    return { draft with runtimeSupport := ← once draft.runtimeSupport (readPath way) }
  | .assemblyName => return { draft with assemblyName := ← once draft.assemblyName (name way) }
  | .executableName =>
    return { draft with executableName := ← once draft.executableName (name way) }
  | .scratchDir =>
    return { draft with
      scratchDir := ← once draft.scratchDir (Reading.option (readPath way)) }
  | .timeoutSecs =>
    return { draft with timeoutSecs := ← once draft.timeoutSecs (Reading.number "u64" way) }
  | .jobs => return { draft with jobs := ← once draft.jobs (Reading.number "usize" way) }
  | .categories =>
    return { draft with
      categories := ← once draft.categories (Reading.sequence way readCategory) }

def finish (draft : Draft) : Reading Settings :=
  let defaults : Settings := {}
  return {
    fixtureRoot := draft.fixtureRoot.getD defaults.fixtureRoot
    compiler := draft.compiler.getD defaults.compiler
    compilerArgs := draft.compilerArgs.getD defaults.compilerArgs
    toolchain := draft.toolchain.getD defaults.toolchain
    runtimeSupport := draft.runtimeSupport.getD defaults.runtimeSupport
    assemblyName := draft.assemblyName.getD defaults.assemblyName
    executableName := draft.executableName.getD defaults.executableName
    scratchDir := draft.scratchDir.getD defaults.scratchDir
    timeoutSecs := draft.timeoutSecs.getD defaults.timeoutSecs
    jobs := draft.jobs.getD defaults.jobs
    categories := draft.categories.getD defaults.categories }

end Draft

def reading : Reading Settings :=
  Reading.mapping "struct SuiteConfig" Problem.top (Reading.key Key.ofText) Draft.add {}
    Draft.finish

def ofText (text : String) : Except Problem Settings :=
  Yaml.readDocument reading text

def ofFile (tree : FileTree) (cwd : Place) (path : Path) : Except Fatal Settings :=
  match tree.readText cwd path with
  | .error fault => .error (.file path fault)
  | .ok text =>
    match ofText text with
    | .ok settings => .ok settings
    | .error problem => .error (.settingsSyntax path problem.message)

end Assay.Settings
