import Assay.Cli.Options
import Assay.Settings.Source

/-!
# Effective settings

The settings of a run: the defaults, then those of the file, then those of the
command line. Paths of the file are taken from the file's directory and paths
of the command line from the working directory.
-/

namespace Assay.Cli.Options

/-- The settings of the file that the options name, anchored at the file's
directory, or the defaults. -/
def fileSettings (options : Options) (tree : FileTree) (place : Place) (cwd : Path) :
    Except Fatal Settings :=
  match options.config with
  | none => .ok {}
  | some config => do
    let path := cwd.join config
    let settings ← Settings.ofFile tree place path
    .ok (settings.anchor (path.parent?.getD cwd))

def override (options : Options) (settings : Settings) : Settings :=
  { settings with
    fixtureRoot := options.root.getD settings.fixtureRoot
    compiler := options.compiler.getD settings.compiler
    compilerArgs :=
      if options.compilerArgs.isEmpty then settings.compilerArgs else options.compilerArgs
    runtimeSupport := options.runtime.getD settings.runtimeSupport
    toolchain := options.toolchain.getD settings.toolchain
    timeoutSecs := options.timeout.getD settings.timeoutSecs
    jobs := options.jobs.getD settings.jobs }

/-- The settings that the options give in a working directory. `place` is the
directory that the process itself is in. -/
def effective (options : Options) (tree : FileTree) (place : Place) (cwd : Path) :
    Except Fatal Settings := do
  let settings ← options.fileSettings tree place cwd
  let settings ← ((options.override settings).anchor cwd).restrict options.categories
  settings.validate
  .ok settings

end Assay.Cli.Options
