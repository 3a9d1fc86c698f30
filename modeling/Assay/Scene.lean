import Assay.Child.Command
import Assay.Course

/-!
# The scene of a run

The host is what stays the same during a run: the working directory, the place
for temporary files, how commands are run, and in which order workers get on.
The scene is what changes: the files, the clock, and the notices that are logged
on the way.
-/

namespace Assay

open Child (Command Launcher Output)

structure Host where
  cwd : Place
  tempDir : Path
  launch : Launcher
  schedule : List Move := []

namespace Host

/-- The path of the working directory, if it was not removed. -/
def cwdPath (host : Host) (tree : FileTree) : Except SysFault Path :=
  if tree.get? host.cwd = some .directory then .ok host.cwd.path else .error .notFound

/-- The host once files have changed. A working directory that was removed stays removed, also
if another one is made at its place: it gets a name that no file can have. -/
def after (host : Host) (tree : FileTree) : Host :=
  match host.cwdPath tree with
  | .ok _ => host
  | .error _ =>
    { host with cwd := host.cwd.dropLast ++ host.cwd.getLast?.toList.map (· ++ "/") }

/-- A path from the working directory, or the path as it is if there is none. -/
def absolute (host : Host) (tree : FileTree) (path : Path) : Path :=
  match host.cwdPath tree with
  | .ok cwd => cwd.join path
  | .error _ => path

end Host

inductive Level where
  | warn
  | info
  | debug
  deriving DecidableEq, Repr

inductive Notice where
  | effectiveSettings
  | missingCodes (category : String) (path : Path)
  | discovered (category : String) (count : Nat)
  | suiteStarted (cases categories jobs : Nat)
  | workspaceMade (path : Path) (id : String)
  | workspaceKept (path : Path)
  | spawning (command : Command)
  | killed (limit : Nat)
  | outputCut
  | rejected (source : Path) (exitCode : Option Nat)
  | caseDone (id : String) (passed : Bool)
  deriving DecidableEq, Repr

def Notice.level : Notice → Level
  | .missingCodes _ _ | .workspaceKept _ | .killed _ => .warn
  | .suiteStarted _ _ _ | .caseDone _ _ => .info
  | _ => .debug

structure Scene where
  tree : FileTree
  log : List Notice := []
  clock : Nat := 0

namespace Scene

def note (scene : Scene) (notice : Notice) : Scene :=
  { scene with log := notice :: scene.log }

def noteIf (scene : Scene) (condition : Bool) (notice : Notice) : Scene :=
  if condition then scene.note notice else scene

def commands (scene : Scene) : List Command :=
  scene.log.reverse.filterMap fun
    | .spawning command => some command
    | _ => none

def launch (scene : Scene) (host : Host) (command : Command) :
    Except SysFault Output × Scene :=
  let scene := scene.note (.spawning command)
  let launched := host.launch command scene.tree
  let scene := { scene with tree := launched.tree, clock := scene.clock + launched.micros }
  match launched.result with
  | .error fault => (.error fault, scene)
  | .ok output =>
    (.ok output, (scene.noteIf output.timedOut (.killed command.limit)).noteIf
      (output.stdout.truncated || output.stderr.truncated) .outputCut)

end Scene

end Assay
