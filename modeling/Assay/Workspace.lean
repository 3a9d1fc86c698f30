import Assay.Scene
import Assay.Settings
import Assay.Text.Quoted

/-!
# Workspaces

A workspace is a fresh directory for one fixture. The compiler and the
toolchain write files of fixed names, and each fixture's directory keeps them
apart from those of all others.
-/

namespace Assay

structure Workspace where
  path : Path
  assembly : Path
  executable : Path
  deriving DecidableEq, Repr

structure WorkspaceFault where
  fault : SysFault
  path : Option Path := none
  deriving DecidableEq, Repr

def WorkspaceFault.message (fault : WorkspaceFault) : String :=
  match fault.path with
  | some path => fault.fault.message ++ " at path " ++ Text.quote path.text
  | none => fault.fault.message

namespace Workspace

def suffixAlphabet : List Char :=
  "0123456789ABCDEFGHIJKLMNOPQRSTUVWXYZabcdefghijklmnopqrstuvwxyz".toList

def suffixOf : Nat → Nat → List Char
  | 0, _ => []
  | count + 1, n =>
    suffixOf count (n / 62) ++ [(suffixAlphabet[n % 62]?).getD '0']

def suffixLength : Nat := 6

/-- What the name of a workspace starts with. Slashes of the fixture's name
cannot be part of it. -/
def nameStart (id : String) : String :=
  "goldrun-" ++ id.map (fun c => if c = '/' || c = '\\' then '_' else c) ++ "-"

def name (id : String) (number : Nat) : String :=
  nameStart id ++ String.ofList (suffixOf suffixLength number)

def base (host : Host) (tree : FileTree) (settings : Settings) : Except SysFault Path :=
  let given := settings.scratchDir.getD host.tempDir
  if given.isAbsolute then .ok given else (host.cwdPath tree).map fun cwd => cwd.join given

def makeFirst (tree : FileTree) (cwd : Place) (last : Path) :
    List Path → Except WorkspaceFault (Path × FileTree)
  | [] => .error { fault := .exists, path := some last }
  | path :: paths =>
    match tree.makeDirectory cwd path with
    | .ok (_, tree) => .ok (path, tree)
    | .error .exists => makeFirst tree cwd path paths
    | .error fault => .error { fault, path := some path }

def create (host : Host) (settings : Settings) (id : String) (scene : Scene) :
    Except WorkspaceFault (Workspace × Scene) := do
  let base ← (base host scene.tree settings).mapError fun fault => { fault }
  let paths := (List.range (scene.tree.entries.length + 1)).map fun number =>
    base.join ⟨name id number⟩
  let (path, tree) ← makeFirst scene.tree host.cwd base paths
  let workspace : Workspace :=
    { path
      assembly := path.join ⟨settings.assemblyName⟩
      executable := path.join ⟨settings.executableName⟩ }
  .ok (workspace, { scene with tree }.note (.workspaceMade path id))

def enter (host : Host) (settings : Settings) (id : String) :
    Course Scene (Except WorkspaceFault Workspace) :=
  .act fun scene =>
    match create host settings id scene with
    | .ok (workspace, scene) => (.ok workspace, scene)
    | .error fault => (.error fault, scene)

def remove (host : Host) (workspace : Workspace) (scene : Scene) : Scene :=
  let (fault?, tree) := scene.tree.removeDirectory host.cwd workspace.path
  { scene with tree }.noteIf fault?.isSome (.workspaceKept workspace.path)

end Workspace

end Assay
