import Assay.Verdict
import Assay.Workspace

/-!
# Stages

A fixture is compiled, built and run, each by one command in its workspace.
What goes wrong in a stage is a result; only a command that cannot be started
or an input that cannot be read is a fault. Other fixtures may be run at the
same time, so a stage is a course on the scene.
-/

namespace Assay

open Child (Command Output)

inductive CaseFault where
  | workspace (fault : WorkspaceFault)
  | start (what : String) (program : Path) (fault : SysFault)
  | stdin (path : Path) (fault : SysFault)
  deriving DecidableEq, Repr

def CaseFault.message : CaseFault → String
  | .workspace fault => s!"cannot create workspace: {fault.message}"
  | .start what program fault => s!"failed to run {what} '{program.text}': {fault.message}"
  | .stdin path fault => s!"failed to read stdin fixture '{path.text}': {fault.message}"

inductive CompileOutcome where
  | compiled (assembly : Path)
  | rejected (text : String)
  | timedOut
  deriving DecidableEq, Repr

/-- A text that was seen, without blanks around it. -/
structure Observation where
  text : String
  truncated : Bool := false
  deriving DecidableEq, Repr

inductive RunOutcome where
  | completed (stdout : Observation)
  | buildFailed (text : String)
  | crashed (exitCode : Option Nat) (stdout : Observation)
  | timedOut (stage : Stage) (stdout : Observation)
  deriving DecidableEq, Repr

namespace Stages

def limit (settings : Settings) : Nat :=
  settings.timeoutSecs * 1000

def compiler (settings : Settings) (source : Path) (workspace : Workspace) : Command :=
  { program := settings.compiler
    args := settings.compilerArgs ++ [source.text]
    cwd := workspace.path
    limit := limit settings }

def launch (host : Host) (command : Command) : Course Scene (Except SysFault Output) :=
  .act fun scene => scene.launch host command

def compile (host : Host) (settings : Settings) (source : Path) (workspace : Workspace) :
    Course Scene (Except CaseFault CompileOutcome) := do
  let source ← .look fun scene => host.absolute scene.tree source
  match ← launch host (compiler settings source workspace) with
  | .error fault => return .error (.start "compiler" settings.compiler fault)
  | .ok output =>
    if output.timedOut then return .ok .timedOut
    else if output.status.isSuccess then return .ok (.compiled workspace.assembly)
    else
      .change fun scene => scene.note (.rejected source output.exitCode?)
      return .ok (.rejected (Text.trim output.stderr.text))

def toolchain (settings : Settings) (assembly : Path) (workspace : Workspace) : Command :=
  { program := settings.toolchain
    args := ["-o", workspace.executable.text, assembly.text, settings.runtimeSupport.text]
    cwd := workspace.path
    limit := limit settings }

def exitText : Option Nat → String
  | some code => s!"Some({code})"
  | none => "None"

def buildDiagnostic (output : Output) : String :=
  let text := Text.trim output.stderr.text
  if text.isEmpty then s!"toolchain exited with {exitText output.exitCode?}" else text

def isFile (host : Host) (path : Path) : Course Scene Bool :=
  .look fun scene => scene.tree.isFile host.cwd path

/-- Builds the executable from the assembly. Gives what went wrong, if
anything. -/
def build (host : Host) (settings : Settings) (assembly : Path) (workspace : Workspace) :
    Course Scene (Except CaseFault (Option RunOutcome)) := do
  if !(← isFile host assembly) then
    return .ok (some (.buildFailed s!"compiler succeeded but wrote no '{settings.assemblyName}'"))
  else
    match ← launch host (toolchain settings assembly workspace) with
    | .error fault => return .error (.start "toolchain" settings.toolchain fault)
    | .ok output =>
      if output.timedOut then return .ok (some (.timedOut .build { text := "" }))
      else if !output.status.isSuccess then
        return .ok (some (.buildFailed (buildDiagnostic output)))
      else if !(← isFile host workspace.executable) then
        return .ok (some (.buildFailed "toolchain succeeded but produced no executable"))
      else return .ok none

def program (settings : Settings) (workspace : Workspace) (stdin : Option Text.Bytes) :
    Command :=
  { program := workspace.executable, cwd := workspace.path, stdin, limit := limit settings }

def runOutcome (output : Output) : RunOutcome :=
  let stdout : Observation :=
    { text := Text.trim output.stdout.text, truncated := output.stdout.truncated }
  if output.timedOut then .timedOut .run stdout
  else if output.status.isSuccess then .completed stdout
  else .crashed output.exitCode? stdout

def readInput (host : Host) (scene : Scene) : Option Path → Except CaseFault (Option Text.Bytes)
  | none => .ok none
  | some path =>
    match scene.tree.read host.cwd path with
    | .ok bytes => .ok (some bytes)
    | .error fault => .error (.stdin path fault)

def execute (host : Host) (settings : Settings) (stdin : Option Path) (workspace : Workspace) :
    Course Scene (Except CaseFault RunOutcome) := do
  match ← .look fun scene => readInput host scene stdin with
  | .error fault => return .error fault
  | .ok input =>
    match ← launch host (program settings workspace input) with
    | .error fault => return .error (.start "program" workspace.executable fault)
    | .ok output => return .ok (runOutcome output)

end Stages

end Assay
