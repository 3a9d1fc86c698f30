import Assay.FileTree.Mode
import Assay.Tool.Paths

/-! # Where files go -/

namespace Assay.Tool

/-! ## Modes -/

def modeOf : Entry → Nat
  | .directory => 0o755
  | .file _ mode => mode
  | .link _ => 0o777
  | .device .fifo => 0o644
  | .device _ => 0o666

def modeAt (m : Machine) (p : Place) (e : Entry) : Nat :=
  match e with
  | .directory | .device _ => (m.files.mode? p).getD (modeOf e)
  | e => modeOf e

variable (flags : Flags)

/-! ## Questions and goals -/

def complainOfRoot (path : Raw) : Act Unit := do
  complain ("it is dangerous to operate recursively on ".toList ++ quote path
    ++ (if path = ['/'] then [] else " (same as ".toList ++ quote ['/'] ++ [')']))
  complain "use --no-preserve-root to override this failsafe"

def kindName : Entry → String
  | .directory => "directory"
  | .file [] _ => "regular empty file"
  | .file _ _ => "regular file"
  | .link _ => "symbolic link"
  | .device .fifo => "fifo"
  | .device _ => "character special file"

def agrees (question : Raw) : Act Bool := do
  report question
  let some i := (← read).job.stream? 0 | pure false
  match ← lift (Run.readLine i) with
  | .ok bs => pure ((Raw.ofBytes bs).head?.any fun c => c = 'y' || c = 'Y')
  | .error _ => pure false

def isConfirmed (question : Raw) : Act Bool := do
  agrees ((← read).name ++ ": " ++ question ++ "? ")

inductive Overwriting where
  | always | asked | never
  deriving DecidableEq

def overwritingOf : Overwriting :=
  match flags.last? ['f', 'i', 'n'] with
  | some 'i' => .asked
  | some 'n' => .never
  | _ => .always

def withSlash (p : Raw) : Raw := if p.getLast? = some '/' then p else p ++ "/"

def sourcesAndTarget : Act (List Raw × Raw × Bool) := do
  if flags.has 'T' then
    if flags.has 't' then
      abort 1 "cannot combine --target-directory (-t) and --no-target-directory (-T)"
    match flags.operands with
    | [] => abortUsage 1 "missing file operand"
    | [only] => abortUsage 1 ("missing destination file operand after " ++ quote only)
    | [src, t] => pure ([src], t, false)
    | _ :: _ :: extra :: _ => abortUsage 1 ("extra operand " ++ quote extra)
  else
    match flags.value? 't' with
    | some t =>
      if (flags.options.filter (·.1 = 't')).length > 1 then
        abort 1 "multiple target directories specified"
      if flags.operands.isEmpty then abortUsage 1 "missing file operand"
      pure (flags.operands, t, true)
    | none =>
      match flags.operands.reverse with
      | [] => abortUsage 1 "missing file operand"
      | [only] => abortUsage 1 ("missing destination file operand after " ++ quote only)
      | t :: sources => pure (sources.reverse, t, sources.length > 1)

def nameBelow (src : Raw) : Raw :=
  let name := lastName src
  if name = ".." then "." else if name = "/" then [] else name

def goalsFor (sources : List Raw) (t : Raw) (isForced : Bool) :
    Act (List (Raw × Raw) × Bool) := do
  let hit ← locate .follow t
  let isDirectory := hit matches .ok (_, .directory)
  if flags.has 'T' then pure (sources.map fun src => (src, t), false)
  else if isDirectory then pure (sources.map fun src => (src, withSlash t ++ nameBelow src), true)
  else if isForced then
    let err := match hit with
      | .error err => err
      | .ok _ => .notDirectory
    abort 1 ((if flags.has 't' then "target directory " else "target ").toList ++ quote t
      ++ ": " ++ faultText err)
  else pure (sources.map fun src => (src, t), false)

end Assay.Tool
