import Assay.Child.Capture
import Assay.Child.Status

/-!
# What a process leaves behind

The status, both captured streams and whether the process was still running at
its deadline.
-/

namespace Assay.Child

structure Output where
  status : Status
  stdout : Capture := {}
  stderr : Capture := {}
  /-- The process was still running at its deadline and was killed. -/
  timedOut : Bool := false
  deriving DecidableEq, Repr

namespace Output

def isSuccess (output : Output) : Bool :=
  !output.timedOut && output.status.isSuccess

def exitCode? (output : Output) : Option Nat :=
  output.status.code?

end Output

end Assay.Child
