import Assay.Child.Output
import Assay.FileTree.Access

/-!
# Commands

A command is what is needed to start a process. What processes do is not known
here: a launcher runs a command on the files of the machine, under the
command's time limit.
-/

namespace Assay.Child

open Text (Bytes)

structure Command where
  /-- The program: a path, or a bare name that is looked up. -/
  program : Path
  args : List String := []
  cwd : Path
  stdin : Option Bytes := none
  limit : Nat
  deriving DecidableEq, Repr

structure Launch where
  /-- What the process left behind, or why it could not be started. -/
  result : Except SysFault Output
  tree : FileTree
  micros : Nat := 0

abbrev Launcher := Command → FileTree → Launch

end Assay.Child
