import Assay.Cli.Program
import Assay.Machine.Image

/-!
# The command line

Reads a machine image from standard input, runs the command on that machine and
writes what it writes.
-/

namespace Assay

def homePlace : Place := ["work"]

def homeHost : Host :=
  { cwd := homePlace
    tempDir := ⟨"/tmp"⟩
    launch := Machine.launcher
      [("PATH", "/usr/bin:/bin"), ("HOME", "/root"), ("LC_CTYPE", "C.UTF-8"), ("TMPDIR", "/tmp")]
    schedule := Move.rounds 8 100 }

partial def readAll (stream : IO.FS.Stream) (text : String) : IO String := do
  let line ← stream.getLine
  if line.isEmpty then pure text else readAll stream (text ++ line)

end Assay

open Assay in
/-- Runs the command on the machine that standard input describes. -/
def main (args : List String) : IO UInt32 := do
  let image ← readAll (← IO.getStdin) ""
  match Machine.ofImage? homePlace image with
  | none =>
    IO.eprintln "the machine image cannot be read"
    pure 2
  | some tree =>
    let reply := Cli.program homeHost args { tree }
    IO.print reply.stdout
    for notice in reply.notices do
      IO.eprintln (repr notice)
    for error in reply.usage do
      IO.eprintln (repr error)
    for fatal in reply.fatal do
      IO.eprintln fatal.message
    pure (UInt32.ofNat reply.exitCode)
