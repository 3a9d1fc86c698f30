/-!
# How a process ended

The system tells the end of a process in one word: the code it exited with or
the signal that ended it. Some words mean neither, and only the word zero is a
success.
-/

namespace Assay.Child

/-- The end of a process, as the word that waiting for it gives. -/
structure Status where
  word : UInt32
  deriving DecidableEq, Repr

namespace Status

def ofWait (raw : Int) : Status :=
  ⟨UInt32.ofNat (raw % 4294967296).toNat⟩

def exited (code : UInt8) : Status :=
  ⟨code.toUInt32 * 256⟩

def signalled (signal : Nat) : Status :=
  ⟨UInt32.ofNat (signal % 127)⟩

/-- The bits that hold the signal. They are zero after an exit and all set for
a process that has not ended. -/
def signalBits (status : Status) : Nat :=
  status.word.toNat % 128

def exitCode? (status : Status) : Option Nat :=
  if status.signalBits = 0 then some (status.word.toNat / 256 % 256) else none

def signal? (status : Status) : Option Nat :=
  if 0 < status.signalBits ∧ status.signalBits < 127 then some status.signalBits else none

def isSuccess (status : Status) : Bool :=
  status.word == 0

/-- The exit code that a shell shows: a signal counts from 128 on. -/
def code? (status : Status) : Option Nat :=
  match status.exitCode? with
  | some code => some code
  | none => status.signal?.map (128 + ·)

end Status

end Assay.Child
