import Assay.Text.Utf8

/-!
# Captured output

A reader takes all that a process writes to a pipe but keeps only as many bytes
as the cap allows. It goes on reading past the cap, so that the process is
never held up, and flags the capture as truncated.
-/

namespace Assay.Child

open Text (Bytes)

/-- What one read of a stream gives. With a chunk comes whether the capture had been given up
when it was looked at; no bytes are the end of the stream. -/
inductive Read (Fault : Type) where
  | chunk (bytes : Bytes) (abandoned : Bool := false)
  | interrupted
  | failed (fault : Fault)
  deriving DecidableEq, Repr

structure Capture where
  bytes : Bytes := []
  truncated : Bool := false
  deriving DecidableEq, Repr

namespace Capture

def absorb (cap : Nat) (capture : Capture) (chunk : Bytes) : Capture :=
  if capture.truncated then capture
  else
    let room := cap - capture.bytes.length
    if chunk.length ≤ room then { bytes := capture.bytes ++ chunk, truncated := false }
    else { bytes := capture.bytes ++ chunk.take room, truncated := true }

variable {Fault : Type}

/-- Reads until the stream ends, a read fails or the capture is given up. Beside the result stand
the reads that were not asked for. -/
def readAll (cap : Nat) (capture : Capture) :
    List (Read Fault) → Except Fault Capture × List (Read Fault)
  | [] => (.ok capture, [])
  | .chunk bytes abandoned :: reads =>
    if bytes.isEmpty || abandoned then (.ok capture, reads)
    else readAll cap (capture.absorb cap bytes) reads
  | .interrupted :: reads => readAll cap capture reads
  | .failed fault :: reads => (.error fault, reads)

def ofReads (cap : Nat) (reads : List (Read Fault)) : Except Fault Capture × List (Read Fault) :=
  readAll cap {} reads

def ofBytes (cap : Nat) (bytes : Bytes) : Capture :=
  ({} : Capture).absorb cap bytes

def text (capture : Capture) : String :=
  Text.decodeLossy capture.bytes

end Capture

def stdoutCap : Nat := 1024 * 1024

def stderrCap : Nat := 256 * 1024

end Assay.Child
