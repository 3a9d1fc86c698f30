/-!
# Operating system faults

What can go wrong with a file or when a program is started, with the text and
the number that the system gives it.
-/

namespace Assay

inductive SysFault where
  | notFound
  | execFormat
  | badDescriptor
  | denied
  | exists
  | notDirectory
  | isDirectory
  | invalidArgument
  | tooLarge
  | noSpace
  | nameTooLong
  | notEmpty
  | tooManyLinks
  | brokenPipe
  | illegalSeek
  | notPermitted
  | busy
  | wrongDevice
  | noTerminal
  | notText
  | zeroInPath
  | zeroInCommand
  deriving DecidableEq, Repr

namespace SysFault

def description : SysFault → String
  | .notFound => "No such file or directory"
  | .execFormat => "Exec format error"
  | .badDescriptor => "Bad file descriptor"
  | .denied => "Permission denied"
  | .exists => "File exists"
  | .notDirectory => "Not a directory"
  | .isDirectory => "Is a directory"
  | .invalidArgument => "Invalid argument"
  | .tooLarge => "File too large"
  | .noSpace => "No space left on device"
  | .nameTooLong => "File name too long"
  | .notEmpty => "Directory not empty"
  | .tooManyLinks => "Too many levels of symbolic links"
  | .brokenPipe => "Broken pipe"
  | .illegalSeek => "Illegal seek"
  | .notPermitted => "Operation not permitted"
  | .busy => "Device or resource busy"
  | .wrongDevice => "No such device or address"
  | .noTerminal => "Inappropriate ioctl for device"
  | .notText => "stream did not contain valid UTF-8"
  | .zeroInPath => "file name contained an unexpected NUL byte"
  | .zeroInCommand => "nul byte found in provided data"

/-- The number of a fault; a fault that the system itself does not raise has
none. -/
def code? : SysFault → Option Nat
  | .notFound => some 2
  | .execFormat => some 8
  | .badDescriptor => some 9
  | .denied => some 13
  | .exists => some 17
  | .notDirectory => some 20
  | .isDirectory => some 21
  | .invalidArgument => some 22
  | .tooLarge => some 27
  | .noSpace => some 28
  | .nameTooLong => some 36
  | .notEmpty => some 39
  | .tooManyLinks => some 40
  | .brokenPipe => some 32
  | .illegalSeek => some 29
  | .notPermitted => some 1
  | .busy => some 16
  | .wrongDevice => some 6
  | .noTerminal => some 25
  | .notText | .zeroInPath | .zeroInCommand => none

/-- The signal that a job gets for a fault of a write: nobody reads from the pipe, or the file
may not become so large. -/
def signal? : SysFault → Option Nat
  | .brokenPipe => some 13
  | .tooLarge => some 25
  | _ => none

def message (fault : SysFault) : String :=
  match fault.code? with
  | some code => s!"{fault.description} (os error {code})"
  | none => fault.description

end SysFault

end Assay
