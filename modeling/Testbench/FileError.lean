/-!
# File errors

Why an operation on files failed, and the text that is reported of it.

- `FileError`: the causes.
- `FileError.reason`, `FileError.number?`: the words and the number of a cause.
- `FileError.message`: what is reported.
-/

namespace Testbench

/-- Why an operation on files failed. -/
inductive FileError where
  /-- Nothing stands at the place. -/
  | missing
  /-- The device failed. -/
  | inputOutput
  /-- The file is no program. -/
  | notProgram
  /-- The descriptor is not open, or not for this. -/
  | badDescriptor
  /-- The file may not be run. -/
  | denied
  /-- Something stands at the place already. -/
  | occupied
  /-- A name on the way leads to no directory. -/
  | notDirectory
  /-- A directory stands at the place. -/
  | isDirectory
  /-- The path makes no sense for the operation. -/
  | invalid
  /-- The device has no room left. -/
  | noSpace
  /-- Nobody reads the pipe. -/
  | brokenPipe
  /-- A name or the whole path is too long. -/
  | nameTooLong
  /-- The directory still holds something. -/
  | notEmpty
  /-- Too many links on the way. -/
  | tooManyLinks
  /-- The path holds a NUL character. -/
  | nulInName
  /-- The file is no text. -/
  | notText
  deriving DecidableEq, Repr

/-- The error in words. -/
def FileError.reason : FileError → String
  | missing => "No such file or directory"
  | inputOutput => "Input/output error"
  | notProgram => "Exec format error"
  | badDescriptor => "Bad file descriptor"
  | denied => "Permission denied"
  | occupied => "File exists"
  | notDirectory => "Not a directory"
  | isDirectory => "Is a directory"
  | invalid => "Invalid argument"
  | noSpace => "No space left on device"
  | brokenPipe => "Broken pipe"
  | nameTooLong => "File name too long"
  | notEmpty => "Directory not empty"
  | tooManyLinks => "Too many levels of symbolic links"
  | nulInName => "file name contained an unexpected NUL byte"
  | notText => "stream did not contain valid UTF-8"

/-- The number that the host gives the error, if it gives one. -/
def FileError.number? : FileError → Option Nat
  | missing => some 2
  | inputOutput => some 5
  | notProgram => some 8
  | badDescriptor => some 9
  | denied => some 13
  | occupied => some 17
  | notDirectory => some 20
  | isDirectory => some 21
  | invalid => some 22
  | noSpace => some 28
  | brokenPipe => some 32
  | nameTooLong => some 36
  | notEmpty => some 39
  | tooManyLinks => some 40
  | nulInName => none
  | notText => none

/-- What is reported of the error: its reason and its number. -/
def FileError.message (e : FileError) : String :=
  match e.number? with
  | some n => e.reason ++ " (os error " ++ toString n ++ ")"
  | none => e.reason

end Testbench
