/-! Errors of the operating system.

Most have a number; the ones found before a call reaches the system have only a text. -/
namespace ScriptCache

inductive SysError where
  | notPermitted
  | notFound
  /-- A file that is to be started is no program. -/
  | notProgram
  | badHandle
  | accessDenied
  | exists
  | acrossDevices
  | notFolder
  | isFolder
  | invalid
  | tooLarge
  | noSpace
  | brokenPipe
  | nameTooLong
  | notEmpty
  | tooManyLinks
  /-- What was read is more than there is room for. -/
  | outOfMemory
  /-- A path with a NUL in it. -/
  | nulInPath
  /-- A program name or argument with a NUL in it. -/
  | nulInCommand
  /-- A file that was to be read as text is none. -/
  | notText
  /-- The source of a copy is no regular file. -/
  | notRegular
  /-- An error of another origin, known by its text alone. -/
  | other (text : String)
  deriving DecidableEq, Repr

namespace SysError

/-- The error's number, where it has one. -/
def number? : SysError → Option Nat
  | notPermitted => some 1
  | notFound => some 2
  | notProgram => some 8
  | badHandle => some 9
  | accessDenied => some 13
  | .exists => some 17
  | acrossDevices => some 18
  | notFolder => some 20
  | isFolder => some 21
  | invalid => some 22
  | tooLarge => some 27
  | noSpace => some 28
  | brokenPipe => some 32
  | nameTooLong => some 36
  | notEmpty => some 39
  | tooManyLinks => some 40
  | outOfMemory | nulInPath | nulInCommand | notText | notRegular | other _ => none

def text : SysError → String
  | notPermitted => "Operation not permitted"
  | notFound => "No such file or directory"
  | notProgram => "Exec format error"
  | badHandle => "Bad file descriptor"
  | accessDenied => "Permission denied"
  | .exists => "File exists"
  | acrossDevices => "Invalid cross-device link"
  | notFolder => "Not a directory"
  | isFolder => "Is a directory"
  | invalid => "Invalid argument"
  | tooLarge => "File too large"
  | noSpace => "No space left on device"
  | brokenPipe => "Broken pipe"
  | nameTooLong => "File name too long"
  | notEmpty => "Directory not empty"
  | tooManyLinks => "Too many levels of symbolic links"
  | outOfMemory => "out of memory"
  | nulInPath => "file name contained an unexpected NUL byte"
  | nulInCommand => "nul byte found in provided data"
  | notText => "stream did not contain valid UTF-8"
  | notRegular => "the source path is neither a regular file nor a symlink to a regular file"
  | other text => text

/-- Whether what was asked for is not allowed. -/
def forbids : SysError → Bool
  | notPermitted | accessDenied => true
  | _ => false

/-- The text, then the number in brackets where there is one. -/
def message (e : SysError) : String :=
  match e.number? with
  | some n => s!"{e.text} (os error {n})"
  | none => e.text

end SysError

end ScriptCache
