import ScriptCache.Machine.Files
import ScriptCache.Slot.Metadata

/-! Info files on the disk, read against the build at hand.

A file that is missing, unreadable or malformed, and one that tells of another build, are
all answers. Only a file that announces a text that there is no room for breaks the reading
off. -/
namespace ScriptCache

/-- What makes a well-formed info file useless. -/
inductive StaleReason where
  | dependencies
  | signature
  deriving DecidableEq

def StaleReason.label : StaleReason → String
  | dependencies => "Dependencies"
  | signature => "ConfigSignature"

/-- Why an info file that is there tells nothing. -/
inductive CorruptReason where
  | unreadable (error : SysError)
  | malformed (flaw : InfoFlaw)
  deriving DecidableEq

def CorruptReason.message : CorruptReason → String
  | unreadable error => s!"unreadable: {error.message}"
  | malformed flaw => flaw.message

/-- What reading an info file finds. -/
inductive InfoOutcome where
  | missing
  | corrupt (reason : CorruptReason)
  | stale (reason : StaleReason)
  | valid (metadata : Metadata)
  | brokenOff
  deriving DecidableEq

namespace InfoOutcome

def isValid : InfoOutcome → Bool
  | valid _ => true
  | _ => false

def metadata? : InfoOutcome → Option Metadata
  | valid m => some m
  | _ => none

end InfoOutcome

namespace Metadata

/-- What some metadata is worth to a build. -/
def judge (m : Metadata) (dependencies : DependencyTable) (signature : Bytes) : InfoOutcome :=
  if !m.dependencies.same dependencies then .stale .dependencies
  else if m.signature ≠ signature then .stale .signature
  else .valid m

def corruptFile (path : String) (flaw : InfoFlaw) : Event where
  level := .debug
  message := "corrupt info file"
  fields := [.text "path" path, .text "reason" flaw.message]

variable [Wire.Memory]

/-- Reads the info file at a path. -/
def inspect (path : String) (dependencies : DependencyTable) (signature : Bytes) :
    Routine InfoOutcome := do
  match ← Files.read path with
  | .error .notFound => return .missing
  | .error e => return .corrupt (.unreadable e)
  | .ok raw =>
    match decode raw with
    | .error flaw =>
      if flaw.breaksOff then return .brokenOff
      Routine.say (corruptFile path flaw)
      return .corrupt (.malformed flaw)
    | .ok m => return m.judge dependencies signature

/-- Writes the info file at a path, in place of any other. -/
def save (m : Metadata) (path : String) : Routine (Except SysError Unit) :=
  Files.write path m.encode

end Metadata

end ScriptCache
