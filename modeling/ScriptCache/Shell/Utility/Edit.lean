import ScriptCache.Shell.Edit.Running
import ScriptCache.Shell.Utility.Start

/-! The utility that edits lines. -/
namespace ScriptCache.Shell.Utility

def sedUsage : Usage where
  name := "sed"
  options := [flag 'n' "quiet", flag 'n' "silent", wordFlag '\x01' "debug", valued 'e' "expression",
    valued 'f' "file", wordFlag '\x02' "follow-symlinks", { key := 'i', word := "in-place", takes := .attached },
    valued 'l' "line-length", wordFlag '\x03' "posix", flag 'E' "regexp-extended", flag 'r' "",
    flag 's' "separate", wordFlag '\x04' "sandbox", flag 'u' "unbuffered", flag 'z' "null-data",
    flag 'z' "zero-terminated", wordFlag '\x05' "version", flag 'h' "help"]

/-- The pieces of a script that options give. -/
def scriptPieces : Nat → List (Char × String) → Act (Except Edit.Fault (List (Edit.Origin × String)))
  | _, [] => return .ok []
  | n, ('e', text) :: rest => do
    return (← scriptPieces (n + 1) rest).map fun more => (.expression n, text) :: more
  | n, ('f', name) :: rest => do
    match ← content name with
    | .error e => return .error (.whole ("couldn't open file " ++ name ++ ": " ++ e.text))
    | .ok bytes =>
      return (← scriptPieces n rest).map fun more => (.file name, Latin.ofBytes bytes) :: more
  | n, _ :: rest => scriptPieces n rest

/-- Empties the files that a script writes. -/
def openTargets : List String → Act (Except String Unit)
  | [] => return .ok ()
  | name :: rest => do
    if name == "/dev/stdout" || name == "/dev/stderr" then openTargets rest
    else
      match ← Act.openFile name .replace with
      | .ok _ => openTargets rest
      | .error e => return .error ("couldn't open file " ++ name ++ ": " ++ e.text)

/-- Writes to a file that was emptied. -/
def writeTarget (name : String) (bytes : Bytes) : Act Unit := do
  if name == "/dev/stdout" then
    let _ ← Act.write 1 bytes
  else
    match ← Act.openFile name .update with
    | .error _ => return ()
    | .ok n =>
      let _ ← Act.withDescriptors (Act.setDescriptor 3 (some n)) (Act.write 3 bytes)

/-- Edits lines. What is written to files by name shows once all is done. -/
def sed (start : Starter) (args : List String) : Act Nat :=
  withOptions sedUsage args fun found operands => do
    let failed (fault : Edit.Fault) : Act Nat := do
      complain "sed" fault.text
      return fault.status
    let given := has found 'e' || has found 'f'
    if has found '\x05' then putText "sed (GNU sed) 4.9\n"
    else if !given && operands.isEmpty then
      Act.say 2 "Usage: sed [OPTION]... \x7bscript-only-if-no-other-script\x7d [input-file]...\n"
      return 1
    else
      let pieces ← if given then scriptPieces 1 found
        else pure (.ok [(.expression 1, operands.headD "")])
      let files := if given then operands else operands.tail
      match pieces with
      | .error fault => failed fault
      | .ok pieces =>
        let (program, targets) := Edit.Program.read (has found 'E' || has found 'r') (has found '\x04') pieces
        match ← openTargets targets, program with
        | .error problem, _ => failed (.whole problem)
        | .ok (), .error fault => failed fault
        | .ok (), .ok program =>
          let inPlace := valueOf? found 'i'
          let manner : Edit.Manner := {
            mark := if has found 'z' then 0 else 10
            quiet := has found 'n' || program.quiet
            separate := has found 's' || inPlace.isSome
            inPlace, unbuffered := has found 'u', posix := has found '\x03'
            width := ((valueOf? found 'l').bind decimal?).getD 70
            perform := outputOf start }
          if inPlace.isSome && files.isEmpty then return ← failed (.whole "no input files")
          let (status, session) ← Edit.Editor.edit manner program.instructions (sources files)
          session.targets.forM fun (name, o) => writeTarget name o.bytes
          let _ ← put session.output.bytes
          flush
          let failed (problem : String) (e : SysError) : Act Nat := do
            Act.changeScope fun s => { s with unwritten := none }
            complain "sed" (problem ++ ": " ++ e.text)
            return 4
          match (← Act.scope).unwritten with
          | none => return status
          | some .badHandle => failed "couldn't close stdout" .badHandle
          | some e => failed "couldn't flush stdout" e

end ScriptCache.Shell.Utility
