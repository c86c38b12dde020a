import ScriptCache.Shell.Expansion
import ScriptCache.Shell.Program
import ScriptCache.Shell.Utility.Call

/-! Starting programs from utilities. -/
namespace ScriptCache.Shell.Utility


/-- Runs what a path leads to, under a name and with arguments. -/
abbrev Starter := String → String → List String → Act (Except SysError Nat)

/-- Starts a program by its name; `problem` is what is said if there is none. -/
def invoke (start : Starter) (tool : String) (problem : String → String) (command : List String) : Act Nat := do
  match command with
  | [] => return 0
  | name :: args =>
    let failed (e : SysError) : Act Nat := do
      complain tool (problem name ++ ": " ++ e.text)
      return if e == .notFound || e == .notFolder then 127 else 126
    match ← pathIn ((← Act.value? "PATH").getD standardFolders) name with
    | .error e => failed e
    | .ok path =>
      match ← start path name args with
      | .ok status => return status
      | .error e => failed e

def failedToRun (name : String) : String := "failed to run command " ++ quoted name

/-- Reads nothing. -/
def withoutInput (work : Act Nat) : Act Nat := do
  let nothing ← Act.addChannel (.source [])
  Act.withDescriptors (Act.setDescriptor 0 (some nothing)) work

/-- What a command of the shell writes. -/
def outputOf (start : Starter) (command : Bytes) : Act Bytes := do
  let n ← Act.addChannel (.sink [])
  let pid ← Act.fork (·.opening 1 n) do
    match ← start "/bin/sh" "sh" ["-c", Latin.ofBytes command] with
    | .ok status => return status
    | .error _ => return 127
  let bytes ← Act.gathered n
  let _ ← Act.await pid
  return bytes

end ScriptCache.Shell.Utility
