import ScriptCache.Shell.Builtin.Basic
import ScriptCache.Shell.Condition
import ScriptCache.Shell.Format

/-! Builtin commands that programs exist for, too. -/
namespace ScriptCache.Shell.Builtin

def echo (args : List String) : Act Nat :=
  put "echo" (echoed args)

def printf (args : List String) : Act Nat := do
  let (_, args) ← options [] args
  match args with
  | [] => Act.fail "usage: printf format [arg ...]"
  | format :: args =>
    let (s, problem) := Printf.run .shell format args
    let written ← put "printf" s.text
    s.complaints.forM Act.complain
    match problem with
    | some problem => Act.fail problem
    | none => return max written s.status

def test (name : String) (args : List String) : Act Nat := do
  if name == "[" && args.getLast? != some "]" then Act.fail "missing ]"
  match Condition.holds (Act.view (← get)) (if name == "[" then args.dropLast else args) with
  | .ok b => return if b then 0 else 1
  | .error problem => Act.fail problem

end ScriptCache.Shell.Builtin
