import ScriptCache.Shell.Builtin.Aliases
import ScriptCache.Shell.Builtin.Folders
import ScriptCache.Shell.Builtin.Limits
import ScriptCache.Shell.Builtin.Processes
import ScriptCache.Shell.Builtin.Reading
import ScriptCache.Shell.Builtin.Texts
import ScriptCache.Shell.Grammar

/-! The commands that are part of the shell.

They change the shell itself: its variables, arguments, options, traps and working folder. -/
namespace ScriptCache.Shell.Builtin

/-- Runs a builtin command that works on the shell alone, by its name. -/
def run? (name : String) (args : List String) : Option (Act Nat) :=
  match name with
  | ":" | "true" => some (return 0)
  | "alias" => some (listAliases args)
  | "bg" | "fg" => some (resumeJob args)
  | "false" => some (return 1)
  | "[" | "test" => some (test name args)
  | "break" => some (leaveLoops args .broke)
  | "cd" | "chdir" => some (cd args)
  | "continue" => some (leaveLoops args .continued)
  | "echo" => some (echo args)
  | "exit" => some do throw (.exited ((← givenStatus args) % 256))
  | "export" => some (mark "export" (·.exported) (fun v => { v with exported := true }) args)
  | "getopts" => some (getopts args)
  | "jobs" => some (jobs args)
  | "kill" => some (kill args)
  | "local" => some (local_ args)
  | "printf" => some (printf args)
  | "pwd" => some (pwd args)
  | "read" => some (read args)
  | "readonly" => some (mark "readonly" (·.locked) (fun v => { v with locked := true }) args)
  | "return" => some do throw (.returned (← givenStatus args))
  | "set" => some (set_ args)
  | "shift" => some (shift args)
  | "times" => some (put "times" "0m0.000000s 0m0.000000s\n0m0.000000s 0m0.000000s\n")
  | "trap" => some (trap args)
  | "ulimit" => some (ulimit args)
  | "umask" => some (umask args)
  | "unalias" => some (unalias args)
  | "unset" => some (unset args)
  | "wait" => some (wait args)
  | _ => none

/-- The builtin commands that run other commands. -/
def running : List String := [".", "command", "eval", "exec", "hash", "type"]

def isBuiltin (name : String) : Bool :=
  running.contains name || (run? name []).isSome

def isSpecial (name : String) : Bool := specialCommands.contains name

end ScriptCache.Shell.Builtin
