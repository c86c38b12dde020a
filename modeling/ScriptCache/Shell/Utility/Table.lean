import ScriptCache.Shell.Utility.Arguments
import ScriptCache.Shell.Utility.Checksums
import ScriptCache.Shell.Utility.Circumstances
import ScriptCache.Shell.Utility.Columns
import ScriptCache.Shell.Utility.Dates
import ScriptCache.Shell.Utility.Dump
import ScriptCache.Shell.Utility.Edit
import ScriptCache.Shell.Utility.Encodings
import ScriptCache.Shell.Utility.Files
import ScriptCache.Shell.Utility.Listing
import ScriptCache.Shell.Utility.Numbers
import ScriptCache.Shell.Utility.Row
import ScriptCache.Shell.Utility.Search
import ScriptCache.Shell.Utility.Show
import ScriptCache.Shell.Utility.Sort
import ScriptCache.Shell.Utility.System
import ScriptCache.Shell.Utility.Translate

/-! The utilities by their names. -/
namespace ScriptCache.Shell.Utility

/-- The utilities that start no others. -/
def table : List (String × (List String → Act Nat)) :=
  [("[", test "["), ("arch", fixedLine "arch" "x86_64"), ("b2sum", checksum "b2sum" "blake2b"), ("base32", base32), ("base64", base64), ("basename", basename), ("basenc", basenc), ("cat", cat), ("chmod", chmod), ("cksum", cksum),
    ("comm", comm), ("cp", cp), ("cut", cut), ("date", date), ("dirname", dirname), ("echo", echo),
    ("expand", expand), ("expr", expr), ("factor", factor), ("false", fun _ => return 1), ("fold", fold),
    ("egrep", grepAs 'E'), ("fgrep", grepAs 'F'), ("grep", grepAs 'G'),
    ("groups", fixedLine "groups" "root"), ("head", head), ("id", identity), ("install", install), ("join", join),
    ("ln", ln), ("ls", ls), ("md5sum", checksum "md5sum" "md5"), ("mkdir", mkdir), ("mv", mv), ("nl", nl), ("od", od), ("paste", paste), ("printenv", printenv),
    ("printf", printf), ("pwd", pwd), ("readlink", readlink), ("realpath", realpath), ("rev", rev), ("rm", rm), ("rmdir", rmdir),
    ("seq", seq), ("sha1sum", checksum "sha1sum" "sha1"), ("sha224sum", checksum "sha224sum" "sha224"),
    ("sha256sum", checksum "sha256sum" "sha256"), ("sha384sum", checksum "sha384sum" "sha384"),
    ("sha512sum", checksum "sha512sum" "sha512"), ("sleep", sleep), ("sort", sort), ("stat", stat), ("sum", sum), ("tac", tac), ("tail", tail), ("tee", tee),
    ("test", test "test"), ("touch", touch), ("tr", tr), ("true", fun _ => return 0), ("truncate", truncate),
    ("tty", tty), ("uname", uname), ("unexpand", unexpand), ("uniq", uniq), ("unlink", unlink), ("wc", wc),
    ("which", which), ("whoami", fixedLine "whoami" "root"), ("yes", yes)]

/-- The utilities that start other programs. -/
def startingTable : List (String × (Starter → List String → Act Nat)) :=
  [("env", env), ("nice", nice), ("nohup", nohup), ("sed", sed), ("setsid", fun start => plainly start "setsid" []),
    ("stdbuf", fun start => plainly start "stdbuf" ['i', 'o', 'e']), ("timeout", timeout), ("xargs", xargs)]

/-- The statuses of utilities that could not write, where it is not one. -/
def writeFailures : List (String × Nat) :=
  [("egrep", 2), ("env", 125), ("expr", 3), ("fgrep", 2), ("grep", 2), ("ls", 2), ("nohup", 125), ("printenv", 2),
    ("sort", 2), ("timeout", 125), ("tty", 3)]

/-- The utilities that do not know at their end any more why they could not write. -/
def earlyWriters : List String :=
  ["b2sum", "cksum", "md5sum", "sha1sum", "sha224sum", "sha256sum", "sha384sum", "sha512sum", "sort", "sum", "wc"]

/-- Does the work of a utility, and tells at its end if it could not write. -/
def finished (name : String) (work : Act Nat) : Act Nat := do
  let status ← work
  flush
  match (← Act.scope).unwritten with
  | none => return status
  | some e =>
    let closed := e == .badHandle
    if name == "rev" && closed then return status
    else
      if name == "sort" then complain name ("fflush failed: 'standard output': " ++ e.text)
      complain name ("write error" ++ if !closed && earlyWriters.contains name then "" else ": " ++ e.text)
      return (writeFailures.lookup name).getD 1

/-- Runs a utility by its name. -/
def run? (start : Starter) (name : String) (args : List String) : Option (Act Nat) :=
  match table.lookup name with
  | some work => some (finished name (work args))
  | none => (startingTable.lookup name).map fun work => finished name (work start args)

/-- The names of all programs: the shell's, and those of the utilities. -/
def programs : List String :=
  (["dash", "sh"] ++ startingTable.map Prod.fst ++ table.map Prod.fst).mergeSort fun a b => decide (a ≤ b)

end ScriptCache.Shell.Utility
