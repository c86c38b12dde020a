import ScriptCache.Shell.Condition
import ScriptCache.Shell.Format
import ScriptCache.Shell.Utility.Call

/-! Utilities that write what they are told, or what is known about the system and who works
with it. -/
namespace ScriptCache.Shell.Utility

/-! ### Texts -/

/-- A text with its escapes replaced, and whether one of them ends all output. An octal
number has a zero before it, and a hexadecimal one an x. -/
def echoEscapes : Nat → List Char → List Char × Bool
  | 0, _ => ([], false)
  | _, [] => ([], false)
  | fuel + 1, '\\' :: cs =>
    let after (c : Char) (rest : List Char) :=
      let (more, ended) := echoEscapes fuel rest
      (c :: more, ended)
    match cs with
    | 'c' :: _ => ([], true)
    | '0' :: rest =>
      let (c, rest) := octal rest
      after c rest
    | 'x' :: rest =>
      let digits := (rest.take 2).takeWhile fun c => (Arithmetic.digit? 16 c).isSome
      if digits.isEmpty then after '\\' cs
      else after (Char.ofNat (Arithmetic.digits 16 digits).1) (rest.drop digits.length)
    | c :: rest =>
      match escapeLetter? c with
      | some c => after c rest
      | none => after '\\' cs
    | [] => (['\\'], false)
  | fuel + 1, c :: cs =>
    let (more, ended) := echoEscapes fuel cs
    (c :: more, ended)

/-- Writes its arguments, as they are unless escapes are asked for. -/
def echo (args : List String) : Act Nat :=
  let isOption (arg : String) : Bool := match arg.toList with
    | '-' :: c :: more => (c :: more).all fun c => c == 'n' || c == 'e' || c == 'E'
    | _ => false
  let letters := (args.takeWhile isOption).flatMap fun arg => arg.toList.tail
  let text := " ".intercalate (args.dropWhile isOption)
  let escapes := (letters.reverse.find? (· != 'n')) == some 'e'
  let (out, ended) := if escapes then echoEscapes text.length text.toList else (text.toList, false)
  putText (String.ofList out ++ if ended || letters.contains 'n' then "" else "\n")

def printf (args : List String) : Act Nat := do
  match args with
  | [] => misused "printf" "missing operand"
  | format :: args =>
    let (s, problem) := Printf.run .program format args
    let written ← putText s.text
    s.complaints.forM fun text => complain "printf" text
    match problem with
    | some problem =>
      complain "printf" problem
      return 1
    | none =>
      if !args.isEmpty && s.args.length == args.length then
        complain "printf" ("warning: ignoring excess arguments, starting with " ++ quoted (args.headD ""))
      return max written s.status

/-- The status that a condition stands for. -/
def test (name : String) (args : List String) : Act Nat := do
  let args? := if name == "[" then
      if args.getLast? == some "]" then some args.dropLast else none
    else some args
  match args? with
  | none =>
    complain name "missing ']'"
    return 2
  | some args =>
    match Condition.holds (Act.view (← get)) args with
    | .ok b => return if b then 0 else 1
    | .error problem =>
      complain name problem
      return 2

/-- Writes some bytes again and again, as long as that can be done. -/
def again (bytes : Bytes) : Nat → Act Nat
  | 0 => return 0
  | fuel + 1 => do
    match ← Act.write 1 bytes with
    | .ok () => again bytes fuel
    | .error e =>
      complain "yes" ("standard output: " ++ e.text)
      return 1

/-- How many bytes are written at once where a line is repeated. -/
def repeatedBlock : Nat := 8192

/-- Writes one line again and again. -/
def yes (args : List String) : Act Nat :=
  withOptions { name := "yes", options := [], permutes := false } args fun _ operands =>
    let line := Latin.toBytes ((if operands.isEmpty then "y" else " ".intercalate operands) ++ "\n")
    again (List.replicate (max 1 (repeatedBlock / line.length)) line).flatten forever

/-! ### Variables -/

/-- The variables among others that programs are given. -/
def exportedOf (bindings : List (String × Variable)) : List (String × String) :=
  bindings.filterMap fun (name, v) => if v.exported then v.value.map fun value => (name, value) else none

/-- The variables that programs are given. -/
def exported : Act (List (String × String)) := do
  return exportedOf (← Act.scope).bindings

def printenv (args : List String) : Act Nat :=
  withOptions { name := "printenv", options := [flag '0' "null"], failure := 2 } args fun found operands => do
    let known ← exported
    let ending := if has found '0' then "\x00" else "\n"
    if operands.isEmpty then putText (String.join (known.map fun (name, value) => name ++ "=" ++ value ++ ending))
    else
      worst (operands.map fun name =>
        match known.lookup name with
        | some value => putText (value ++ ending)
        | none => return 1)

/-! ### Who and where -/

def identity (args : List String) : Act Nat :=
  withOptions { name := "id", options := [flag 'u' "user", flag 'g' "group", flag 'G' "groups", flag 'n' "name",
      flag 'r' "real", flag 'z' "zero", flag 'a' "", flag 'Z' "context"] } args fun found operands => do
    match operands.find? (· != "root") with
    | some other =>
      complain "id" (quoted other ++ ": no such user")
      return 1
    | none =>
      let single := ['u', 'g', 'G'].any (has found)
      let text := if !single then "uid=0(root) gid=0(root) groups=0(root)" else if has found 'n' then "root" else "0"
      putText (text ++ "\n")

/-- Writes one fixed line. -/
def fixedLine (name text : String) (args : List String) : Act Nat :=
  withOptions { name, options := [] } args fun _ operands =>
    match operands with
    | [] => putText (text ++ "\n")
    | extra :: _ => extraOperand name extra

def uname (args : List String) : Act Nat :=
  withOptions { name := "uname", options := [flag 'a' "all", flag 's' "kernel-name", flag 'n' "nodename",
      flag 'r' "kernel-release", flag 'v' "kernel-version", flag 'm' "machine", flag 'p' "processor",
      flag 'i' "hardware-platform", flag 'o' "operating-system"] } args fun found operands => do
    match operands with
    | extra :: _ => extraOperand "uname" extra
    | [] =>
      let parts := [('s', "Linux"), ('n', "localhost"), ('r', "6.1.0"), ('v', "#1 SMP"), ('m', "x86_64"), ('o', "GNU/Linux")]
      let wanted := if found.isEmpty then ['s'] else found.map fun o => if o.1 == 'p' || o.1 == 'i' then 'm' else o.1
      let shown := parts.filter fun part => wanted.contains 'a' || wanted.contains part.1
      putText (" ".intercalate (shown.map Prod.snd) ++ "\n")

def tty (args : List String) : Act Nat :=
  withOptions { name := "tty", options := [flag 's' "silent", flag 's' "quiet"], failure := 2 } args fun found _ => do
    if !has found 's' then
      let _ ← putText "not a tty\n"
    return 1

/-- The paths of programs. -/
def which (args : List String) : Act Nat :=
  withOptions { name := "which", options := [flag 'a' "", flag 's' ""] } args fun found operands => do
    let disk ← Act.disk
    let folders := ((← Act.value? "PATH").getD "").splitOn ":"
    if operands.isEmpty then return 1
    else
      worst (operands.map fun name => do
        let candidates := if name.toList.contains '/' then [name] else folders.map fun folder => Path.join folder name
        let startable := candidates.filter fun path => match disk.startable (Latin.toName path) with
          | .ok _ => true
          | .error _ => false
        match startable with
        | [] => return 1
        | first :: rest =>
          if has found 's' then return 0
          else putLines (if has found 'a' then first :: rest else [first]))

end ScriptCache.Shell.Utility
