import ScriptCache.Shell.Builtin.Basic
import ScriptCache.Shell.Mode

/-! Builtin commands for what is refused to new files. -/
namespace ScriptCache.Shell.Builtin

/-- A number in octal digits, four at least. -/
def octalText (n : Nat) : String :=
  let digits := Nat.toDigits 8 n
  String.ofList (List.replicate (4 - digits.length) '0' ++ digits)

/-- Shows or changes the permission bits that new files are not given. -/
def umask (args : List String) : Act Nat := do
  let (found, args) ← options ['S'] args
  let mask := (← Act.scope).umask
  let change (mask : Nat) : Act Nat := do
    Act.changeScope fun s => { s with umask := mask &&& 0o777 }
    return 0
  match args with
  | [] =>
    let given := 0o777 ^^^ mask
    let text := if found.isEmpty then octalText mask
      else "u=" ++ Mode.letters (given / 0o100) ++ ",g=" ++ Mode.letters (given / 0o10) ++
        ",o=" ++ Mode.letters given
    put "umask" (text ++ "\n")
  | text :: _ =>
    if text.toList.head?.any Char.isDigit then
      match Mode.octal? text with
      | some n => change n
      | none => Act.fail ("Illegal number: " ++ text)
    else
      match Mode.symbolic mask false text (0o777 ^^^ mask) with
      | some mode => change (0o777 ^^^ (mode &&& 0o777))
      | none => Act.fail ("Illegal mode: " ++ text)

/-- How many bytes one unit of the limit of a file's size is. -/
def limitUnit : Nat := 512

/-- Shows or sets a limit. Only that of a file's size is ever set, and never raised. -/
def ulimit (args : List String) : Act Nat := do
  let (found, args) ← options ['H', 'S', 'a', 't', 'f', 'd', 's', 'c', 'm', 'l', 'p', 'n', 'v', 'w', 'r'] args
  let which := (found.reverse.find? fun c => c != 'H' && c != 'S').getD 'f'
  let fileLimit := (← Act.scope).fileLimit
  let limit := if which == 'f' then fileLimit else none
  match args with
  | [] => put "ulimit" (limit.elim "unlimited" (fun n => toString (n / limitUnit)) ++ "\n")
  | [text] =>
    let wanted? : Option (Option Nat) := if text == "unlimited" then some none
      else if !text.isEmpty && text.toList.all Char.isDigit then some (text.toNat?.map (· * limitUnit))
      else none
    match wanted? with
    | none => Act.fail "bad number"
    | some wanted =>
      let isRaised := match limit, wanted with
        | none, _ => false
        | some _, none => true
        | some limit, some wanted => limit < wanted
      if isRaised then Act.fail "error setting limit (Operation not permitted)"
      else
        if which == 'f' then Act.changeScope fun s => { s with fileLimit := wanted }
        return 0
  | _ => Act.fail "too many arguments"

end ScriptCache.Shell.Builtin
