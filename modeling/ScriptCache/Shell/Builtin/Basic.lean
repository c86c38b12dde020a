import ScriptCache.Shell.Expansion

/-! How builtin commands are called.

A builtin command that gives up ends only itself, unless it is a special one. -/
namespace ScriptCache.Shell.Builtin

/-- The number that an argument has to be. -/
def number (text : String) : Act Nat := do
  if !text.isEmpty && text.toList.all Char.isDigit && text.toNat?.any (· < 0x80000000) then
    return text.toNat?.getD 0
  else Act.fail ("Illegal number: " ++ text)

/-- The arguments without a double dash at their start. -/
def afterDashes : List String → List String
  | "--" :: rest => rest
  | args => args

/-- The letters of options at the start of the arguments, and the arguments after them. -/
def options (known : List Char) : List String → Act (List Char × List String)
  | [] => return ([], [])
  | "--" :: rest => return ([], rest)
  | arg :: rest => do
    match arg.toList with
    | '-' :: c :: more =>
      match (c :: more).find? fun c => !known.contains c with
      | some bad => Act.fail ("Illegal option -" ++ String.singleton bad)
      | none =>
        let (found, operands) ← options known rest
        return (c :: more ++ found, operands)
    | _ => return ([], arg :: rest)

/-- Writes on the standard output, complaining if that cannot be done. -/
def put (name text : String) : Act Nat := do
  match ← Act.write 1 (Latin.toBytes text) with
  | .ok () => return 0
  | .error _ =>
    Act.complain (name ++ ": I/O error")
    return 1

/-- A text in single quotes, as a shell can read it back. -/
def inQuotes (text : String) : String :=
  "'" ++ String.ofList (text.toList.flatMap fun c =>
    if c == '\x27' then "'\"'\"'".toList else [c]) ++ "'"

end ScriptCache.Shell.Builtin
