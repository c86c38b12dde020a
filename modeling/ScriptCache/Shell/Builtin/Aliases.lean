import ScriptCache.Shell.Builtin.Basic

/-! Builtin commands for the short names of commands. -/
namespace ScriptCache.Shell.Builtin

def aliasText (name value : String) : String :=
  name ++ "=" ++ inQuotes value ++ "\n"

/-- Lists aliases, or gives some their values. -/
def listAliases (args : List String) : Act Nat := do
  let rec each : List String → Act Nat
    | [] => return 0
    | arg :: rest => do
      let name := arg.toList.take 1 ++ (arg.toList.drop 1).takeWhile (· != '=')
      let status ← match arg.toList.drop name.length with
        | _ :: value => do
          Act.changeScope fun s => { s with
            aliases := Act.replaced (String.ofList name) (String.ofList value) s.aliases }
          pure 0
        | [] =>
          match (← Act.scope).aliases.lookup arg with
          | some value => put "alias" (aliasText arg value)
          | none => do
            Act.say 2 ("alias: " ++ arg ++ " not found\n")
            pure 1
      return max status (← each rest)
  if args.isEmpty then
    let known := (← Act.scope).aliases.mergeSort fun a b => decide (nameRank a.1 ≤ nameRank b.1)
    put "alias" (String.join (known.map fun (name, value) => aliasText name value))
  else each args

/-- Takes aliases away. -/
def unalias (args : List String) : Act Nat := do
  let (found, names) ← options ['a'] args
  let rec each : List String → Act Nat
    | [] => return 0
    | name :: rest => do
      let known := ((← Act.scope).aliases.lookup name).isSome
      if known then
        Act.changeScope fun s => { s with aliases := s.aliases.filter fun entry => entry.1 != name }
      else Act.say 2 ("unalias: " ++ name ++ " not found\n")
      return max (if known then 0 else 1) (← each rest)
  if !found.isEmpty then
    Act.changeScope fun s => { s with aliases := [] }
    return 0
  else each names

end ScriptCache.Shell.Builtin
