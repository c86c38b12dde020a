import ScriptCache.Shell.Builtin.Basic

/-! Builtin commands for the variables, arguments and options of a shell. -/
namespace ScriptCache.Shell.Builtin

/-! ### Control -/

/-- How many loops `break` or `continue` concerns. -/
def loopCount (args : List String) : Act Nat := do
  match args with
  | [] => return 1
  | text :: _ =>
    let n ← number text
    if n == 0 then Act.fail ("Illegal number: " ++ text) else return n

def leaveLoops (args : List String) (halt : Nat → Halt) : Act Nat := do
  let n := min (← loopCount args) (← Act.scope).loops
  if n == 0 then return 0 else throw (halt n)

/-- The status that `exit` or `return` is given, or the last one. -/
def givenStatus (args : List String) : Act Nat := do
  match args with
  | [] => return (← Act.scope).status
  | text :: _ => number text

def shift (args : List String) : Act Nat := do
  let n ← match args with
    | [] => pure 1
    | text :: _ => number text
  if (← Act.scope).args.length < n then Act.fail "can't shift that many"
  Act.changeScope fun s => { s with args := s.args.drop n }
  return 0

/-! ### Variables -/

/-- A name and what follows its equals sign. -/
def nameAndValue (text : String) : String × Option String :=
  let name := text.toList.takeWhile (· != '=')
  match text.toList.drop name.length with
  | [] => (text, none)
  | _ :: value => (String.ofList name, some (String.ofList value))

def checkName (name text : String) : Act Unit := do
  if !isName name then Act.fail (text ++ ": bad variable name")

/-- Lists the variables that a mark is on. -/
def listed (command : String) (marked : Variable → Bool) : Act Nat := do
  let entries := (← Act.scope).bindings.filter fun entry => marked entry.2
  let entries := entries.mergeSort fun a b => decide (a.1 ≤ b.1)
  put command (String.join (entries.map fun (name, v) =>
    command ++ " " ++ name ++ (v.value.elim "" fun value => "=" ++ inQuotes value) ++ "\n"))

/-- Puts a mark on variables, with values if they are given. -/
def mark (command : String) (marked : Variable → Bool) (change : Variable → Variable)
    (args : List String) : Act Nat := do
  let (found, names) ← options ['p'] args
  if names.isEmpty || found.contains 'p' then listed command marked
  else
    names.forM fun text => do
      let (name, value) := nameAndValue text
      checkName name name
      match value with
      | some value => Act.assign name value
      | none => pure ()
      let v := (← Act.variableOf? name).getD { value := none }
      Act.putVariable name (some (change v))
    return 0

def unset (args : List String) : Act Nat := do
  let (found, names) ← options ['f', 'v'] args
  names.forM fun name => do
    if found.contains 'f' then
      Act.changeScope fun s => { s with functions := s.functions.filter fun f => f.1 != name }
    else
      checkName name name
      match ← Act.variableOf? name with
      | some v => if v.locked then Act.fail (name ++ ": is read only")
      | none => pure ()
      Act.putVariable name none
  return 0

/-- Makes variables local to the function that runs. -/
def local_ (args : List String) : Act Nat := do
  if (← Act.scope).locals.isEmpty then Act.fail "not in a function"
  (afterDashes args).forM fun text => do
    let (name, value) := nameAndValue text
    checkName name text
    let old ← Act.variableOf? name
    Act.changeScope fun s => { s with locals := match s.locals with
      | known :: rest => (if known.any (·.1 == name) then known else (name, old) :: known) :: rest
      | [] => [] }
    match value with
    | some value => Act.assign name value
    | none => pure ()
  return 0

/-- The names of options, with their letters. -/
def optionNames : List (String × Char) :=
  [("errexit", 'e'), ("noglob", 'f'), ("ignoreeof", 'I'), ("interactive", 'i'), ("monitor", 'm'),
    ("noexec", 'n'), ("stdin", 's'), ("xtrace", 'x'), ("verbose", 'v'), ("vi", 'V'), ("emacs", 'E'),
    ("noclobber", 'C'), ("allexport", 'a'), ("notify", 'b'), ("nounset", 'u'), ("privileged", 'p'),
    ("nolog", '\x01'), ("debug", '\x02')]

/-- Shows which options are on. -/
def showOptions : Act Nat := do
  let flags := (← Act.scope).flags
  put "set" ("Current option settings\n" ++ String.join (optionNames.map fun (name, c) =>
    name ++ String.ofList (List.replicate (16 - name.length) ' ') ++
      (if flags.contains c then "on" else "off") ++ "\n"))

def setFlag (on : Bool) (c : Char) : Act Unit := do
  if !flagOrder.contains c then
    Act.fail ("Illegal option " ++ (if on then "-" else "+") ++ String.singleton c)
  Act.changeScope fun s =>
    let others := s.flags.filter (· != c)
    { s with flags := if on then c :: others else others }

def setNamed (on : Bool) (name : String) : Act Unit := do
  match optionNames.lookup name with
  | some c => setFlag on c
  | none => Act.fail ("Illegal option " ++ (if on then "-" else "+") ++ "o " ++ name)

/-- Turns the options of one argument on or off; the arguments after it. -/
def setLetters (on : Bool) : List Char → List String → Act (List String)
  | [], rest => return rest
  | 'o' :: more, rest => do
    match rest with
    | name :: rest =>
      setNamed on name
      setLetters on more rest
    | [] => setLetters on more []
  | c :: more, rest => do
    setFlag on c
    setLetters on more rest

/-- Turns options on and off; the new arguments, if there are any. -/
def setOptions : Nat → List String → Act (Option (List String))
  | 0, _ => return none
  | _, [] => return none
  | fuel + 1, arg :: rest => do
    match arg.toList with
    | ['-', '-'] => return some rest
    | ['-'] => return if rest.isEmpty then none else some rest
    | '-' :: cs => setOptions fuel (← setLetters true cs rest)
    | '+' :: cs => setOptions fuel (← setLetters false cs rest)
    | _ => return some (arg :: rest)

def set_ (args : List String) : Act Nat := do
  if args.isEmpty then
    let entries := (← Act.scope).bindings.mergeSort fun a b => decide (a.1 ≤ b.1)
    put "set" (String.join (entries.filterMap fun (name, v) =>
      v.value.map fun value => name ++ "=" ++ inQuotes value ++ "\n"))
  else if args == ["-o"] then showOptions
  else
    match ← setOptions (args.length + 1) args with
    | some args => Act.changeScope fun s => { s with args }
    | none => pure ()
    return 0

end ScriptCache.Shell.Builtin
