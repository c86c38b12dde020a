import ScriptCache.Shell.State

/-! Finding programs.

A name stands for the first file in the folders of `PATH` that can be started, a path with
a slash for the file that it leads to. A script stands for the program that it names, with
the script among its arguments; scripts may name scripts, but not without end. -/
namespace ScriptCache.Shell

/-- A program to be started, with the name that it is called by. -/
structure Start where
  program : String
  name : String
  args : List String

/-- What a path stands for, where some programs are installed. -/
def resolve (disk : Disk) (installed : List String) : Nat → String → String → List String → Except SysError Start
  | 0, _, _, _ => .error .tooManyLinks
  | fuel + 1, path, name, args => do
    match ← disk.startable (Latin.toName path) with
    | .unmarked => .error .notProgram
    | .program program =>
      if installed.contains program then .ok ⟨program, name, args⟩ else .error .notProgram
    | .script reader argument =>
      let reader := Latin.ofName reader
      resolve disk installed fuel reader reader ((argument.map Latin.ofName).toList ++ path :: args)

/-- How many times scripts may name scripts. -/
def scriptLimit : Nat := 5

/-- The path of the file that a command name stands for, if it is looked up in some folders.
One that holds the name but no program under it decides the error. -/
def pathIn (folders name : String) : Act (Except SysError String) := do
  let disk ← Act.disk
  if name.toList.contains '/' then
    return (disk.startable (Latin.toName name)).map fun _ => name
  else
    let rec search (reason : SysError) : List String → Except SysError String
      | [] => .error reason
      | folder :: rest =>
        let path := Path.join folder name
        match disk.startable (Latin.toName path) with
        | .ok _ => .ok path
        | .error .notFound | .error .notFolder => search reason rest
        | .error e => search e rest
    return search .notFound (folders.splitOn ":")

/-- The folders that commands are looked up in. -/
def commandFolders : Act String :=
  return (← Act.value? "PATH").getD ""

/-- The folders that a program looks others up in where there is no `PATH`. -/
def standardFolders : String := "/bin:/usr/bin"

/-- The same for a shell, which remembers where it has found a program. -/
def commandPath (name : String) : Act (Except SysError String) := do
  let found ← pathIn (← commandFolders) name
  match found, name.toList.contains '/' with
  | .ok path, false => Act.changeScope fun s => { s with hashed := Act.replaced name path s.hashed }
  | _, _ => pure ()
  return found

/-- The place of a command in the table of those that were found, which is the order of their
listing. -/
def commandRank (name : String) : Nat :=
  match name.toList with
  | [] => 0
  | c :: rest => (rest.foldl (fun n c => n + c.toNat) (c.toNat * 17)) % 0x8000 % 31

/-- Why a program was not started, in the words of a shell. -/
def startProblem (e : SysError) : String :=
  if e == .notFound || e == .notFolder then "not found" else e.text

end ScriptCache.Shell
