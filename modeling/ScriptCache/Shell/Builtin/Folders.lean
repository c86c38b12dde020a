import ScriptCache.Shell.Builtin.Basic
import ScriptCache.Shell.Utility.Tree

/-! Builtin commands for the working folder. -/
namespace ScriptCache.Shell.Builtin

/-- A folder and the folders above it. -/
def chain (disk : Disk) : Nat → NodeId → List NodeId
  | 0, id => [id]
  | fuel + 1, id =>
    if id == Disk.root then [id]
    else
      let above := disk.nodes.findIdx? fun node => match node with
        | .folder entries => entries.any fun entry => entry.2 == id
        | _ => false
      id :: (above.elim [] (chain disk fuel))

/-- A path without the parts that lead nowhere. Exactly two slashes at its start are kept. -/
def normalized (path : String) : String :=
  let parts := (Path.parts path).foldl (fun parts part =>
    if part == "." then parts
    else if part == ".." then parts.tail
    else part :: parts) []
  (if path.startsWith "//" && !path.startsWith "///" then "//" else "/") ++ "/".intercalate parts.reverse

/-- Gives programs a variable with a value. -/
def export_ (name value : String) : Act Unit := do
  Act.assign name value
  match ← Act.variableOf? name with
  | some v => Act.putVariable name (some { v with exported := true })
  | none => return ()

/-- The options of both commands: whether links are left out of paths. -/
def physically (args : List String) : Act (Bool × List String) := do
  let (found, operands) ← options ['L', 'P'] args
  return (found.getLast? == some 'P', operands)

/-- The path of the working folder without links. -/
def physicalPath : Act String := do
  let s ← get
  let path := Tree.pathFrom s.world.disk s.scope.folder
  return if path.isEmpty then "/" else path

/-- Enters a folder, if there is one. A path that is not to be free of links is made shorter
before it is followed. -/
def enter (physical : Bool) (target : String) : Act Bool := do
  let old := (← Act.scope).path
  let path := normalized (if target.startsWith "/" then target else Path.join old target)
  let disk := (← Act.world).stored
  match disk.existing (Latin.toName (if physical then target else path)) false with
  | .error _ => return false
  | .ok id =>
    if !Tree.isFolder disk id then return false
    else
      let folder := chain disk disk.nodes.length id
      Act.changeWorld fun w => w.marking fun disk => { disk with here := folder }
      Act.changeScope fun s => { s with folder }
      export_ "OLDPWD" old
      let path ← if physical then physicalPath else pure path
      Act.changeScope fun s => { s with path }
      export_ "PWD" path
      return true

/-- Whether a path starts at the root, in the working folder or in the one above it. -/
def isAnchored (path : String) : Bool :=
  path.startsWith "/" || path == "." || path == ".." || path.startsWith "./" || path.startsWith "../"

def cd (args : List String) : Act Nat := do
  let (physical, args) ← physically args
  let asked ← match args with
    | [] => pure ((← Act.value? "HOME").getD "")
    | "-" :: _ => pure ((← Act.value? "OLDPWD").getD "")
    | path :: _ => pure path
  let target := if asked.isEmpty then "." else asked
  let list := (← Act.value? "CDPATH").filter fun _ => !isAnchored asked
  let starts := (list.map (·.splitOn ":")).getD []
  let disk := (← Act.world).stored
  let candidate (start : String) : String := if start.isEmpty then target else start ++ "/" ++ target
  let found := starts.find? fun start =>
    match disk.existing (Latin.toName (candidate start)) false with
    | .ok id => Tree.isFolder disk id
    | .error _ => false
  if ← enter physical ((found.map candidate).getD target) then
    if args.head? == some "-" || found.any (!·.isEmpty) then put "cd" ((← Act.scope).path ++ "\n") else return 0
  else Act.fail ("can't cd to " ++ asked)

def pwd (args : List String) : Act Nat := do
  let (physical, _) ← physically args
  let path ← if physical then physicalPath else do pure (← Act.scope).path
  put "pwd" (path ++ "\n")

end ScriptCache.Shell.Builtin
