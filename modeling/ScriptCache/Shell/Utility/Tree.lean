import ScriptCache.Machine.Disk
import ScriptCache.Text.Latin

/-! Changes to the entries of folders: taking one away, giving a node another name or one
more, moving it. -/
namespace ScriptCache.Shell.Tree

/-- The entries of a folder. -/
def entries (disk : Disk) (id : NodeId) : List (String × NodeId) :=
  match disk.node? id with
  | some (.folder entries) => entries
  | _ => []

def isFolder (disk : Disk) (id : NodeId) : Bool :=
  match disk.node? id with
  | some (.folder _) => true
  | _ => false

/-- The names in a folder, in order. -/
def names (disk : Disk) (id : NodeId) : List (String × NodeId) :=
  (entries disk id).mergeSort fun a b => decide (a.1 ≤ b.1)

/-- A disk without an entry. -/
def withoutEntry (disk : Disk) (folder : NodeId) (name : String) : Disk :=
  disk.put folder (.folder ((entries disk folder).filter fun entry => entry.1 != name))

/-- A disk with an entry, in place of any of that name. -/
def withEntry (disk : Disk) (folder : NodeId) (name : String) (id : NodeId) : Disk :=
  let disk := withoutEntry disk folder name
  disk.put folder (.folder (entries disk folder ++ [(name, id)]))

/-- What stands at the end of a path, not followed if it is a link. A slash at the end asks
for a folder. -/
def at? (disk : Disk) (path : String) : Except SysError (NodeId × Option (NodeId × String)) := do
  match ← disk.locateSteps false path (Path.parts path) with
  | .free .. => .error .notFound
  | .taken id entry =>
    if Path.endsInSlash path && !isFolder disk id then .error .notFolder else .ok (id, entry)

/-- The path of a folder from the root, by the names of the folders above it. -/
def pathFrom (disk : Disk) : List NodeId → String
  | [] => ""
  | id :: above =>
    match above with
    | [] => ""
    | up :: _ =>
      let name := ((entries disk up).find? (·.2 == id)).map (Latin.ofName ·.1)
      pathFrom disk above ++ "/" ++ name.getD ""

/-- Takes an empty folder away. -/
def removeFolder (disk : Disk) (path : String) : Except SysError Disk := do
  let (id, entry) ← at? disk path
  let last := (Path.parts path).getLast?
  if !isFolder disk id then .error .notFolder
  else if last == some "." then .error .invalid
  else if last == some ".." || !(entries disk id).isEmpty then .error .notEmpty
  else
    match entry with
    | some (folder, name) => .ok (withoutEntry disk folder name)
    | none => .error .invalid

/-- Gives a node one more name. -/
def link (disk : Disk) (id : NodeId) (path : String) : Except SysError Disk := do
  match ← disk.locateSteps false path (Path.parts path) with
  | .taken .. => .error .exists
  | .free folder name =>
    if Path.endsInSlash path then .error .notFound else .ok (withEntry disk folder name id)

/-- Whether one folder stands in another, or is that one; each has a depth below the number. -/
def contains (disk : Disk) : Nat → NodeId → NodeId → Bool
  | 0, a, b => a == b
  | depth + 1, a, b => a == b || (entries disk a).any fun entry => isFolder disk entry.2 && contains disk depth entry.2 b

/-- Gives what has a path another one. What has that one goes, if it is of the same kind and,
as a folder, empty. -/
def rename (disk : Disk) (source target : String) : Except SysError Disk := do
  let (id, entry) ← at? disk source
  let (folder, name) ← match entry with
    | some entry => .ok entry
    | none => .error (.other "Device or resource busy")
  match ← disk.locateSteps false target (Path.parts target) with
  | .free above newName =>
    if Path.endsInSlash target && !isFolder disk id then .error .notFolder
    else if isFolder disk id && contains disk disk.nodes.length id above then .error .invalid
    else .ok (withEntry (withoutEntry disk folder name) above newName id)
  | .taken other otherEntry =>
    if other == id then .ok disk
    else
      match isFolder disk id, isFolder disk other, otherEntry with
      | true, false, _ => .error .notFolder
      | false, true, _ => .error .isFolder
      | _, _, none => .error (.other "Device or resource busy")
      | both, _, some (above, newName) =>
        if both && !(entries disk other).isEmpty then .error .notEmpty
        else if both && contains disk disk.nodes.length id above then .error .invalid
        else .ok (withEntry (withoutEntry disk folder name) above newName id)

/-- How many names a node has; a folder counts itself and the folders in it. -/
def linkCount (disk : Disk) (id : NodeId) : Nat :=
  match disk.node? id with
  | some (.folder entries) => 2 + (entries.filter fun entry => isFolder disk entry.2).length
  | _ => disk.nodes.foldl (fun n node => match node with
      | .folder entries => n + (entries.filter fun entry => entry.2 == id).length
      | _ => n) 0

end ScriptCache.Shell.Tree
