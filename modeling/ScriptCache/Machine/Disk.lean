import ScriptCache.Machine.Path
import ScriptCache.Machine.SysError
import ScriptCache.Text.Name

/-! The disk: files, folders and links, found by path.

What is on the disk has a number, its place in the list of nodes, and keeps it: a file
whose name is removed can still be read and written by who has it open. A path is
walked part by part from the working folder or the root. A link is replaced by its
target, forty times at most; whether the last part of a path is followed, when it is a
link, depends on what the path is wanted for. -/
namespace ScriptCache

abbrev NodeId := Nat

/-- Devices have no content. All but the full one lose what is written to them; all but the
null one can be read without end. -/
inductive Device where
  | null
  | full
  | zero
  deriving DecidableEq

/-- Whether whoever reads a device never comes to an end. -/
def Device.endless : Device → Bool
  | null => false
  | full | zero => true

inductive Node where
  | file (content : Bytes)
  | folder (entries : List (String × NodeId))
  | link (target : String)
  | device (kind : Device)
  deriving DecidableEq

structure Disk where
  nodes : List Node
  /-- The permission bits that nodes were given; the others have those of their kind. -/
  modes : List (NodeId × Nat) := []
  /-- When nodes were last changed, in nanoseconds since 1970, as far as that is known. -/
  times : List (NodeId × Int) := []
  /-- The working folder, then the folders above it up to the root. -/
  here : List NodeId
  deriving DecidableEq

/-- Where a path leads: to a node, with the entry that names it where it was reached
through one, or to a name that is free in its folder. -/
inductive Place where
  | taken (id : NodeId) (entry : Option (NodeId × String))
  | free (folder : NodeId) (name : String)
  deriving DecidableEq

/-- How far one walk along names came: to the end, or to a link with parts left. -/
inductive Stride where
  | arrived (place : Place)
  | jump (current : NodeId) (above : List NodeId) (target : String) (left : List String)
  deriving DecidableEq

namespace Disk

def root : NodeId := 0

/-- The most bytes of one name (as `Name.size` counts them), the size that no path reaches, and the
most links that are followed for one path. -/
def nameLimit : Nat := 255
def pathLimit : Nat := 4096
def linkLimit : Nat := 40

def node? (disk : Disk) (id : NodeId) : Option Node :=
  disk.nodes[id]?

/-- Walks along the parts of a path up to the first link that has to be followed.
`current` is where the walk stands, `above` the folders it stands in, innermost first. -/
def stride (disk : Disk) (follow : Bool) :
    Option (NodeId × String) → NodeId → List NodeId → List String → Except SysError Stride
  | entry, current, _, [] => .ok (.arrived (.taken current entry))
  | _, current, above, part :: rest =>
    match disk.node? current with
    | some (.folder entries) =>
      if part = "." then stride disk follow none current above rest
      else if part = ".." then
        match above with
        | [] => stride disk follow none current [] rest
        | up :: higher => stride disk follow none up higher rest
      else if nameLimit < Name.size part then .error .nameTooLong
      else
        match entries.lookup part with
        | none => if rest.isEmpty then .ok (.arrived (.free current part)) else .error .notFound
        | some id =>
          match disk.node? id with
          | some (.link target) =>
            if rest.isEmpty && !follow then .ok (.arrived (.taken id (some (current, part))))
            else .ok (.jump current above target rest)
          | _ => stride disk follow (some (current, part)) id (current :: above) rest
    | _ => .error .notFolder

/-- The parts of a path as steps of a walk: a slash at the end asks for a folder. -/
def steps (path : String) : List String :=
  Path.parts path ++ if Path.endsInSlash path then ["."] else []

/-- Walks to the end of a path, replacing at most `links` links by their targets. -/
def walk (disk : Disk) (follow : Bool) :
    Nat → NodeId → List NodeId → List String → Except SysError Place
  | links, current, above, parts =>
    match disk.stride follow none current above parts, links with
    | .error e, _ => .error e
    | .ok (.arrived place), _ => .ok place
    | .ok (.jump ..), 0 => .error .tooManyLinks
    | .ok (.jump current above target left), links + 1 =>
      if Path.isAbsolute target then walk disk follow links root [] (steps target ++ left)
      else walk disk follow links current above (steps target ++ left)

/-- A NUL ends a path for the system, so no path holds one. -/
def hasNul (path : String) : Bool :=
  path.toList.contains '\x00'

/-- Whether a text can be a path at all. -/
def checkPath (path : String) : Except SysError Unit :=
  if hasNul path then .error .nulInPath
  else if path.isEmpty then .error .notFound
  else if pathLimit ≤ Name.size path then .error .nameTooLong
  else .ok ()

/-- The folder where a path starts, and the folders above it. -/
def start (disk : Disk) (path : String) : NodeId × List NodeId :=
  match Path.isAbsolute path, disk.here with
  | false, current :: above => (current, above)
  | _, _ => (root, [])

/-- Where the given steps lead from where the path starts. -/
def locateSteps (disk : Disk) (follow : Bool) (path : String) (parts : List String) :
    Except SysError Place := do
  checkPath path
  let (current, above) := disk.start path
  walk disk follow linkLimit current above parts

/-- Where a path leads. -/
def locate (disk : Disk) (follow : Bool) (path : String) : Except SysError Place :=
  disk.locateSteps follow path (steps path)

/-- What a path leads to, all links followed. -/
def find? (disk : Disk) (path : String) : Option Node :=
  match disk.locate true path with
  | .ok (.taken id _) => disk.node? id
  | _ => none

def exists? (disk : Disk) (path : String) : Bool :=
  (disk.find? path).isSome

def isFolder (disk : Disk) (path : String) : Bool :=
  match disk.find? path with
  | some (.folder _) => true
  | _ => false

/-- Replaces what a node is. -/
def put (disk : Disk) (id : NodeId) (node : Node) : Disk :=
  { disk with nodes := disk.nodes.set id node }

/-- The permission bits of a node. -/
def mode (disk : Disk) (id : NodeId) : Nat :=
  (disk.modes.lookup id).getD (match disk.node? id with
    | some (.folder _) => 0o755
    | some (.link _) => 0o777
    | some (.device _) => 0o666
    | some (.file _) | none => 0o644)

/-- Gives a node permission bits. -/
def setMode (disk : Disk) (id : NodeId) (mode : Nat) : Disk :=
  { disk with modes := (id, mode) :: disk.modes.filter fun entry => entry.1 != id }

/-- When what has no other time was changed. -/
@[noinline] def origin : Int := 1700000000000000000

/-- When a node was last changed. -/
def time (disk : Disk) (id : NodeId) : Int :=
  (disk.times.lookup id).getD origin

/-- Gives a node a time of its last change. -/
def setTime (disk : Disk) (id : NodeId) (time : Int) : Disk :=
  { disk with times := (id, time) :: disk.times.filter fun entry => entry.1 != id }

/-- Adds a node under a free name of a folder. -/
def add (disk : Disk) (folder : NodeId) (name : String) (node : Node) : Disk :=
  match disk.node? folder with
  | some (.folder entries) =>
    { disk with
      nodes := disk.nodes.set folder (.folder (entries ++ [(name, disk.nodes.length)])) ++ [node] }
  | _ => disk

/-- Adds a folder. The path may end in slashes, and nothing may have its name. -/
def makeFolder (disk : Disk) (path : String) : Except SysError Disk := do
  match ← disk.locateSteps false path (Path.parts path) with
  | .taken .. => .error .exists
  | .free folder name => .ok (disk.add folder name (.folder []))

/-- Adds a link to any target but none. A free name with a slash after it is refused. -/
def makeLink (disk : Disk) (path target : String) : Except SysError Disk := do
  if hasNul path then throw .nulInPath
  checkPath target
  match ← disk.locateSteps false path (Path.parts path) with
  | .taken .. => .error .exists
  | .free folder name =>
    if Path.endsInSlash path then .error .notFound
    else .ok (disk.add folder name (.link target))

/-- Takes the name of a file or a link away. What stands at the end of the path is not
followed, even before a slash. -/
def unlink (disk : Disk) (path : String) : Except SysError Disk := do
  match ← disk.locateSteps false path (Path.parts path) with
  | .free .. => .error .notFound
  | .taken id entry =>
    match disk.node? id, entry with
    | some (.folder _), _ | _, none => .error .isFolder
    | _, some (folder, name) =>
      if Path.endsInSlash path then .error .notFolder
      else
        match disk.node? folder with
        | some (.folder entries) =>
          .ok (disk.put folder (.folder (entries.filter fun named => named.1 != name)))
        | _ => .error .notFolder

/-- The node behind a path that is to be read, or written in place. -/
def existing (disk : Disk) (path : String) (write : Bool) : Except SysError NodeId := do
  match ← disk.locate true path with
  | .free .. => .error .notFound
  | .taken id _ =>
    match disk.node? id, write with
    | some (.folder _), true => .error .isFolder
    | _, _ => .ok id

/-- Walks to the file that a path is to have. A slash after the last name, be it in the
path or in the target of the link that stands there, asks for a folder, and that is
refused before the name is looked at. -/
def walkToFile (disk : Disk) :
    Nat → Bool → NodeId → List NodeId → List String → Except SysError Place
  | links, true, current, above, parts => do
    let _ ← disk.walk true links current above (parts.dropLast ++ ["."])
    .error .isFolder
  | links, false, current, above, parts => do
    match ← disk.stride true none current above parts with
    | .arrived place => .ok place
    | .jump current above target left =>
      match links with
      | 0 => .error .tooManyLinks
      | links + 1 =>
        let (current, above) := if Path.isAbsolute target then (root, []) else (current, above)
        if left.isEmpty then
          walkToFile disk links (Path.endsInSlash target) current above (Path.parts target)
        else walkToFile disk links false current above (steps target ++ left)

/-- The file behind a path, made empty where there is none. -/
def ensureFile (disk : Disk) (path : String) : Except SysError (NodeId × Disk) := do
  checkPath path
  let (current, above) := disk.start path
  match ← disk.walkToFile linkLimit (Path.endsInSlash path) current above (Path.parts path) with
  | .free folder name => .ok (disk.nodes.length, disk.add folder name (.file []))
  | .taken id _ =>
    match disk.node? id with
    | some (.folder _) => .error .isFolder
    | _ => .ok (id, disk)

/-- What stands under a name in a listing. -/
inductive Listed where
  | folder
  | file (size : Nat)
  | link
  deriving DecidableEq

/-- Everything below a folder, the entries of each folder in the order of their names
and a folder before its content. Links are not followed. -/
def listing (disk : Disk) : Nat → String → NodeId → List (String × Listed)
  | 0, _, _ => []
  | depth + 1, above, id =>
    match disk.node? id with
    | some (.folder entries) =>
      let ordered := entries.mergeSort fun a b => decide (a.1 ≤ b.1)
      ordered.flatMap fun (name, id) =>
        let path := if above.isEmpty then name else above ++ "/" ++ name
        match disk.node? id with
        | some (.folder _) => (path, .folder) :: listing disk depth path id
        | some (.file content) => [(path, .file content.length)]
        | some (.device _) => [(path, .file 0)]
        | some (.link _) => [(path, .link)]
        | none => []
    | _ => []

/-- Everything in the working folder. -/
def list (disk : Disk) : List (String × Listed) :=
  disk.listing disk.nodes.length "" (disk.here.head?.getD root)

/-! ### Programs -/

/-- What can be started. -/
inductive Startable where
  /-- A file that names an installed program. -/
  | program (name : String)
  /-- A script that names the program that reads it, perhaps with an argument. -/
  | script (reader : String) (argument : Option String)
  /-- A file of neither kind. Shells take it for a script of their own. -/
  | unmarked
  deriving DecidableEq

/-- What installed programs start with; their name follows. -/
def programMark : Bytes := [0x7f, 0x45, 0x4c, 0x46, 2, 1, 1, 0, 0, 0, 0, 0, 0, 0, 0, 0]

/-- What a file that may be started is, by its content. -/
def startableOf (content : Bytes) : Startable :=
  if programMark.isPrefixOf content then .program (Name.ofBytes (content.drop programMark.length))
  else
    match content with
    | 0x23 :: 0x21 :: rest =>
      let line := rest.takeWhile (· != 0x0a)
      let isBlank (b : UInt8) := b == 0x20 || b == 0x09
      let line := ((line.dropWhile isBlank).reverse.dropWhile isBlank).reverse
      let reader := line.takeWhile fun b => !isBlank b
      let argument := (line.drop reader.length).dropWhile isBlank
      if reader.isEmpty then .unmarked
      else .script (Name.ofBytes reader) (if argument.isEmpty then none else some (Name.ofBytes argument))
    | _ => .unmarked

/-- What a path leads to that can be started. A file has to be marked as a program. -/
def startable (disk : Disk) (path : String) : Except SysError Startable := do
  match ← disk.locate true path with
  | .free .. => .error .notFound
  | .taken id _ =>
    match disk.node? id with
    | some (.file content) =>
      if disk.mode id &&& 0o111 = 0 then .error .accessDenied else .ok (startableOf content)
    | _ => .error .accessDenied

/-- The first of some folders with a startable file of a name, as the file's path. What has
the name and cannot be started is passed over, and is the error if nothing else is found. -/
def searched (disk : Disk) (name : String) : List String → Except SysError String
  | [] => .error .notFound
  | folder :: rest =>
    let path := Path.join folder name
    match disk.startable path, disk.searched name rest with
    | .ok _, _ => .ok path
    | .error .accessDenied, .error .notFound => .error .accessDenied
    | .error _, later => later

/-- The folders that programs are looked up in. -/
def programFolders : List String :=
  ["/usr/local/sbin", "/usr/local/bin", "/usr/sbin", "/usr/bin", "/sbin", "/bin"]

/-- The path of the program that a name, or a path with a slash, stands for. -/
def programPath (disk : Disk) (name : String) : Except SysError String :=
  if name.toList.contains '/' then .ok name
  else if name.isEmpty then .error .notFound
  else if nameLimit < Name.size name then .error .nameTooLong
  else disk.searched name programFolders

/-- An empty working folder, beside the folders of devices and of the given programs. -/
def withPrograms (programs : List String) : Disk where
  nodes :=
    [.folder [("bin", 5), ("dev", 1), ("etc", 10), ("root", 9), ("tmp", 6), ("usr", 7), ("work", 4)],
      .folder [("fd", 12), ("full", 2), ("null", 3), ("stderr", 15), ("stdin", 13), ("stdout", 14), ("zero", 11)],
      .device .full, .device .null, .folder [], .link "usr/bin", .folder [], .folder [("bin", 8)],
      .folder (programs.zipIdx 16), .folder [], .folder [], .device .zero, .link "/proc/self/fd",
      .link "/proc/self/fd/0", .link "/proc/self/fd/1", .link "/proc/self/fd/2"] ++
    programs.map fun name => .file (programMark ++ Utf8.encode name)
  modes := (programs.zipIdx 16).map fun (_, id) => (id, 0o755)
  here := [4, 0]

end Disk

end ScriptCache
