import ScriptCache.Duration
import ScriptCache.Event
import ScriptCache.Machine.Disk

/-! The machine that routines run on: a disk, open files with their locks, programs, and a
clock.

Opening a path may be refused whatever is on the disk, for want of permission, say, or
because a socket stands there; what is refused is a parameter of the machine. What may not
even be looked up is not on the disk as the machine has it. Folders and links are made, and
names removed, wherever the disk has room for that. There are no pipes.

Each opening of a file is an open file of its own, and a lock belongs to one: it goes
when that open file is closed, and open files of the same routine exclude each other like
any others. Asking for a lock never waits. Others may hold files open too and close
them at a set time; time passes only while a routine sleeps or a program runs. What
programs do is a parameter of the machine: a program that is started runs to its end,
and may change the disk. -/
namespace ScriptCache

inductive LockMode where
  | shared
  | exclusive
  deriving DecidableEq, Repr

def LockMode.label : LockMode → String
  | shared => "Shared"
  | exclusive => "Exclusive"

/-- Two locks on one file exclude each other unless both are shared. -/
def LockMode.excludes : LockMode → LockMode → Bool
  | shared, shared => false
  | _, _ => true

/-- What a file is opened for. -/
inductive OpenMode where
  /-- Reading what is there. -/
  | read
  /-- Reading, and writing at the end; made empty if missing. -/
  | append
  /-- Writing over what is there; made empty if missing. -/
  | write
  /-- Writing anew: emptied, or made empty if missing. -/
  | replace
  /-- Changing what is there. -/
  | update
  deriving DecidableEq, Repr

structure OpenFile where
  node : NodeId
  /-- Where the next byte is read or written. -/
  offset : Nat := 0
  appends : Bool := false
  lock : Option LockMode := none
  deriving DecidableEq

/-- The number of an open file. -/
abbrev Handle := Nat

/-- What a program that was started leaves behind. -/
structure Finished where
  /-- The code it ended with, unless it was killed. -/
  code : Option Nat
  output : Bytes
  errors : Bytes
  /-- How much of its input it never read. -/
  unread : Nat
  /-- How many nanoseconds it took. -/
  elapsed : Nat := 0
  deriving DecidableEq

/-- Starting a program: its name, its arguments, its input and the disk, which it may
change. -/
abbrev Launcher := String → List String → Bytes → Disk → Except SysError Finished × Disk

/-- Refusing to open paths, each for some ways of opening: the error that the system has. -/
abbrev Refusals := String → OpenMode → Option SysError

structure Machine where
  disk : Disk
  launcher : Launcher
  refuses : Refusals := fun _ _ => none
  files : List (Option OpenFile) := []
  /-- Nanoseconds since the start. -/
  clock : Nat := 0
  /-- The open files that others close, each at its time. -/
  releases : List (Nat × Handle) := []
  /-- What was said, the latest first. -/
  said : List Event := []

/-- How asking for a lock ends. -/
inductive LockReply where
  | granted
  | held
  | failed (error : SysError)
  deriving DecidableEq

namespace Machine

def file? (m : Machine) (handle : Handle) : Option OpenFile :=
  m.files[handle]?.join

def setFile (m : Machine) (handle : Handle) (file : Option OpenFile) : Machine :=
  { m with files := m.files.set handle file }

/-- Opens a node. -/
def addFile (m : Machine) (file : OpenFile) : Handle × Machine :=
  (m.files.length, { m with files := m.files ++ [some file] })

/-- Whether an open file other than `handle` holds a lock on `node` that excludes
`mode`. -/
def blocked (m : Machine) (handle : Handle) (node : NodeId) (mode : LockMode) : Bool :=
  m.files.zipIdx.any fun (file, other) =>
    other != handle && match file with
      | some f => f.node == node && f.lock.any (·.excludes mode)
      | none => false

def close (m : Machine) (handle : Handle) : Machine :=
  m.setFile handle none

/-- What stands at a path that is to be opened, and the disk with a file made there if that
is what the way of opening asks for. -/
def opening (m : Machine) (path : String) (mode : OpenMode) : Except SysError (NodeId × Disk) :=
  match m.refuses path mode, mode with
  | some e, _ => .error e
  | none, .read => (m.disk.existing path false).map (·, m.disk)
  | none, .update => (m.disk.existing path true).map (·, m.disk)
  | none, .append | none, .write | none, .replace => m.disk.ensureFile path

def openFile (m : Machine) (path : String) (mode : OpenMode) : Except SysError Handle × Machine :=
  match m.opening path mode with
  | .error e => (.error e, m)
  | .ok (node, disk) =>
    let disk := match mode, disk.node? node with
      | .replace, some (.file _) => disk.put node (.file [])
      | _, _ => disk
    let (handle, m) := { m with disk }.addFile { node, appends := mode == OpenMode.append }
    (.ok handle, m)

def tryLock (m : Machine) (handle : Handle) (mode : LockMode) : LockReply × Machine :=
  match m.file? handle with
  | none => (.failed .badHandle, m)
  | some file =>
    if m.blocked handle file.node mode then (.held, m)
    else (.granted, m.setFile handle (some { file with lock := some mode }))

def unlock (m : Machine) (handle : Handle) : Machine :=
  match m.file? handle with
  | none => m
  | some file => m.setFile handle (some { file with lock := none })

/-- Lets some nanoseconds pass, and with them the closings that fall due. -/
def pass (m : Machine) (nanoseconds : Nat) : Machine :=
  let clock := m.clock + nanoseconds
  let due := m.releases.filter fun release => release.1 ≤ clock
  let m := { m with clock, releases := m.releases.filter fun release => clock < release.1 }
  due.foldl (fun m release => m.close release.2) m

/-- Runs a program to its end. -/
def launch (m : Machine) (program : String) (args : List String) (input : Bytes) :
    Except SysError Finished × Machine :=
  let (reply, disk) := m.launcher program args input m.disk
  let m := { m with disk }
  match reply with
  | .error e => (.error e, m)
  | .ok finished => (.ok finished, m.pass finished.elapsed)

/-- Leaves an open file to others, who close it after a span of time. -/
def closeLater (m : Machine) (handle : Handle) (span : Duration) : Machine :=
  { m with releases := m.releases ++ [(m.clock + span.nanoseconds, handle)] }

/-- Reads from where the open file stands to the end. What has no end takes up all memory. -/
def readRest (m : Machine) (handle : Handle) : Except SysError Bytes × Machine :=
  match m.file? handle with
  | none => (.error .badHandle, m)
  | some file =>
    match m.disk.node? file.node with
    | some (.file content) =>
      (.ok (content.drop file.offset),
        m.setFile handle (some { file with offset := Nat.max file.offset content.length }))
    | some (.folder _) => (.error .isFolder, m)
    | some (.device kind) => (if kind.endless then .error .outOfMemory else .ok [], m)
    | some (.link _) | none => (.ok [], m)

/-- The first `n` bytes of a content, filled up with zeros. -/
def resized (content : Bytes) (n : Nat) : Bytes :=
  content.take n ++ List.replicate (n - content.length) 0

/-- A content with some bytes in it overwritten, zeros between its end and the first of
them. -/
def overwritten (content : Bytes) (at_ : Nat) (bytes : Bytes) : Bytes :=
  resized content at_ ++ bytes ++ content.drop (at_ + bytes.length)

def setLength (m : Machine) (handle : Handle) (n : Nat) : Except SysError Unit × Machine :=
  match m.file? handle with
  | none => (.error .badHandle, m)
  | some file =>
    match m.disk.node? file.node with
    | some (.file content) =>
      (.ok (), { m with disk := m.disk.put file.node (.file (resized content n)) })
    | _ => (.error .invalid, m)

def write (m : Machine) (handle : Handle) (bytes : Bytes) : Except SysError Unit × Machine :=
  match m.file? handle with
  | none => (.error .badHandle, m)
  | some file =>
    if bytes.isEmpty then (.ok (), m)
    else
      match m.disk.node? file.node with
      | some (.file content) =>
        let at_ := if file.appends then content.length else file.offset
        let disk := m.disk.put file.node (.file (overwritten content at_ bytes))
        (.ok (), { m with disk }.setFile handle (some { file with offset := at_ + bytes.length }))
      | some (.device .null) | some (.device .zero) => (.ok (), m)
      | _ => (.error .noSpace, m)

/-- Waits until what was written to an open file is kept. A device keeps nothing. -/
def sync (m : Machine) (handle : Handle) : Except SysError Unit :=
  match m.file? handle with
  | none => .error .badHandle
  | some file =>
    match m.disk.node? file.node with
    | some (.device _) => .error .invalid
    | _ => .ok ()

/-- Gives one open file's node the permission bits of another's. -/
def copyMode (m : Machine) (source target : Handle) : Machine :=
  match m.file? source, m.file? target with
  | some a, some b => { m with disk := m.disk.setMode b.node (m.disk.mode a.node) }
  | _, _ => m

def isRegular (m : Machine) (handle : Handle) : Bool :=
  match (m.file? handle).bind fun file => m.disk.node? file.node with
  | some (.file _) => true
  | _ => false

/-- Takes over a changed disk, or reports why there is none. -/
def changeDisk (m : Machine) : Except SysError Disk → Except SysError Unit × Machine
  | .ok disk => (.ok (), { m with disk })
  | .error e => (.error e, m)

/-- The open files that hold a lock, with the node and the mode. -/
def locks (m : Machine) : List (Handle × NodeId × LockMode) :=
  m.files.zipIdx.filterMap fun (file, handle) => do
    let file ← file
    let mode ← file.lock
    some (handle, file.node, mode)

end Machine

end ScriptCache
