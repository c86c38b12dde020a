import ScriptCache.Shell.Schedule

/-! Starting programs on a disk.

A program reads its input, writes two outputs and may change the disk, and so may what it
starts. What it is called with reaches it byte by byte. -/
namespace ScriptCache.Shell

/-- The variables that programs are given. -/
def environment : List (String × String) :=
  [("HOME", "/root"), ("PATH", ":".intercalate Disk.programFolders), ("PWD", "/work")]

/-- The number of a program that is started. -/
def firstPid : Nat := 1000

/-- A process that is about to become a program: its input and its two outputs are open. -/
def process (disk : Disk) (name : String) (input : Bytes) : State where
  scope :=
    { name
      pid := firstPid
      process := firstPid
      parent := firstPid - 1
      group := firstPid
      bindings := environment.map fun (name, value) => (name, { value := some value, exported := true })
      folder := disk.here
      descriptors := [(0, 0), (1, 1), (2, 2)] }
  world :=
    { stored := disk
      channels := #[.source input, .sink [], .sink []]
      start := (disk.times.map fun entry => entry.2 + 1).foldl max Disk.origin
      lastPid := firstPid
      alive := [(firstPid, firstPid)] }

/-- What was written to a channel. -/
def World.written (w : World) (n : Nat) : Bytes :=
  match w.channels[n]? with
  | some (.sink pieces) => pieces.reverse.flatten
  | _ => []

/-- What is left to read of a channel. -/
def World.unread (w : World) (n : Nat) : Nat :=
  match w.channels[n]? with
  | some (.source rest) => rest.length
  | _ => 0

/-- Runs a program up to its end. -/
def execute (disk : Disk) (path name : String) (args : List String) (input : Bytes) :
    Finished × Disk :=
  let ev := Evaluator.ofDepth forever
  let s := process disk name input
  let work : Act Nat := do
    match ← start ev startLimit path name args with
    | .ok status => return status
    | .error _ => return 127
  let first : Stopped :=
    { scope := s.scope, wake := { time := some 0 }, next := work.task }
  let (ending, w) := runAll firstPid forever s.world [first]
  let code := match ending with
    | some (.exited n) => some n
    | some (.killed _) | none => none
  ({ code, output := w.written 1, errors := w.written 2, unread := w.unread 0, elapsed := w.clock },
    { w.disk with here := disk.here })

/-- Starts the program that a name or a path stands for. -/
def launch : Launcher := fun program args input disk =>
  if (program :: args).any Disk.hasNul then (.error .nulInCommand, disk)
  else
    match disk.programPath program with
    | .error e => (.error e, disk)
    | .ok path =>
      let path := Latin.ofName path
      let name := Latin.ofText program
      let args := args.map Latin.ofText
      match resolve disk Utility.programs scriptLimit path name args with
      | .error e => (.error e, disk)
      | .ok _ =>
        let (finished, disk) := execute disk path name args input
        (.ok finished, disk)

/-- A machine on which nothing was done, with all programs. -/
def machine : Machine where
  disk := .withPrograms Utility.programs
  launcher := launch

end ScriptCache.Shell
