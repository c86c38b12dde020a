import ScriptCache.Machine.Basic
import ScriptCache.Shell.Command
import ScriptCache.Shell.Condition
import ScriptCache.Shell.Signal
import ScriptCache.Text.Latin

/-! What a shell works on.

A `Scope` is what one process knows. A `World` is what all processes share: the disk, the
channels behind their descriptors, the time, and the signals that are under way. An action
may halt, and what it has changed stays changed; and it may stop, to sleep, to wait for
another process or for a pipe, and goes on with the world that it then finds. A pipe has two
ends: a reader sees its end when nobody is left who could write, and a writer is refused when
nobody is left who could read. -/
namespace ScriptCache.Shell

/-- What is in a pipe: bytes to be read, then pieces that were written later, the latest
first. -/
structure Pipe where
  front : Bytes := []
  back : List Bytes := []
  /-- How many bytes there are. -/
  size : Nat := 0
  /-- How often the end that is read, and the one that is written, were opened by a name. -/
  readers : Nat := 0
  writers : Nat := 0

namespace Pipe

/-- How many bytes a pipe holds at most, and how many go into it at once or not at all. -/
def capacity : Nat := 65536
def atomicSize : Nat := 4096

/-- What can be read. -/
def content (p : Pipe) : Bytes :=
  if p.back.isEmpty then p.front else p.front ++ p.back.reverse.flatten

def push (p : Pipe) (bytes : Bytes) (count : Nat) : Pipe :=
  { p with back := bytes :: p.back, size := p.size + count }

/-- A pipe whose content is what is left of it. -/
def left (p : Pipe) (rest : Bytes) (taken : Nat) : Pipe :=
  { p with front := rest, back := [], size := p.size - taken }

end Pipe

/-- What an open descriptor leads to. -/
inductive Channel where
  /-- Bytes that wait to be read. -/
  | source (rest : Bytes)
  /-- What was written, the latest first. -/
  | sink (pieces : List Bytes)
  | file (node : NodeId) (offset : Nat) (appends : Bool)
  /-- The end of a pipe that is read. The next channel is its other end. -/
  | outlet (pipe : Pipe)
  /-- The end of a pipe that is written. The channel before is its other end. -/
  | inlet

structure Variable where
  /-- Nothing for a name that has only its marks. -/
  value : Option String
  exported : Bool := false
  locked : Bool := false

/-- How a process ended. -/
inductive Ending where
  | exited (status : Nat)
  | killed (signal : Nat)
  deriving DecidableEq

/-- The status that an ending is seen as. -/
def Ending.status : Ending → Nat
  | exited n => n
  | killed signal => 128 + signal

/-- What a shell has started in the background. -/
structure Job where
  number : Nat
  /-- The processes of its stages, in order. -/
  pids : List Nat
  /-- Whether the shell has seen its end, and has waited for it. -/
  seen : Bool := false
  waited : Bool := false

namespace Job

/-- The number that it is known by, that of its last stage. -/
def pid (job : Job) : Nat :=
  job.pids.getLast?.getD 0

/-- Whether all of it has ended. -/
def isOver (job : Job) (ended : List (Nat × Ending)) : Bool :=
  job.pids.all fun pid => (ended.lookup pid).isSome

end Job

/-- What one shell knows. -/
structure Scope where
  /-- What the shell calls itself. -/
  name : String
  args : List String := []
  /-- The number that the shell calls its own; the numbers of the process that it is and of
  the one that started that. -/
  pid : Nat
  process : Nat
  parent : Nat
  /-- The group of processes that signals can be sent to together. -/
  group : Nat
  bindings : List (String × Variable) := []
  functions : List (String × Command) := []
  aliases : List (String × String) := []
  /-- Where programs were found. -/
  hashed : List (String × String) := []
  /-- The letters of the options that are on. -/
  flags : List Char := []
  status : Nat := 0
  /-- The working folder, then the folders above it up to the root; and the path by which it
  was entered. -/
  folder : List NodeId := []
  path : String := "/"
  /-- The open descriptors, each with the number of its channel. -/
  descriptors : List (Nat × Nat) := []
  /-- The permission bits that new files are not given. -/
  umask : Nat := 0o022
  /-- The most bytes that a file may get. -/
  fileLimit : Option Nat := none
  /-- The line of the command that runs. -/
  line : Nat := 1
  /-- The builtin command that runs, which complaints name. -/
  builtin : Option String := none
  /-- How many loops the command stands in. -/
  loops : Nat := 0
  /-- What variables were before they became local, the innermost function first. -/
  locals : List (List (String × Option Variable)) := []
  /-- What is done on a signal or at the end. -/
  traps : List (Nat × String) := []
  /-- Where in an argument the next option letter stands. -/
  optionOffset : Nat := 0
  /-- How the last command in a word ended, if there was one. -/
  substituted : Option Nat := none
  /-- What was started in the background, the latest first. -/
  jobs : List Job := []
  lastJob : Option Nat := none
  /-- The channels of descriptors that are put aside while a command has others. -/
  kept : List Nat := []
  /-- What the utility that runs has kept back of its output, the latest first, and how many
  bytes that is; how many it has written. -/
  pending : List Bytes := []
  pendingSize : Nat := 0
  writtenSize : Nat := 0
  /-- Why the utility that runs could not write, if it could not. -/
  unwritten : Option SysError := none

/-- What was written at the end of a file since its content was put together: the pieces, the
latest first, and the size of the whole file. -/
structure Tail where
  size : Nat
  pieces : List Bytes

/-- What all processes share. -/
structure World where
  /-- The disk, but for the tails of files. -/
  stored : Disk
  tails : List (NodeId × Tail) := []
  /-- What is left to read of files, each by its channel, with the file and the place in it where
  that starts. -/
  ahead : List (Nat × NodeId × Nat × Bytes) := []
  channels : Array Channel := #[]
  /-- Nanoseconds since the start, which was at a point of time since 1970. -/
  clock : Nat := 0
  start : Int := Disk.origin
  /-- Signals on their way, each with its target. -/
  signals : List (Nat × Nat) := []
  lastPid : Nat := 1000
  /-- The processes that have not ended, each with its group. -/
  alive : List (Nat × Nat) := []
  ended : List (Nat × Ending) := []
  /-- The channels that processes have open other than the one that runs. -/
  elsewhere : List Nat := []
  /-- When it is another one's turn, as far as that is known, and how much may be done before
  it is looked at again. -/
  due : Option Nat := none
  credit : Nat := 0

structure State where
  scope : Scope
  world : World

/-- What the time is, in nanoseconds since 1970. -/
def World.now (w : World) : Int := w.start + w.clock

namespace World

/-- A disk on which a file has its tail. -/
def withTail (disk : Disk) (id : NodeId) (tail : Tail) : Disk :=
  match disk.node? id with
  | some (.file content) => disk.put id (.file (content ++ tail.pieces.reverse.flatten))
  | _ => disk

/-- The disk. -/
def disk (w : World) : Disk :=
  w.tails.foldl (fun disk (id, tail) => withTail disk id tail) w.stored

/-- A world with another disk. -/
def withDisk (w : World) (disk : Disk) : World :=
  { w with stored := disk, tails := [], ahead := [] }

/-- A world on whose disk something was changed that is no content. -/
def marking (w : World) (change : Disk → Disk) : World :=
  { w with stored := change w.stored }

/-- A world on whose disk a node was changed just now. -/
def stamped (w : World) (id : NodeId) : World :=
  w.marking fun disk => disk.setTime id w.now

/-- A world without what was read ahead of a file. -/
def forgetting (w : World) (id : NodeId) : World :=
  if w.ahead.isEmpty then w else { w with ahead := w.ahead.filter fun entry => entry.2.1 != id }

/-- A world in which a file is empty. -/
def emptied (w : World) (id : NodeId) : World :=
  { w with
    stored := w.stored.put id (.file [])
    tails := w.tails.filter fun entry => entry.1 != id }.forgetting id

/-- The size of a file. -/
def sizeOf (w : World) (id : NodeId) : Nat :=
  match w.tails.lookup id with
  | some tail => tail.size
  | none =>
    match w.stored.node? id with
    | some (.file content) => content.length
    | _ => 0

/-- A world in which something was written at the end of a file, whose size it had. -/
def appending (w : World) (id : NodeId) (size count : Nat) (bytes : Bytes) : World :=
  let pieces := bytes :: ((w.tails.lookup id).map Tail.pieces).getD []
  { w with tails := (id, { size := size + count, pieces }) :: w.tails.filter fun entry => entry.1 != id }

end World

/-- The channels that a process has open. -/
def Scope.holdings (s : Scope) : List Nat :=
  s.descriptors.map Prod.snd ++ s.kept

/-- The place of a name in the tables of a shell, which is the order of their listings. -/
def nameRank (name : String) : Nat :=
  match name.toList with
  | [] => 0
  | c :: rest => (rest.foldl (fun n c => n + c.toNat) (c.toNat * 17)) % 39

/-- The variables that a shell gives to programs, in the order in which it does. -/
def Scope.environment (s : Scope) : List (String × Variable) :=
  (s.bindings.filter fun entry => entry.2.exported && entry.2.value.isSome).mergeSort fun a b =>
    nameRank a.1 ≤ nameRank b.1

/-- Why nothing after an action is done. -/
inductive Halt where
  | exited (status : Nat)
  /-- The same after an error, which some commands survive. -/
  | failed (status : Nat)
  | broke (loops : Nat)
  | continued (loops : Nat)
  | returned (status : Nat)
  | killed (signal : Nat)
  deriving DecidableEq

/-- The status that a halt leaves. -/
def Halt.status : Halt → Nat
  | exited n | failed n | returned n => n
  | broke _ | continued _ => 0
  | killed signal => 128 + signal

/-- What a stopped process waits for. -/
inductive Occasion where
  /-- The end of one of some processes. -/
  | ended (pids : List Nat)
  /-- That no other process has a channel open. -/
  | released (channel : Nat)
  /-- That a pipe has something to read, or nobody is left who could write. -/
  | filled (channel : Nat)
  /-- That a pipe has room for so much, or nobody is left who could read. -/
  | drained (channel room : Nat)
  /-- That the other end of a pipe was opened by its name more than so many times. -/
  | met (channel : Nat) (forReading : Bool) (times : Nat)
  deriving DecidableEq

/-- When a stopped process goes on: at a point of time, on an occasion before it, or when a
signal comes for which it has a trap, if it heeds those. -/
structure Wake where
  time : Option Nat := none
  occasion : Option Occasion := none
  heeds : Bool := false
  deriving DecidableEq

/-- What a process does next: it ends, stops with more to do, or starts a process with a scope
of its own. -/
inductive Task where
  | ended (result : Except Halt Nat) (s : State)
  | stop (wake : Wake) (s : State) (next : State → Task)
  | fork (child : Scope) (start : State → Task) (s : State) (next : State → Task)

/-- What a process does up to a result or a halt, given what it does after each. -/
def Act (α : Type) := (α → State → Task) → (Halt → State → Task) → State → Task

namespace Act

@[always_inline, inline] protected def pure {α : Type} (a : α) : Act α :=
  fun next _ s => next a s

@[always_inline, inline] protected def bind {α β : Type} (a : Act α) (f : α → Act β) : Act β :=
  fun next halt s => a (fun x s => f x next halt s) halt s

@[always_inline] instance : Monad Act where
  pure := Act.pure
  bind := Act.bind

@[always_inline] instance : MonadStateOf State Act where
  get := fun next _ s => next s s
  set s := fun next _ _ => next () s
  modifyGet f := fun next _ s => let (a, s) := f s; next a s

@[always_inline] instance : MonadExceptOf Halt Act where
  throw h := fun _ halt s => halt h s
  tryCatch a f := fun next halt s => a next (fun h s => f h next halt s) s

/-- An action, with its halting as a result. -/
@[inline] def attempt {α : Type} (a : Act α) : Act (Except Halt α) :=
  fun next _ s => a (fun x s => next (.ok x) s) (fun h s => next (.error h) s) s

/-- Goes on as an attempt ended. -/
def resume {α : Type} : Except Halt α → Act α
  | .ok a => return a
  | .error h => throw h

/-- An action as all that a process does. -/
def task (work : Act Nat) : State → Task :=
  work (fun n s => .ended (.ok n) s) (fun h s => .ended (.error h) s)

/-! ### Time and processes -/

/-- A signal on its way to the process that ends it. -/
def fatal? (s : State) : Option Nat :=
  (s.world.signals.find? fun sent =>
    sent.1 == s.scope.process && !Signal.isIgnored sent.2 &&
      (sent.2 == 9 || (s.scope.traps.lookup sent.2).isNone)).map Prod.snd

/-- Ends if a signal says so. -/
def struck : Act Unit := do
  match fatal? (← get) with
  | some signal => throw (.killed signal)
  | none => return ()

/-- Stops until something happens, or a signal ends the process. -/
def stop (wake : Wake) : Act Unit :=
  fun next halt s => .stop wake s (struck next halt)

/-- Lets some nanoseconds pass. -/
def sleep (nanoseconds : Nat) : Act Unit := do
  stop { time := some ((← get).world.clock + nanoseconds) }

/-- Works for some nanoseconds. Others go first if it is their turn by then. -/
def spend (nanoseconds : Nat) : Act Unit := fun next halt s =>
  let time := s.world.clock + nanoseconds
  if s.world.credit == 0 || s.world.due.any (· ≤ time) then stop { time := some time } next halt s
  else next () { s with world := { s.world with clock := time, credit := s.world.credit - 1 } }

/-- How long it takes to start a process, for the one that does and until the new one runs, and
to become a program; what one command, one round of a loop and one writing take. -/
def forkTime : Nat := 40000
def startTime : Nat := 100000
def programTime : Nat := 400000
def commandTime : Nat := 2000
def writeTime : Nat := 5000

@[inline] def scope : Act Scope := fun next _ s => next s.scope s

@[inline] def world : Act World := fun next _ s => next s.world s

/-- The disk. Files get their tails. -/
def disk : Act Disk := fun next _ s =>
  if s.world.tails.isEmpty then next s.world.stored s
  else
    let disk := s.world.disk
    next disk { s with world := { s.world with stored := disk, tails := [] } }

@[inline] def changeScope (f : Scope → Scope) : Act Unit :=
  fun next _ s => next () { s with scope := f s.scope }

@[inline] def changeWorld (f : World → World) : Act Unit :=
  fun next _ s => next () { s with world := f s.world }

/-! ### Channels -/

def addChannel (c : Channel) : Act Nat := do
  let n := (← world).channels.size
  changeWorld fun w => { w with channels := w.channels.push c }
  return n

def setChannel (n : Nat) (c : Channel) : Act Unit :=
  changeWorld fun w => { w with channels := w.channels.setIfInBounds n c }

/-- The channel of a descriptor. -/
def channel? (descriptor : Nat) : Act (Option (Nat × Channel)) := do
  let s ← get
  return do
    let n ← s.scope.descriptors.lookup descriptor
    let c ← s.world.channels[n]?
    return (n, c)

/-- Gives a descriptor a channel, or closes it. -/
def setDescriptor (descriptor : Nat) (channel : Option Nat) : Act Unit :=
  changeScope fun s =>
    let others := s.descriptors.filter fun d => d.1 != descriptor
    { s with descriptors := match channel with
        | some n => (descriptor, n) :: others
        | none => others }

/-- Works with other descriptors, and gives the old ones back however that ends. -/
def withDescriptors {α : Type} (change : Act Unit) (work : Act α) : Act α := do
  let before := (← scope).descriptors
  let result ← attempt do
    change
    work
  changeScope fun s => { s with descriptors := before }
  resume result

/-- Everything that was written to a sink, once nobody can write to it any more. -/
def gathered (n : Nat) : Act Bytes := do
  if (← world).elsewhere.contains n then stop { occasion := some (.released n) }
  return match (← world).channels[n]? with
    | some (.sink pieces) => pieces.reverse.flatten
    | _ => []

/-- Makes a pipe; the number of the end that is read. -/
def addPipe : Act Nat := do
  let n ← addChannel (.outlet {})
  let _ ← addChannel .inlet
  return n

/-- It may be another one's turn. -/
def stir : Act Unit :=
  changeWorld fun w => { w with due := some w.clock }

/-- Whether a process has a channel open, be it this one or another. -/
def isOpen (n : Nat) : Act Bool := do
  let s ← get
  return s.world.elsewhere.contains n || s.scope.holdings.contains n

/-! ### Reading -/

/-- How much is read at once of what has no end. -/
def endlessBlock : Nat := 131072

/-- What is there to be read from a channel. -/
def unread (disk : Disk) : Channel → Except SysError Bytes
  | .source rest => .ok rest
  | .outlet pipe => .ok pipe.content
  | .sink _ | .inlet => .error .badHandle
  | .file node offset _ =>
    match disk.node? node with
    | some (.file content) => .ok (content.drop offset)
    | some (.folder _) => .error .isFolder
    | some (.device .full) | some (.device .zero) => .ok (List.replicate endlessBlock 0)
    | _ => .ok []

/-- The same, from what is known of it if it was read before. -/
def unreadOf (n : Nat) (c : Channel) : Act (Except SysError Bytes) := do
  match c with
  | .file node offset _ =>
    match (← world).ahead.lookup n with
    | some (known, at_, rest) => if known == node && at_ == offset then return .ok rest else return unread (← disk) c
    | none => return unread (← disk) c
  | c => return unread (← world).stored c

/-- Keeps what is left to read of a file. -/
def keepAhead (n taken : Nat) (rest : Bytes) (c : Channel) : Act Unit := do
  match c with
  | .file node offset _ =>
    match (← world).stored.node? node with
    | some (.file _) => changeWorld fun w => { w with
        ahead := (n, node, offset + taken, rest) :: w.ahead.filter fun entry => entry.1 != n }
    | _ => return ()
  | _ => return ()

/-- A channel after some bytes were read, with what is left of what was there. -/
def Channel.after (n : Nat) (rest : Bytes) : Channel → Channel
  | .source _ => .source rest
  | .outlet pipe => .outlet (pipe.left rest n)
  | .file node offset appends => .file node (offset + n) appends
  | channel => channel

/-- Waits until a pipe has something to read; whether it is worth looking again. -/
def awaitInput (n : Nat) (heeds : Bool) : Act Bool := do
  if !(← isOpen (n + 1)) then return false
  else
    stop { occasion := some (.filled n), heeds }
    let s ← get
    let called := s.world.signals.any fun sent => sent.1 == s.scope.process
    let isEmpty := match s.world.channels[n]? with
      | some (.outlet pipe) => pipe.size == 0
      | _ => true
    return !(heeds && called && isEmpty)

/-- Reads as much as is wanted of what a channel has to read, which is nothing at its end. Waits
for a pipe until there is something, or a signal comes that is heeded. -/
def readFrom (n : Nat) (heeds : Bool) (wanted : Bytes → Nat) : Act (Except SysError Bytes) :=
  let rec go : Nat → Act (Except SysError Bytes)
    | 0 => return .ok []
    | fuel + 1 => do
      match (← world).channels[n]? with
      | none => return .error .badHandle
      | some c =>
        match ← unreadOf n c with
        | .error e => return .error e
        | .ok [] =>
          match c with
          | .outlet _ => if ← awaitInput n heeds then go fuel else return .ok []
          | _ => return .ok []
        | .ok there =>
          let count := wanted there
          let bytes := there.take count
          let taken := bytes.length
          let rest := there.drop taken
          setChannel n (Channel.after taken rest c)
          keepAhead n taken rest c
          match c with
          | .outlet _ => stir
          | .file .. => spend writeTime
          | _ => pure ()
          return .ok bytes
  go forever

/-- The same for a descriptor. -/
def read (descriptor : Nat) (wanted : Bytes → Nat) : Act (Except SysError Bytes) := do
  match ← channel? descriptor with
  | none => return .error .badHandle
  | some (n, _) => readFrom n false wanted

/-- Reads all that a channel has to read. -/
def readWhole (n : Nat) : Act (Except SysError Bytes) :=
  let rec go : Nat → List Bytes → Act (Except SysError Bytes)
    | 0, read => return .ok read.reverse.flatten
    | fuel + 1, read => do
      match ← readFrom n false List.length with
      | .error e => return .error e
      | .ok [] => return .ok read.reverse.flatten
      | .ok bytes => go fuel (bytes :: read)
  go forever []

def readAll (descriptor : Nat) : Act (Except SysError Bytes) := do
  match ← channel? descriptor with
  | none => return .error .badHandle
  | some (n, _) => readWhole n

/-! ### Writing -/

/-- What a process does that may not write: a signal ends it, unless it has a trap for that. -/
def refused (signal : Nat) (e : SysError) : Act (Except SysError Unit) := do
  let s ← scope
  match s.traps.lookup signal with
  | none => throw (.killed signal)
  | some action =>
    if !action.isEmpty then changeWorld fun w => { w with signals := w.signals ++ [(s.process, signal)] }
    return .error e

/-- Writes to the pipe whose end that is read has a number. Waits for room as long as somebody
can read. -/
def writePipe (n : Nat) (bytes : Bytes) : Act (Except SysError Unit) :=
  let rec go : Nat → Bytes → Nat → Act (Except SysError Unit)
    | 0, _, _ => return .ok ()
    | fuel + 1, bytes, count => do
      if count == 0 then return .ok ()
      else if !(← isOpen n) then refused 13 .brokenPipe
      else
        match (← world).channels[n]? with
        | some (.outlet pipe) =>
          let room := Pipe.capacity - pipe.size
          let least := if count ≤ Pipe.atomicSize then count else 1
          if room < least then
            stop { occasion := some (.drained n least) }
            go fuel bytes count
          else if count ≤ room then
            setChannel n (.outlet (pipe.push bytes count))
            stir
            spend commandTime
            return .ok ()
          else
            setChannel n (.outlet (pipe.push (bytes.take room) room))
            stir
            go fuel (bytes.drop room) (count - room)
        | _ => return .error .badHandle
  go forever bytes bytes.length

/-- Writes to a file where it stands, or at its end. -/
def writeFile (n : Nat) (node : NodeId) (offset : Nat) (appends : Bool) (bytes : Bytes) :
    Act (Except SysError Unit) := do
  match (← world).stored.node? node with
  | some (.file _) =>
    let size := (← world).sizeOf node
    let at_ := if appends then size else offset
    let limit := (← scope).fileLimit
    let fitting := limit.elim bytes fun limit => bytes.take (limit - at_)
    let count := fitting.length
    if at_ == size then
      changeWorld fun w => ((w.appending node size count fitting).forgetting node).stamped node
    else
      match (← disk).node? node with
      | some (.file content) =>
        changeWorld fun w =>
          (w.withDisk (w.stored.put node (.file (Machine.overwritten content at_ fitting)))).stamped node
      | _ => pure ()
    setChannel n (.file node (at_ + count) appends)
    if limit.isNone || count == bytes.length then return .ok () else refused 25 .tooLarge
  | some (.device .null) | some (.device .zero) => return .ok ()
  | _ => return .error .noSpace

def write (descriptor : Nat) (bytes : Bytes) : Act (Except SysError Unit) := do
  match ← channel? descriptor with
  | none | some (_, .source _) | some (_, .outlet _) => return .error .badHandle
  | some (n, .inlet) => writePipe (n - 1) bytes
  | some (n, .sink pieces) =>
    setChannel n (.sink (bytes :: pieces))
    return .ok ()
  | some (n, .file node offset appends) =>
    if bytes.isEmpty then return .ok ()
    else
      let result ← writeFile n node offset appends bytes
      spend writeTime
      return result

/-- The descriptor that a path names. -/
def descriptorOf? (path : String) : Option Nat :=
  match path with
  | "/dev/stdin" => some 0
  | "/dev/stdout" => some 1
  | "/dev/stderr" => some 2
  | path =>
    let digits := (path.toList.reverse.takeWhile Char.isDigit).reverse
    let folder := String.ofList (path.toList.take (path.length - digits.length))
    if !digits.isEmpty && (folder == "/dev/fd/" || folder == "/proc/self/fd/") then (String.ofList digits).toNat?
    else none

/-- What conditions see of a state. -/
def view (s : State) : Condition.View where
  disk := s.world.stored
  hasTail id := (s.world.tails.lookup id).any fun tail => tail.size != 0
  opened path := do
    let n ← s.scope.descriptors.lookup (← descriptorOf? path)
    match ← s.world.channels[n]? with
    | .file node _ _ => return .node node
    | .inlet => return .pipe (n - 1)
    | _ => return .pipe n

/-- The permission bits that something new is given. -/
def masked (umask mode : Nat) : Nat := mode &&& (0o777 ^^^ umask)

/-- Opens a file; the number of its channel. -/
def openFile (path : String) (mode : FileMode) : Act (Except SysError Nat) := do
  match descriptorOf? path with
  | some descriptor =>
    match ← channel? descriptor with
    | some (n, .file node _ _) =>
      match (← world).stored.node? node, mode with
      | some (.folder _), .read => return .ok (← addChannel (.file node 0 false))
      | some (.folder _), _ => return .error .isFolder
      | some (.file _), .create | some (.file _), .replace =>
        changeWorld fun w => (w.emptied node).stamped node
        return .ok (← addChannel (.file node 0 false))
      | some (.file _), mode => return .ok (← addChannel (.file node 0 (mode == .append)))
      | _, _ => return .ok n
    | some (n, _) => return .ok n
    | none => return .error .notFound
  | none =>
    let disk := (← world).stored
    let path := Latin.toName path
    let kept := mode == .create && (← scope).flags.contains 'C' && match disk.find? path with
      | some (.file _) => true
      | _ => false
    let found := if kept then .error .exists else match mode with
      | .read => (disk.existing path false).map (·, disk)
      | .create | .update | .append | .replace => disk.ensureFile path
    match found with
    | .error e => return .error e
    | .ok (node, disk) =>
      if node == (← world).stored.nodes.length then
        let umask := (← scope).umask
        changeWorld fun w => { w with stored := disk.setMode node (masked umask 0o666) }.stamped node
      else if mode == .create || mode == .replace then
        match disk.node? node with
        | some (.file _) => changeWorld fun w => (w.emptied node).stamped node
        | _ => pure ()
      return .ok (← addChannel (.file node 0 (mode == .append)))

/-! ### Complaints -/

/-- Writes a text; what cannot be written is lost. -/
def say (descriptor : Nat) (text : String) : Act Unit := do
  let _ ← write descriptor (Latin.toBytes text)

/-- Complains on the descriptor for errors, in the name of the shell and of the builtin
command that runs. -/
def complain (text : String) : Act Unit := do
  let s ← scope
  let command := match s.builtin with
    | some name => name ++ ": "
    | none => ""
  say 2 (s.name ++ ": " ++ toString s.line ++ ": " ++ command ++ text ++ "\n")

/-- Complains and gives up. -/
def fail {α : Type} (text : String) : Act α := do
  complain text
  throw (.failed 2)

/-! ### Variables -/

def variableOf? (name : String) : Act (Option Variable) :=
  return (← scope).bindings.lookup name

def value? (name : String) : Act (Option String) :=
  return (← variableOf? name).bind (·.value)

/-- The list with an entry in place of any of that name. -/
def replaced {α : Type} (name : String) (a : α) : List (String × α) → List (String × α)
  | [] => [(name, a)]
  | (n, b) :: rest => if n == name then (name, a) :: rest else (n, b) :: replaced name a rest

def putVariable (name : String) (v : Option Variable) : Act Unit :=
  changeScope fun s => { s with bindings := match v with
    | some v => replaced name v s.bindings
    | none => s.bindings.filter fun entry => entry.1 != name }

/-- Gives a variable a value, unless it is read only. Programs are looked for anew in a new
`PATH`. -/
def assign (name value : String) : Act Unit := do
  let flags := (← scope).flags
  if name == "PATH" then changeScope fun s => { s with hashed := [] }
  match ← variableOf? name with
  | some v =>
    if v.locked then fail (name ++ ": is read only")
    else putVariable name (some { v with value := some value, exported := v.exported || flags.contains 'a' })
  | none => putVariable name (some { value := some value, exported := flags.contains 'a' })

/-- Works with some variables, and gives the old ones back however that ends. -/
def withVariables {α : Type} (names : List String) (work : Act α) : Act α := do
  if names.isEmpty then work
  else
    let before ← scope
    let result ← attempt work
    names.forM fun name => putVariable name (before.bindings.lookup name)
    if names.contains "PATH" then changeScope fun s => { s with hashed := before.hashed }
    resume result

def setStatus (n : Nat) : Act Unit :=
  changeScope fun s => { s with status := n }

/-- A number that no other process has. -/
def newPid : Act Nat := do
  let n := (← world).lastPid + 1
  changeWorld fun w => { w with lastPid := n }
  return n

/-- Starts a process, which works in a changed scope; its number. -/
def fork (change : Scope → Scope) (work : Act Nat) : Act Nat := do
  let pid ← newPid
  fun next _ s =>
    let child := { change s.scope with process := pid, parent := s.scope.process }
    .fork child work.task s (next pid)

/-- Waits until a process has ended; how it did. -/
def await (pid : Nat) : Act Ending := do
  if ((← world).ended.lookup pid).isNone then stop { occasion := some (.ended [pid]) }
  let ending := (← world).ended.lookup pid
  changeWorld fun w => { w with ended := w.ended.filter fun entry => entry.1 != pid }
  return ending.getD (.exited 0)

end Act

end ScriptCache.Shell
