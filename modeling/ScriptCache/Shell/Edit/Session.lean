import ScriptCache.Shell.Edit.Reading
import ScriptCache.Shell.Utility.Call
import ScriptCache.Shell.Utility.Tree

/-! What an editor of lines works on.

An editor takes line after line from its files, keeps one in hand and may keep another one
for later, and writes to its output and to files by name. A line that no newline ended is
written without one, and gets it as soon as something else is written behind it. -/
namespace ScriptCache.Shell.Edit

/-- A text in hand or one that is kept, and whether a newline ended its last line. -/
structure Space where
  text : Bytes := []
  ended : Bool := true

/-- What was written in one place, the latest first, and whether its last line lacks an end. -/
structure Output where
  pieces : List Bytes := []
  unended : Bool := false

namespace Output

def bytes (o : Output) : Bytes := o.pieces.reverse.flatten

/-- The output with its last line ended. -/
def complete (mark : UInt8) (o : Output) : Output :=
  if o.unended then { pieces := [mark] :: o.pieces } else o

/-- The output with some bytes behind its last line. -/
def add (mark : UInt8) (bytes : Bytes) (o : Output) : Output :=
  let o := o.complete mark
  { o with pieces := bytes :: o.pieces }

/-- The output with one more line, which may lack its end. -/
def addLine (mark : UInt8) (line : Space) (o : Output) : Output :=
  if line.ended then o.add mark (line.text ++ [mark]) else { o.add mark line.text with unended := true }

end Output

/-- What is written once the work on a line is done. -/
inductive Appendix where
  | text (bytes : Bytes)
  | file (name : String)

/-- How an editor works. -/
structure Manner where
  /-- What ends a line. -/
  mark : UInt8 := 10
  quiet : Bool := false
  /-- Whether every file has a first and a last line of its own. -/
  separate : Bool := false
  /-- Whether files are replaced by what is written, each with a copy whose name this makes. -/
  inPlace : Option String := none
  unbuffered : Bool := false
  posix : Bool := false
  /-- How long the parts of listed lines are. -/
  width : Nat := 70
  /-- Runs a command; what it writes. -/
  perform : Bytes → Act Bytes

/-- How far a row of lines has come. -/
inductive Progress where
  | fresh
  | outside
  | until (line : Nat)
  | untilFound
  deriving DecidableEq

structure Session where
  pattern : Space := {}
  hold : Space := {}
  progress : Array Progress := #[]
  /-- Whether something was replaced in the line. -/
  replaced : Bool := false
  /-- The expression that was matched last. -/
  latest : Option LinePattern := none
  /-- What is written after the line, the latest first. -/
  appended : List Appendix := []
  output : Output := {}
  /-- What was written to files by name. -/
  targets : List (String × Output) := []
  /-- What is left of files that are read line by line. -/
  sources : List (String × Bytes) := []
  /-- The files to come, the one that is open with its channel, what was read of it and not used,
  and whether there is no more of it. -/
  files : List String := []
  current : Option String := none
  channel : Option Nat := none
  ahead : Bytes := []
  isRead : Bool := false
  line : Nat := 0
  /-- Whether the next file starts anew. -/
  restarts : Bool := false
  /-- The status that the files that could not be read leave. -/
  status : Nat := 0

/-- Work that may be given up, with a status. -/
abbrev Editor := ExceptT Nat (StateT Session Act)

namespace Editor

def lift {α : Type} (a : Act α) : Editor α :=
  ExceptT.lift (StateT.lift a)

def complain (text : String) : Editor Unit :=
  lift (Utility.complain "sed" text)

/-- Gives up. -/
def stop {α : Type} (status : Nat) : Editor α :=
  ExceptT.mk (return .error status)

/-! ### Output -/

/-- Changes the output. -/
def onOutput (change : Output → Output) : Editor Unit :=
  modify fun s => { s with output := change s.output }

/-- Hands the output on, unless it is to replace a file. -/
def handOn (m : Manner) : Editor Unit := do
  let s ← get
  if m.inPlace.isNone && !s.output.pieces.isEmpty then
    set { s with output := { s.output with pieces := [] } }
    let _ ← lift (Utility.put s.output.bytes)
    if m.unbuffered then lift Utility.flush

/-- Changes what is written to a file. The standard output may be where the output goes, which
does not know whether its last line was ended here; what is written on the descriptor for
errors is seen at once. -/
def onTarget (m : Manner) (name : String) (change : Output → Output) : Editor Unit := do
  let s ← get
  let before := (s.targets.lookup name).getD {}
  if name == "/dev/stdout" && m.inPlace.isNone then
    let o := change { before with pieces := s.output.pieces }
    set { s with
      output := { s.output with pieces := o.pieces }
      targets := Act.replaced name { o with pieces := [] } s.targets }
  else
    let o := change before
    if name == "/dev/stderr" then
      let _ ← lift (Act.write 2 o.bytes)
      set { s with targets := Act.replaced name { o with pieces := [] } s.targets }
    else set { s with targets := Act.replaced name o s.targets }

/-- Writes what was kept back until the work on a line was done. -/
def writeAppended (m : Manner) : Editor Unit := do
  let appended := (← get).appended.reverse
  modify fun s => { s with appended := [] }
  appended.forM fun appendix => do
    let bytes ← match appendix with
      | .text bytes => pure bytes
      | .file name => do
        match ← lift (Utility.content name) with
        | .ok bytes => pure bytes
        | .error _ => pure []
    onOutput (Output.add m.mark bytes)

/-! ### Input -/

/-- How many bytes are read at once. -/
def blockSize : Nat := 4096

/-- Reads on, far enough for one more line if there is one. Of the standard input no more is read
than is needed, if it is to be so. -/
def readOn (m : Manner) : Editor Unit := do
  let wanted (bytes : Bytes) : Nat :=
    if m.unbuffered then (bytes.takeWhile (· != m.mark)).length + 1 else blockSize
  let rec go : Nat → List Bytes → Editor Unit
    | 0, _ => return ()
    | fuel + 1, blocks => do
      match (← get).channel with
      | none => return ()
      | some n =>
        match ← lift (Act.readFrom n false wanted) with
        | .ok [] => modify fun s => { s with isRead := true, ahead := s.ahead ++ blocks.reverse.flatten }
        | .ok bytes =>
          if bytes.contains m.mark then
            modify fun s => { s with ahead := s.ahead ++ (bytes :: blocks).reverse.flatten }
          else go fuel (bytes :: blocks)
        | .error e =>
          let name := (← get).current.getD "-"
          complain ("read error on " ++ (if name == "-" then "stdin" else name) ++ ": " ++ e.text)
          stop 4
  let s ← get
  if s.isRead || s.ahead.contains m.mark then return () else go forever []

/-- Opens a file. -/
def openFile (m : Manner) (name : String) : Editor Unit := do
  let start (n : Nat) : Editor Unit :=
    modify fun s => { s with
      current := some name, channel := some n, ahead := [], isRead := false
      output := if m.inPlace.isSome then {} else s.output }
  if name == "-" && m.inPlace.isNone then
    match ← lift (Act.channel? 0) with
    | some (n, _) => start n
    | none =>
      complain ("read error on stdin: " ++ SysError.badHandle.text)
      stop 4
  else
    let disk ← lift Act.disk
    let regular := match disk.find? (Latin.toName name) with
      | some (.file _) => true
      | _ => false
    match ← lift (Utility.openInput (if name == "-" then "./-" else name)) with
    | .error e =>
      complain ("can't read " ++ name ++ ": " ++ e.text)
      modify fun s => { s with status := max 2 s.status }
    | .ok n =>
      if m.inPlace.isSome && !regular then
        complain ("couldn't edit " ++ name ++ ": not a regular file")
        modify fun s => { s with status := 4 }
      else start n

/-- The name of the copy of a file: a star in the suffix stands for the file's own name. -/
def copyName (name suffix : String) : String :=
  let cs := name.toList
  let base := (cs.reverse.takeWhile (· != '/')).reverse
  let folder := String.ofList (cs.take (cs.length - base.length))
  let base := String.ofList base
  if suffix.toList.contains '*' then
    let copy := base.intercalate (suffix.splitOn "*")
    if copy.toList.contains '/' then copy else folder ++ copy
  else folder ++ base ++ suffix

/-- Puts what was written in the place of the file that was read. -/
def replaceFile (name suffix : String) : Editor Unit := do
  let disk ← lift Act.disk
  match disk.existing (Latin.toName name) false with
  | .error _ => return ()
  | .ok id =>
    let copied := if suffix.isEmpty then .ok disk
      else Tree.rename disk (Latin.toName name) (Latin.toName (copyName name suffix))
    match copied with
    | .error e =>
      complain ("cannot rename " ++ name ++ ": " ++ e.text)
      stop 4
    | .ok disk =>
      let bare := match disk.unlink (Latin.toName name) with
        | .ok disk => disk
        | .error _ => disk
      match bare.ensureFile (Latin.toName name) with
      | .error e =>
        complain ("cannot rename " ++ name ++ ": " ++ e.text)
        stop 4
      | .ok (node, changed) =>
        let changed := (changed.put node (.file (← get).output.bytes)).setMode node (disk.mode id)
        lift (Act.changeWorld fun w => (w.withDisk changed).stamped node)
        modify fun s => { s with output := {} }

/-- Closes the file that is open. -/
def closeFile (m : Manner) : Editor Unit := do
  match (← get).current, m.inPlace with
  | some name, some suffix => replaceFile name suffix
  | _, _ => return ()
  modify fun s => { s with current := none, channel := none, ahead := [] }

/-- Closes the file that is open, and gives back what was read ahead of a file that can be
read at any place. -/
def finish (m : Manner) : Editor Unit := do
  handOn m
  let s ← get
  if s.current == some "-" then
    match ← lift (Act.channel? 0) with
    | some (n, .file node offset appends) =>
      lift (Act.setChannel n (.file node (offset - s.ahead.length) appends))
    | _ => return ()
  else closeFile m

/-- Whether no line is left. Files that have none are passed over. -/
def atEnd (m : Manner) : Editor Bool := do
  let rec look : List String → Editor Bool
    | [] => do
      readOn m
      return (← get).ahead.isEmpty
    | name :: rest => do
      readOn m
      let s ← get
      if !s.ahead.isEmpty then return false
      else if m.separate then return true
      else
        closeFile m
        modify fun s => { s with files := rest }
        openFile m name
        look rest
  look (← get).files

/-- Takes the next line into the hand, behind what is there if `appends`; whether there is one. -/
def nextLine (m : Manner) (appends : Bool) : Editor Bool := do
  writeAppended m
  handOn m
  lift (Act.spend Act.commandTime)
  modify fun s => { s with replaced := false }
  let take : Editor Bool := do
    readOn m
    let s ← get
    if s.current.isNone || s.ahead.isEmpty then return false
    else
      let text := s.ahead.takeWhile (· != m.mark)
      let rest := s.ahead.drop text.length
      let line : Space := { text, ended := !rest.isEmpty }
      let pattern := if appends then { line with text := s.pattern.text ++ [m.mark] ++ line.text } else line
      set { s with pattern, ahead := rest.tail, line := s.line + 1 }
      return true
  let rec go : List String → Editor Bool
    | [] => take
    | name :: rest => do
      if ← take then return true
      else
        closeFile m
        modify fun s => { s with files := rest }
        if (← get).restarts then
          modify fun s => { s with
            line := 0, hold := { s.hold with text := [] }
            progress := s.progress.map fun _ => .fresh, sources := [] }
          if !m.posix && m.inPlace.isNone then onOutput (Output.complete m.mark)
        modify fun s => { s with restarts := m.separate }
        openFile m name
        go rest
  go (← get).files

end Editor

end ScriptCache.Shell.Edit
