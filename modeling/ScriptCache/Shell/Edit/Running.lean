import ScriptCache.Shell.Edit.Session

/-! Editing lines as a script says.

The instructions of a script are carried out on one line after the other, each on the lines
that it selects. -/
namespace ScriptCache.Shell.Edit

namespace Editor

/-! ### Selecting lines -/

/-- The expression of a pattern, which is the latest one from now on. -/
def expressionOf (p : LinePattern) : Editor (Regex × Regex.Dialect) := do
  match p.regex? with
  | some e =>
    modify fun s => { s with latest := some p }
    return (e, p.dialect)
  | none =>
    match (← get).latest.bind fun l => l.regex?.map fun e => (e, l.dialect) with
    | some found => return found
    | none =>
      complain "-e expression #1, char 0: no previous regular expression"
      stop 1

/-- Whether the line in hand is meant. -/
def isAt (m : Manner) : Address → Editor Bool
  | .line n => return (← get).line == n
  | .last => atEnd m
  | .every first step => do
    let line := (← get).line
    return first ≤ line && (line - first) % step == 0
  | .matching p => do
    let (e, d) ← expressionOf p
    return (Regex.search? d e (← get).pattern.text.toArray 0).isSome

def setProgress (n : Nat) (progress : Progress) : Editor Unit :=
  modify fun s => { s with progress := s.progress.setIfInBounds n progress }

/-- Whether the line in hand starts a row of lines, and how far that goes. -/
def startsRow (m : Manner) (n : Nat) (first : Address) (last : RowEnd) : Editor Bool := do
  if ← isAt m first then
    let line := (← get).line
    let untilLine (stop : Nat) : Editor Unit :=
      if line < stop then setProgress n (.until stop) else setProgress n .outside
    match last with
    | .at (.line stop) => untilLine stop
    | .after lines => untilLine (line + lines)
    | .multiple k => if k == 0 then setProgress n .outside else untilLine ((line / k + 1) * k)
    | .at _ => setProgress n .untilFound
    return true
  else return false

/-- Whether an instruction is for the line in hand. -/
def selects (m : Manner) (n : Nat) (s : Selection) : Editor Bool := do
  let inside ← match s.first, s.last with
    | none, _ => pure true
    | some first, none => isAt m first
    | some first, some last => do
      let state ← get
      let atStart : Progress := match first with
        | .line 0 => .untilFound
        | _ => .outside
      match (match state.progress.getD n .fresh with
        | .fresh => atStart
        | progress => progress) with
      | .fresh | .outside => startsRow m n first last
      | .until stop =>
        if stop ≤ state.line then setProgress n .outside
        if stop < state.line then startsRow m n first last else pure true
      | .untilFound =>
        match last with
        | .at address =>
          if ← isAt m address then setProgress n .outside else setProgress n .untilFound
          pure true
        | _ => pure true
  return inside != s.inverted

/-! ### Replacing -/

/-- Bytes with their letters in another case: all of them, and the first in a way of its own. -/
def inCase (upper firstUpper : Option Bool) (bytes : Bytes) : Bytes :=
  let turn (way : Option Bool) (b : UInt8) : UInt8 := match way with
    | none => b
    | some up =>
      let c := Char.ofNat b.toNat
      (if up then c.toUpper else c.toLower).toNat.toUInt8
  match bytes with
  | [] => []
  | b :: rest => turn (firstUpper.orElse fun () => upper) b :: rest.map (turn upper)

/-- What a match is replaced by. A way for a first letter that meets no letter waits for the
next part. -/
def replacement (text : Array UInt8) (found : Regex.Found) : Option Bool → List Part → Bytes
  | _, [] => []
  | waiting, part :: rest =>
    let first := part.firstUpper.orElse fun () => waiting
    let own := inCase part.upper first part.text
    let first := if part.text.isEmpty then first else none
    match part.group with
    | none => own ++ replacement text found none rest
    | some n =>
      let bytes := found.group text n
      let waiting := if bytes.isEmpty && part.firstUpper.isSome then first else none
      own ++ inCase part.upper first bytes ++ replacement text found waiting rest

/-- The text with matches replaced from a place on, and how many matches were seen. `seen` are
those before, and `last` is where the one before ended. -/
def replaceFrom (d : Regex.Dialect) (e : Regex) (sub : Substitution) (text : Array UInt8) :
    Nat → Nat → Option Nat → Nat → Bytes × Nat
  | 0, place, _, seen => ((text.extract place text.size).toList, seen)
  | fuel + 1, place, last, seen =>
    let rest (from_ : Nat) : Bytes := (text.extract from_ text.size).toList
    if text.size < place then ([], seen)
    else
      match Regex.search? d e text place with
      | none => (rest place, seen)
      | some found =>
        let before := (text.extract place found.start).toList
        let step (bytes : Bytes) (seen : Nat) : Bytes × Nat :=
          if found.start == found.stop then
            let (after, n) := replaceFrom d e sub text fuel (found.stop + 1) (some found.stop) seen
            (before ++ bytes ++ (text.extract found.stop (found.stop + 1)).toList ++ after, n)
          else
            let (after, n) := replaceFrom d e sub text fuel found.stop (some found.stop) seen
            (before ++ bytes ++ after, n)
        if found.start == found.stop && last == some found.start then step [] seen
        else if seen + 1 < sub.count then step (text.extract found.start found.stop).toList (seen + 1)
        else
          let new := replacement text found none sub.parts
          if sub.global then step new (seen + 1) else (before ++ new ++ rest found.stop, seen + 1)

def printPattern (m : Manner) : Editor Unit := do
  onOutput (Output.addLine m.mark (← get).pattern)

def substitute (m : Manner) (sub : Substitution) : Editor Unit := do
  let (e, d) ← expressionOf sub.pattern
  let s ← get
  let text := s.pattern.text.toArray
  let (result, seen) := replaceFrom d e sub text (text.size + 2) 0 none 0
  if seen < sub.count then return ()
  modify fun s => { s with pattern := { s.pattern with text := result }, replaced := true }
  if sub.showsFirst then printPattern m
  if sub.runs then
    let output ← lift (m.perform result)
    modify fun s => { s with pattern := { s.pattern with text := Utility.withoutMark m.mark output } }
  let pattern := (← get).pattern
  if sub.shows then onOutput (Output.addLine m.mark pattern)
  match sub.target with
  | some name => onTarget m name (Output.addLine m.mark pattern)
  | none => return ()

/-! ### Listing -/

/-- A byte as a listing shows it. -/
def listed (b : UInt8) : String :=
  let c := Char.ofNat b.toNat
  let octal (n : Nat) : Char := Char.ofNat (48 + n % 8)
  match c with
  | '\\' => "\\\\"
  | '\x07' => "\\a"
  | '\x08' => "\\b"
  | '\x0c' => "\\f"
  | '\n' => "\\n"
  | '\r' => "\\r"
  | '\t' => "\\t"
  | '\x0b' => "\\v"
  | c =>
    if ' ' ≤ c && c ≤ '~' then String.singleton c
    else String.ofList ['\\', octal (b.toNat / 64), octal (b.toNat / 8), octal b.toNat]

/-- A listing in lines that are not longer than the width, with the marks that they go on. -/
def listing (width : Nat) (bytes : Bytes) : String :=
  let (out, _) := bytes.foldl (fun (out, column) b =>
    let shown := listed b
    if width != 0 && width < column + shown.length + 1 then (out ++ "\\\n" ++ shown, shown.length)
    else (out ++ shown, column + shown.length)) ("", 0)
  out ++ "$\n"

/-! ### Carrying out -/

/-- How the work on a line ends. -/
inductive Outcome where
  | finished
  /-- What is left of the line is worked on anew. -/
  | again
  | quit (status : Nat)

/-- What is in hand up to its first newline. -/
def firstLine (m : Manner) (s : Space) : Space :=
  if s.text.contains m.mark then { text := s.text.takeWhile (· != m.mark) } else s

/-- The next line of a file that is read line by line. -/
def lineOf? (m : Manner) (name : String) : Editor (Option Bytes) := do
  let s ← get
  let rest ← match s.sources.lookup name with
    | some rest => pure rest
    | none => do
      match ← lift (Utility.content name) with
      | .ok bytes => pure bytes
      | .error _ => pure []
  let line := rest.takeWhile (· != m.mark)
  let after := rest.drop line.length
  set { s with sources := Act.replaced name after.tail s.sources }
  if rest.isEmpty then return none else return some (line ++ after.take 1)

def setPattern (text : Bytes) : Editor Unit :=
  modify fun s => { s with pattern := { s.pattern with text } }

/-- What an instruction leads to. -/
inductive Course where
  | on
  | to (place : Nat)
  | out (outcome : Outcome)

/-- Carries out what an instruction does; `n` is its place. -/
def carryOut (m : Manner) (n : Nat) (deed : Deed) : Editor Course := do
  let s ← get
  match deed with
  | .block _ | .nothing => return .on
  | .append text => set { s with appended := .text text :: s.appended }
  | .insert text => onOutput (Output.add m.mark text)
  | .change text =>
    let isRow := match s.progress.getD n .outside with
      | .until _ | .untilFound => true
      | _ => false
    if !isRow then onOutput (Output.add m.mark text)
    return .out .finished
  | .jump kind _ target =>
    match kind with
    | .always => return .to target
    | .replaced =>
      set { s with replaced := false }
      if s.replaced then return .to target
    | .notReplaced =>
      set { s with replaced := false }
      if !s.replaced then return .to target
  | .delete => return .out .finished
  | .deleteFirst =>
    if s.pattern.text.contains m.mark then
      setPattern ((s.pattern.text.dropWhile (· != m.mark)).drop 1)
      return .out .again
    else return .out .finished
  | .run none =>
    let output ← lift (m.perform s.pattern.text)
    set { s with pattern := { text := Utility.withoutMark m.mark output } }
  | .run (some command) => onOutput (Output.add m.mark (← lift (m.perform command)))
  | .showName => onOutput (Output.add m.mark (Latin.toBytes (s.current.getD "-") ++ [10]))
  | .get => set { s with pattern := s.hold }
  | .getMore => set { s with pattern := { s.hold with text := s.pattern.text ++ [m.mark] ++ s.hold.text } }
  | .hold => set { s with hold := s.pattern }
  | .holdMore => set { s with hold := { s.pattern with text := s.hold.text ++ [m.mark] ++ s.pattern.text } }
  | .exchange => set { s with pattern := s.hold, hold := s.pattern }
  | .list width =>
    onOutput (Output.add m.mark (Latin.toBytes (listing (width.getD m.width) s.pattern.text)))
  | .next =>
    let last ← atEnd m
    if last && m.posix then return .out .finished
    if !m.quiet then printPattern m
    if last then return .out .finished
    if !(← nextLine m false) then return .out .finished
  | .nextMore =>
    if ← atEnd m then
      if !m.posix && !m.quiet then printPattern m
      return .out .finished
    if !(← nextLine m true) then return .out .finished
  | .print => printPattern m
  | .printFirst => onOutput (Output.addLine m.mark (firstLine m s.pattern))
  | .quit prints status =>
    if prints then
      if !m.quiet then printPattern m
      writeAppended m
    return .out (.quit status)
  | .readBefore name =>
    match ← lift (Utility.content name) with
    | .ok bytes => onOutput (Output.add m.mark bytes)
    | .error _ => return .on
  | .readFile name => set { s with appended := .file name :: s.appended }
  | .readLine name =>
    match ← lineOf? m name with
    | some bytes => modify fun s => { s with appended := .text bytes :: s.appended }
    | none => return .on
  | .substitute sub => substitute m sub
  | .writeFile name => onTarget m name (Output.addLine m.mark s.pattern)
  | .writeFirst name => onTarget m name (Output.addLine m.mark (firstLine m s.pattern))
  | .translate table => setPattern (s.pattern.text.map fun b => table.getD b.toNat b)
  | .zap => setPattern []
  | .showNumber => onOutput (Output.add m.mark (Latin.toBytes (toString s.line ++ "\n")))
  return .on

/-- Carries out a script from an instruction on. -/
def workFrom (m : Manner) (code : Array Instruction) : Nat → Nat → Editor Outcome
  | 0, _ => return .finished
  | fuel + 1, n => do
    match code[n]? with
    | none =>
      if !m.quiet then printPattern m
      return .finished
    | some i =>
      if ← selects m n i.selection then
        match ← carryOut m n i.deed with
        | .on => workFrom m code fuel (n + 1)
        | .to place =>
          lift (Act.spend Act.commandTime)
          workFrom m code fuel place
        | .out outcome => return outcome
      else
        match i.deed with
        | .block stop => workFrom m code fuel stop
        | _ => workFrom m code fuel (n + 1)

/-- Works on all lines; the status. -/
def workOnLines (m : Manner) (code : Array Instruction) : Nat → Editor Nat
  | 0 => return 0
  | fuel + 1 => do
    let rec onLine : Nat → Editor (Option Nat)
      | 0 => return none
      | rounds + 1 => do
        match ← workFrom m code forever 0 with
        | .finished => return none
        | .quit status => return some status
        | .again =>
          writeAppended m
          onLine rounds
    if ← nextLine m false then
      match ← onLine forever with
      | some status => return status
      | none => workOnLines m code fuel
    else return 0

/-- Does all that a script says with some files; the status, and what there is to write. -/
def edit (m : Manner) (code : Array Instruction) (files : List String) : Act (Nat × Session) := do
  let work : Editor Nat := do
    let status ← workOnLines m code forever
    finish m
    let bad := (← get).status
    return if bad == 0 then status else bad
  let (result, session) ← (work.run).run { files, progress := Array.replicate code.size .fresh }
  return match result with
  | .ok status | .error status => (status, session)

end Editor

end ScriptCache.Shell.Edit
