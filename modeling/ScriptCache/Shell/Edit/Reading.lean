import ScriptCache.Shell.Edit.Basic

/-! Reading scripts that edit lines.

A script comes in pieces, expressions and files, and a fault is told with the piece and the
place in it. -/
namespace ScriptCache.Shell.Edit

/-- Where a piece of a script comes from. -/
inductive Origin where
  | expression (number : Nat)
  | file (name : String)

/-- Why a script is no script. -/
inductive Fault where
  /-- What is wrong at a place: characters of an expression, or the line of a file. -/
  | at (origin : Origin) (characters line : Nat) (text : String)
  | whole (text : String)

def Fault.text : Fault → String
  | .at (.expression n) characters _ text =>
    "-e expression #" ++ toString n ++ ", char " ++ toString characters ++ ": " ++ text
  | .at (.file name) _ line text => "file " ++ name ++ " line " ++ toString line ++ ": " ++ text
  | .whole text => text

/-- The status after a fault. -/
def Fault.status : Fault → Nat
  | .at .. => 1
  | .whole _ => 4

/-- A script that is being read. -/
structure ScriptReader where
  rest : List Char := []
  origin : Origin := .expression 1
  /-- How many characters of the piece were read, and the line. -/
  taken : Nat := 0
  line : Nat := 1
  extended : Bool := false
  /-- Whether scripts may not run commands and not name files. -/
  restricted : Bool := false
  isFirst : Bool := true
  program : Program := {}
  /-- The blocks that are open, the innermost first, and where each was opened. -/
  blocks : List (Nat × Origin × Nat) := []
  labels : List (String × Nat) := []
  /-- The start of a text that goes on in the next piece. -/
  pending : Option (List Char) := none

abbrev ReadScript := ExceptT Fault (StateM ScriptReader)

namespace ReadScript

def refuse {α : Type} (text : String) : ReadScript α := do
  let s ← get
  throw (.at s.origin s.taken s.line text)

/-- Refuses what only a script that is not restricted may say. -/
def refuseRestricted : ReadScript Unit := do
  if (← get).restricted then refuse "e/r/w commands disabled in sandbox mode"

/-- Takes one character. -/
def next? : ReadScript (Option Char) := do
  let s ← get
  match s.rest with
  | [] => return none
  | c :: rest =>
    set { s with rest, taken := s.taken + 1, line := if c == '\n' then s.line + 1 else s.line }
    return some c

/-- Puts a character back. -/
def back (c : Option Char) : ReadScript Unit :=
  match c with
  | none => return ()
  | some c => modify fun s => { s with
      rest := c :: s.rest, taken := s.taken - 1, line := if c == '\n' then s.line - 1 else s.line }

def isBlank (c : Char) : Bool := c == ' ' || c == '\t'

def isSpace (c : Char) : Bool := c == ' ' || ('\t' ≤ c && c ≤ '\r')

/-- Takes the characters up to the first that is refused. -/
def takeWhile (keep : Char → Bool) : ReadScript (List Char) := do
  let taken := (← get).rest.takeWhile keep
  modify fun s => { s with
    rest := s.rest.drop taken.length, taken := s.taken + taken.length, line := s.line + taken.count '\n' }
  return taken

/-- The next character that is no blank. -/
def nonBlank? : ReadScript (Option Char) := do
  let _ ← takeWhile isBlank
  next?

/-- The number that starts with a character, if it is a digit. -/
def numberFrom (c : Option Char) : ReadScript Nat := do
  match c with
  | some d =>
    if d.isDigit then
      let more ← takeWhile Char.isDigit
      return (String.ofList (d :: more)).toNat?.getD 0
    else
      back c
      return 0
  | none => return 0

/-- Takes what may come after an instruction. -/
def endOfInstruction : ReadScript Unit := do
  match ← nonBlank? with
  | none | some '\n' | some ';' => return ()
  | some c =>
    if c == '\x7d' || c == '#' then back (some c)
    else refuse "extra characters after command"

/-- A label or a number after an instruction. -/
def label : ReadScript String := do
  let _ ← takeWhile isBlank
  return String.ofList (← takeWhile fun c => !isSpace c && c != ';' && c != '\x7d')

/-- The name of a file, up to the end of the line. -/
def fileName : ReadScript String := do
  let _ ← takeWhile isBlank
  let name ← takeWhile (· != '\n')
  let _ ← next?
  if name.isEmpty then refuse "missing filename in r/R/w/W commands"
  return String.ofList name

/-- What a bracket is in: none, one that just opened, one under way, or a named class in it. -/
inductive BracketPlace where
  | outside
  | opened
  | inside
  | named (mark : Char)

/-- The place after a character. -/
def BracketPlace.after (place : BracketPlace) (c : Char) (following : Option Char) : BracketPlace :=
  match place with
  | outside => if c == '[' then opened else outside
  | opened => if c == '^' then opened else if c == '[' then nested following else inside
  | inside => if c == ']' then outside else if c == '[' then nested following else inside
  | named mark => if c == ']' then inside else named mark
where
  nested (following : Option Char) : BracketPlace :=
    match following with
    | some m => if m == ':' || m == '.' || m == '=' then named m else inside
    | none => inside

def BracketPlace.isOutside : BracketPlace → Bool
  | outside => true
  | _ => false

/-- What stands before a mark, with backslashes; nothing if the line ends first. A mark in a
bracket of an expression does not count. -/
def upTo (mark : Char) (isPattern : Bool) : Nat → BracketPlace → List Char → ReadScript (Option (List Char))
  | 0, _, _ => return none
  | fuel + 1, place, seen => do
    match ← next? with
    | none => return none
    | some '\n' =>
      back (some '\n')
      return none
    | some c =>
      if c == mark && (!isPattern || place.isOutside) then return some seen.reverse
      else if c == '\\' then
        match ← next? with
        | none => return none
        | some d =>
          let inside := !place.isOutside
          let place := if inside then .inside else place
          if d == 'n' && isPattern then upTo mark isPattern fuel place ('\n' :: seen)
          else if d == mark && inside then upTo mark isPattern fuel place (d :: '\\' :: seen)
          else if d == ']' && inside then upTo mark isPattern fuel .outside (d :: '\\' :: seen)
          else if d != '\n' && (d != mark || (!isPattern && d == '&')) then
            upTo mark isPattern fuel place (d :: '\\' :: seen)
          else upTo mark isPattern fuel place (if d == '\n' && !isPattern then d :: '\\' :: seen else d :: seen)
      else
        let following := (← get).rest.head?
        upTo mark isPattern fuel (if isPattern then place.after c following else place) (c :: seen)

/-- What stands before a mark. -/
def delimited (mark : Char) (isPattern : Bool) : ReadScript (Option (List Char)) := do
  upTo mark isPattern ((← get).rest.length + 1) .outside []

/-- The expression that a text is. No text stands for the last expression. -/
def pattern (text : List Char) (foldCase linewise : Bool) : ReadScript (LinePattern × Nat) := do
  let extended := (← get).extended
  let dialect : Regex.Dialect := { extended, strict := extended, foldCase, linewise }
  if text.isEmpty then return (⟨none, dialect⟩, 0)
  else
    let text := plainPattern text.length text
    let whole := String.ofList text
    if whole.startsWith "[:" && whole.endsWith ":]" && 4 < whole.length then
      throw (.whole "character class syntax is [[:space:]], not [:space:]")
    match Regex.read dialect whole with
    | .ok (e, groups) => return (⟨some e, dialect⟩, groups)
    | .error problem => refuse problem

/-- The marks after an expression that selects lines. -/
def addressFlags : Nat → Bool → Bool → ReadScript (Bool × Bool)
  | 0, foldCase, linewise => return (foldCase, linewise)
  | fuel + 1, foldCase, linewise => do
    match ← nonBlank? with
    | some 'I' => addressFlags fuel true linewise
    | some 'M' => addressFlags fuel foldCase true
    | c =>
      back c
      return (foldCase, linewise)

/-- An address that starts with a character; nothing if none does. -/
def address? (c : Option Char) : ReadScript (Option (RowEnd)) := do
  match c with
  | none => return none
  | some c =>
    if c == '/' || c == '\\' then
      let mark ← if c == '\\' then next? else pure (some c)
      match mark with
      | none => refuse "unterminated address regex"
      | some mark =>
        match ← delimited mark true with
        | none => refuse "unterminated address regex"
        | some text =>
          let (foldCase, linewise) ← addressFlags (text.length + 1000) false false
          let (p, _) ← pattern text foldCase linewise
          return some (.at (.matching p))
    else if c.isDigit then
      let n ← numberFrom (some c)
      match ← nonBlank? with
      | some '~' =>
        let step ← numberFrom (← nonBlank?)
        return some (.at (if step == 0 then .line n else .every n step))
      | c =>
        back c
        return some (.at (.line n))
    else if c == '+' then return some (.after (← numberFrom (← nonBlank?)))
    else if c == '~' then return some (.multiple (← numberFrom (← nonBlank?)))
    else if c == '$' then return some (.at .last)
    else return none

/-- The lines that an instruction is for, and the character after them. -/
def selection (c : Option Char) : ReadScript (Selection × Option Char) := do
  let (s, c) ← match ← address? c with
    | none => pure (({} : Selection), c)
    | some (.at first) => do
      match ← nonBlank? with
      | some ',' =>
        match ← address? (← nonBlank?) with
        | none => refuse "unexpected \x60,'"
        | some last => pure ({ first := some first, last := some last }, ← nonBlank?)
      | c => pure ({ first := some first }, c)
    | some _ => refuse "invalid usage of +N or ~N as first address"
  match s.first, s.last with
  | some (.line 0), some (.at (.matching _)) => pure ()
  | some (.line 0), last =>
    if last.isSome || c != some 'r' then refuse "invalid usage of line address 0"
  | _, _ => pure ()
  match c with
  | some '!' =>
    let c ← nonBlank?
    if c == some '!' then refuse "multiple \x60!'s"
    return ({ s with inverted := true }, c)
  | c => return (s, c)

/-! ### Texts -/

/-- The text up to the end of a line that no backslash stands before, with its backslashes;
and whether the piece went on to that. -/
def textFrom : Nat → List Char → ReadScript (List Char × Bool)
  | 0, seen => return (seen.reverse, true)
  | fuel + 1, seen => do
    match ← next? with
    | none => return (seen.reverse, true)
    | some '\n' => return (seen.reverse, true)
    | some '\\' =>
      match ← next? with
      | none => return (seen.reverse, false)
      | some c => textFrom fuel (c :: '\\' :: seen)
    | some c => textFrom fuel (c :: seen)

/-- The bytes of a text with its newline. -/
def textBytes (text : List Char) : Bytes :=
  Latin.toBytes (String.ofList (plainText text.length text)) ++ [10]

/-- Reads a text, which may go on in the next piece. -/
def text (start : List Char) : ReadScript Bytes := do
  let (text, isComplete) ← textFrom ((← get).rest.length + 1) start.reverse
  if isComplete then return textBytes text
  else
    modify fun s => { s with pending := some (text ++ ['\\', '\n']) }
    return textBytes text

/-- The text of an instruction: after a backslash and a newline, or in the same line. -/
def textArgument : ReadScript Bytes := do
  match ← nonBlank? with
  | none => refuse "expected \\ after \x60a', \x60c' or \x60i'"
  | some '\\' =>
    match ← next? with
    | none =>
      modify fun s => { s with pending := some [] }
      return []
    | some '\n' =>
      if (← get).rest.isEmpty then
        return [10]
      else text []
    | some c => text (if c == '\\' then ['\\'] else [c])
  | c =>
    back c
    text []

/-! ### Replacing -/

/-- The marks after a replacement. -/
structure SubstitutionMarks where
  foldCase : Bool := false
  linewise : Bool := false
  count : Option Nat := none
  global : Bool := false
  showsFirst : Bool := false
  shows : Bool := false
  runs : Bool := false
  target : Option String := none

def substitutionMarks : Nat → SubstitutionMarks → ReadScript SubstitutionMarks
  | 0, m => return m
  | fuel + 1, m => do
    match ← nonBlank? with
    | none | some '\n' | some ';' => return m
    | some c =>
      if c == 'i' || c == 'I' then substitutionMarks fuel { m with foldCase := true }
      else if c == 'm' || c == 'M' then substitutionMarks fuel { m with linewise := true }
      else if c == 'e' then
        refuseRestricted
        substitutionMarks fuel { m with runs := true, showsFirst := m.shows, shows := false }
      else if c == 'p' then
        if m.shows || m.showsFirst then refuse "multiple \x60p' options to \x60s' command"
        substitutionMarks fuel { m with shows := true }
      else if c == 'g' then
        if m.global then refuse "multiple \x60g' options to \x60s' command"
        substitutionMarks fuel { m with global := true }
      else if c == 'w' then
        refuseRestricted
        return { m with target := some (← fileName) }
      else if c.isDigit then
        if m.count.isSome then refuse "multiple number options to \x60s' command"
        let n ← numberFrom (some c)
        if n == 0 then refuse "number option to \x60s' command may not be zero"
        substitutionMarks fuel { m with count := some n }
      else if c == '\x7d' || c == '#' then
        back (some c)
        return m
      else refuse "unknown option to \x60s'"

/-- The highest group that a replacement names. -/
def highestGroup (parts : List Part) : Nat :=
  parts.foldl (fun n part => max n (part.group.getD 0)) 0

def substitution : ReadScript Deed := do
  let unterminated {α : Type} : ReadScript α := refuse "unterminated \x60s' command"
  match ← next? with
  | none => unterminated
  | some mark =>
    if mark == '\n' || mark == '\\' && (← get).rest.isEmpty then unterminated
    match ← delimited mark true with
    | none => unterminated
    | some expression =>
      match ← delimited mark false with
      | none => unterminated
      | some replacement =>
        let marks ← substitutionMarks ((← get).rest.length + 2) {}
        match marks.target with
        | some name => modify fun s => { s with program.targets := s.program.targets ++ [name] }
        | none => pure ()
        let (p, groups) ← pattern expression marks.foldCase marks.linewise
        let parts := partsOf replacement
        let highest := highestGroup parts
        if p.regex?.isSome && groups < highest then
          refuse ("invalid reference \\" ++ toString highest ++ " on \x60s' command's RHS")
        return .substitute {
          pattern := p, parts, count := marks.count.getD 1, global := marks.global, runs := marks.runs
          shows := marks.shows, showsFirst := marks.showsFirst, target := marks.target }

/-- The characters of one side of a translation. -/
def translated : Nat → List Char → List Char
  | 0, _ => []
  | _, [] => []
  | fuel + 1, '\\' :: cs =>
    match controlEscape? cs, cs with
    | some (c, rest), _ => c :: translated fuel rest
    | none, 'n' :: rest => '\n' :: translated fuel rest
    | none, c :: rest => c :: translated fuel rest
    | none, [] => ['\\']
  | fuel + 1, c :: cs => c :: translated fuel cs

def translation : ReadScript Deed := do
  let unterminated {α : Type} : ReadScript α := refuse "unterminated \x60y' command"
  match ← next? with
  | none => unterminated
  | some mark =>
    match ← delimited mark false with
    | none => unterminated
    | some source =>
      match ← delimited mark false with
      | none => unterminated
      | some target =>
        let source := translated source.length source
        let target := translated target.length target
        if source.length != target.length then refuse "strings for \x60y' command are different lengths"
        endOfInstruction
        let table := (source.zip target).foldr (fun (a, b) table => table.setIfInBounds a.toNat b.toNat.toUInt8)
          (Array.ofFn fun (n : Fin 256) => UInt8.ofNat n.val)
        return .translate table

/-! ### Instructions -/

/-- A number after an instruction, if there is one. -/
def optionalNumber : ReadScript (Option Nat) := do
  match ← nonBlank? with
  | some c =>
    let n ← if c.isDigit then some <$> numberFrom (some c) else do
      back (some c)
      pure none
    endOfInstruction
    return n
  | none => return none

def add (selection : Selection) (deed : Deed) : ReadScript Unit :=
  modify fun s => { s with program.instructions := s.program.instructions.push ⟨selection, deed⟩ }

/-- Reads the instruction that a character starts. -/
def instruction (s : Selection) (c : Char) : ReadScript Unit := do
  let plain (deed : Deed) : ReadScript Unit := do
    endOfInstruction
    add s deed
  let written (deed : String → Deed) : ReadScript Unit := do
    let name ← fileName
    modify fun s => { s with program.targets := s.program.targets ++ [name] }
    add s (deed name)
  let jump (kind : Jump) : ReadScript Unit := do add s (.jump kind (← label) 0)
  if c == '\x7b' then
    let state ← get
    set { state with blocks := (state.program.instructions.size, state.origin, state.line) :: state.blocks }
    add s (.block 0)
  else if c == '\x7d' then
    let state ← get
    match state.blocks with
    | [] => refuse "unexpected \x60\x7d'"
    | (start, _) :: blocks =>
      if s.first.isSome then refuse "\x60\x7d' doesn't want any addresses"
      endOfInstruction
      modify fun state =>
        let code := state.program.instructions
        { state with
          blocks
          program.instructions := code.modify start fun i => { i with deed := .block code.size } }
  else
    if "erRwW".toList.contains c then refuseRestricted
    match c with
    | 'a' => add s (.append (← textArgument))
    | 'i' => add s (.insert (← textArgument))
    | 'c' => add s (.change (← textArgument))
    | 'e' =>
      match ← nonBlank? with
      | none | some '\n' => add s (.run none)
      | c =>
        back c
        let (command, _) ← textFrom ((← get).rest.length + 1) []
        add s (.run (some (textBytes command)))
    | ':' =>
      if s.first.isSome then refuse ": doesn't want any addresses"
      let _ ← takeWhile isBlank
      let name := String.ofList (← takeWhile fun c => !isSpace c && c != ';' && c != '\x7d')
      if name.isEmpty then refuse "\":\" lacks a label"
      modify fun state => { state with labels := state.labels ++ [(name, state.program.instructions.size)] }
    | 'b' => jump .always
    | 't' => jump .replaced
    | 'T' => jump .notReplaced
    | '=' => plain .showNumber
    | 'd' => plain .delete
    | 'D' => plain .deleteFirst
    | 'F' => plain .showName
    | 'g' => plain .get
    | 'G' => plain .getMore
    | 'h' => plain .hold
    | 'H' => plain .holdMore
    | 'n' => plain .next
    | 'N' => plain .nextMore
    | 'p' => plain .print
    | 'P' => plain .printFirst
    | 'x' => plain .exchange
    | 'z' => plain .zap
    | 'l' => add s (.list (← optionalNumber))
    | 'q' | 'Q' =>
      if s.last.isSome then refuse "command only uses one address"
      add s (.quit (c == 'q') ((← optionalNumber).getD 0))
    | 'r' =>
      let name ← fileName
      match s.first, s.last with
      | some (.line 0), none => add { first := some (.line 1) } (.readBefore name)
      | _, _ => add s (.readFile name)
    | 'R' => add s (.readLine (← fileName))
    | 'w' => written .writeFile
    | 'W' => written .writeFirst
    | 's' => add s (← substitution)
    | 'y' => add s (← translation)
    | 'v' =>
      let version ← label
      let parts := (version.splitOn ".").map fun part => part.toNat?.getD 0
      if decide ([4, 9] < parts) then refuse "expected newer version of sed"
    | c => refuse ("unknown command: \x60" ++ String.singleton c ++ "'")

/-- Passes over a comment. The first two characters of a script may say that it is quiet. -/
def comment (s : Selection) : ReadScript Unit := do
  if s.first.isSome then refuse "comments don't accept any addresses"
  let state ← get
  let line := state.rest.takeWhile (· != '\n')
  if state.isFirst && state.taken == 1 && line == ['n'] then
    modify fun state => { state with program.quiet := true }
  let _ ← takeWhile (· != '\n')
  let _ ← next?

/-- Reads the instructions of a piece. -/
def instructions : Nat → ReadScript Unit
  | 0 => return ()
  | fuel + 1 => do
    let _ ← takeWhile fun c => c == ';' || isSpace c
    match ← next? with
    | none => return ()
    | c => do
      let (s, c) ← selection c
      match c with
      | none => refuse "missing command"
      | some '#' => comment s
      | some c => instruction s c
      instructions fuel

/-- Gives the last instruction its text. -/
def completed (text : Bytes) (code : Array Instruction) : Array Instruction :=
  code.modify (code.size - 1) fun i => { i with deed := match i.deed with
    | .append _ => .append text
    | .insert _ => .insert text
    | .change _ => .change text
    | deed => deed }

/-- Reads one piece after those that were read. -/
def piece (origin : Origin) (content : String) : ReadScript Unit := do
  modify fun s => { s with rest := content.toList, origin, taken := 0, line := 1 }
  match (← get).pending with
  | some start =>
    modify fun s => { s with pending := none }
    let whole ← text start
    modify fun s => { s with program.instructions := completed whole s.program.instructions }
  | none => pure ()
  instructions (content.length + 1)
  modify fun s => { s with isFirst := false }

/-- Finds where jumps lead. -/
def resolved : ReadScript Program := do
  let s ← get
  match s.blocks with
  | (_, origin, line) :: _ => throw (.at origin 0 line "unmatched \x60\x7b'")
  | [] => pure ()
  let code ← s.program.instructions.mapM fun i =>
    match i.deed with
    | .jump kind name _ =>
      if name.isEmpty then return { i with deed := .jump kind name s.program.instructions.size }
      else
        match s.labels.lookup name with
        | some target => return { i with deed := .jump kind name target }
        | none => throw (.whole ("can't find label for jump to \x60" ++ name ++ "'"))
    | _ => return i
  return { s.program with instructions := code }

end ReadScript

/-- The program that the pieces of a script are, or what is wrong with them; and the files that
it writes, or would. -/
def Program.read (extended restricted : Bool) (pieces : List (Origin × String)) : Except Fault Program × List String :=
  let work : ReadScript Program := do
    pieces.forM fun (origin, content) => ReadScript.piece origin content
    ReadScript.resolved
  let (result, s) := (work.run).run { extended, restricted }
  (result, s.program.targets)

end ScriptCache.Shell.Edit
