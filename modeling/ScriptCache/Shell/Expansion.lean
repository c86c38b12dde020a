import ScriptCache.Shell.Arithmetic
import ScriptCache.Shell.Pattern
import ScriptCache.Shell.Reader
import ScriptCache.Shell.State

/-! Expanding words.

A word is expanded to atoms: characters that know where they come from. What a
replacement brought in outside of quotes is split into fields at the characters of `IFS`;
a field that is a pattern stands for the files that it matches, if there are any. -/
namespace ScriptCache.Shell

/-- A part of an expanded word. -/
inductive Atom where
  /-- Some text. What is quoted means itself in a pattern, and other text may be split. -/
  | run (text : String) (quoted splits : Bool)
  /-- What makes a field of nothing. -/
  | quotes
  /-- The end of a field. -/
  | gap

/-- Where a command stands. -/
structure Stance where
  /-- Whether its failing is looked at, which then does not end the shell. -/
  tested : Bool := false
  /-- Whether its process has nothing to do after it. -/
  final : Bool := false

/-- The stance of a command that others come after. -/
def Stance.inner (stance : Stance) : Stance := { stance with final := false }

/-- How commands run and words are expanded, one level deeper. -/
structure Evaluator where
  run : Stance → Command → Act Nat
  expand : Word → Act (List Atom)
  /-- Reads a text as a script and runs it. -/
  script : (tested : Bool) → String → Act Nat
  /-- The same for a script that comes in on the standard input. -/
  lines : Reader → Act Nat

namespace Atom

/-- The text of some atoms, as one field. -/
def text (atoms : List Atom) : String :=
  atoms.foldl (fun text a => match a with
    | run more _ _ => text ++ more
    | quotes => text
    | gap => text.push ' ') ""

/-- Some atoms as a pattern. -/
def pattern (atoms : List Atom) : List Glyph :=
  atoms.flatMap fun a => match a with
    | run text quoted _ => text.toList.map (·, quoted)
    | quotes => []
    | gap => [(' ', false)]

/-- The atoms of a value. -/
def ofValue (quoted : Bool) (value : String) : List Atom :=
  if quoted then [quotes, run value true false] else [run value false true]

/-- The same atoms, to be split like a value unless they are quoted. -/
def asValue : Atom → Atom
  | run text quoted _ => run text quoted !quoted
  | a => a

/-- Some values, each a field of its own. -/
def ofValues (quoted : Bool) (values : List String) : List Atom :=
  [gap].intercalate (values.map (ofValue quoted))

end Atom

/-! ### Fields -/

/-- A field: texts in a row, each with whether it means itself in a pattern. -/
abbrev Field := List (String × Bool)

namespace Field

def text (field : Field) : String :=
  match field with
  | [(text, _)] => text
  | field => String.join (field.map Prod.fst)

def pattern (field : Field) : List Glyph :=
  field.flatMap fun (text, quoted) => text.toList.map (·, quoted)

/-- Whether a field may match anything but itself. -/
def isPattern (field : Field) : Bool :=
  field.any (fun (text, quoted) => !quoted && text.any Pattern.isSpecial) && Pattern.isActive field.pattern

end Field

/-- A field under way and the finished ones, last first. -/
structure Splitting where
  current : Option Field := none
  fields : List Field := []
  /-- Whether the last field ended at a blank, which the next separator may follow. -/
  afterBlank : Bool := false

namespace Splitting

def finish (s : Splitting) (afterBlank : Bool) : Splitting :=
  match s.current with
  | some field => ⟨none, field.reverse :: s.fields, afterBlank⟩
  | none => { s with afterBlank := s.afterBlank && afterBlank }

/-- Some more text of a field. -/
def add (s : Splitting) (text : String) (quoted : Bool) : Splitting :=
  if text.isEmpty then s else { s with current := some ((text, quoted) :: s.current.getD []) }

/-- A separator. Blanks separate however many they are; any other separator ends one field, be it
empty. -/
def separate (s : Splitting) (c : Char) : Splitting :=
  if c == ' ' || c == '\t' || c == '\n' then
    if s.current.isSome then s.finish true else s
  else if s.current.isSome then s.finish false
  else if s.afterBlank then { s with afterBlank := false }
  else { s with fields := [] :: s.fields }

/-- Text that is split, after some characters that were read of it, the last first. -/
def split (separators : List Char) (s : Splitting) : List Char → List Char → Splitting
  | under, [] => s.add (String.ofList under.reverse) false
  | under, c :: rest =>
    if separators.contains c then
      split separators ((s.add (String.ofList under.reverse) false).separate c) [] rest
    else split separators s (c :: under) rest

/-- One more atom. -/
def step (separators : List Char) (s : Splitting) : Atom → Splitting
  | .quotes => { s with current := some (s.current.getD []) }
  | .gap => s.finish false
  | .run text quoted splits =>
    if splits && text.any separators.contains then s.split separators [] text.toList
    else s.add text quoted

end Splitting

/-- The fields that atoms make. -/
def fields (separators : List Char) (atoms : List Atom) : List Field :=
  ((atoms.foldl (Splitting.step separators) {}).finish false).fields.reverse

/-! ### File names -/

/-- The parts of a pattern between slashes. -/
def patternParts (pattern : List Glyph) : List (List Glyph) :=
  pattern.foldr (fun g parts =>
    if g.1 == '/' then [] :: parts
    else match parts with
      | part :: rest => (g :: part) :: rest
      | [] => [[g]]) [[]]

/-- The names in a folder, in order, its own two among them. -/
def namesIn (disk : Disk) (folder : String) : List String :=
  let path := if folder.isEmpty then "." else folder
  match disk.find? (Latin.toName path) with
  | some (.folder entries) =>
    ("." :: ".." :: entries.map fun entry => Latin.ofName entry.1).mergeSort fun a b => decide (a ≤ b)
  | _ => []

def literal (part : List Glyph) : String :=
  String.ofList (part.map Prod.fst)

/-- The paths that the parts of a pattern match below some folders. A name that starts
with a dot is matched by a dot alone. -/
def matching (disk : Disk) : List (List Glyph) → List String → List String
  | [], found => found
  | part :: rest, found =>
    let ending := if rest.isEmpty then "" else "/"
    let next :=
      if Pattern.isActive part then
        found.flatMap fun folder =>
          ((namesIn disk folder).filter fun name =>
            (!name.startsWith "." || part.head?.any (·.1 == '.')) &&
              Pattern.holds part name.toList).map fun name => folder ++ name ++ ending
      else
        (found.map fun folder => folder ++ literal part ++ ending).filter fun path =>
          match disk.locate false (Latin.toName path) with
          | .ok (.taken ..) => true
          | _ => literal part == "" && rest.length != 0
    matching disk rest next

/-- The texts that a field stands for. -/
def named (disk : Disk) (field : Field) : List String :=
  if field.isPattern then
    match matching disk (patternParts field.pattern) [""] with
    | [] => [field.text]
    | paths => paths
  else [field.text]

/-! ### Home folders -/

/-- The home folders of those who have an account. -/
def homes : List (String × String) :=
  [("root", "/root"), ("daemon", "/usr/sbin"), ("bin", "/bin"), ("sys", "/dev"), ("sync", "/bin"),
    ("games", "/usr/games"), ("man", "/var/cache/man"), ("lp", "/var/spool/lpd"), ("mail", "/var/mail"),
    ("news", "/var/spool/news"), ("uucp", "/var/spool/uucp"), ("proxy", "/bin"), ("www-data", "/var/www"),
    ("backup", "/var/backups"), ("list", "/var/list"), ("irc", "/run/ircd"), ("_apt", "/nonexistent"),
    ("nobody", "/nonexistent")]

/-- A word that starts with a tilde, with a home folder in place of the tilde and the name
after it. -/
def withHomeAhead (own : Option String) (assigned : Bool) (word : Word) : Word :=
  match word with
  | .char '~' false :: rest =>
    let isNamePart (piece : Piece) : Bool := match piece with
      | .char c false => c != '/' && !(assigned && c == ':')
      | _ => false
    let name := rest.takeWhile isNamePart
    let after := rest.drop name.length
    let isEnded := match after with
      | [] | .char _ false :: _ => true
      | _ => false
    let home := if name.isEmpty then own else homes.lookup (literalText name)
    match isEnded, home with
    | true, some home => (home.toList.map fun c => .char c true) ++ after
    | _, _ => word
  | word => word
where
  literalText (pieces : Word) : String :=
    String.ofList (pieces.filterMap fun piece => match piece with
      | .char c _ => some c
      | _ => none)

/-- The parts of a word between the colons that are not quoted, each with its colon. -/
def colonParts (word : Word) : List Word :=
  word.foldr (fun piece parts => match piece, parts with
    | .char ':' false, parts => [piece] :: parts
    | piece, part :: rest => (piece :: part) :: rest
    | piece, [] => [[piece]]) [[]]

/-- Whether a piece is a tilde that may stand for a home folder. -/
def isTilde : Piece → Bool
  | .char '~' false => true
  | _ => false

/-- A word with home folders in place of tildes: one at its start and, if it is the value of
an assignment, those after colons. -/
def withHomes (assigned : Bool) (word : Word) : Act Word := do
  if !(if assigned then word.any isTilde else word.head?.any isTilde) then return word
  else
    let own ← Act.value? "HOME"
    if !assigned then return withHomeAhead own false word
    else
      let parts := (colonParts word).map fun part => match part with
        | .char ':' false :: rest => .char ':' false :: withHomeAhead own true rest
        | part => withHomeAhead own true part
      return parts.flatten

/-! ### Parameters -/

/-- What a parameter stands for. -/
inductive ParamValue where
  | unset
  | one (text : String)
  | many (texts : List String)

/-- The characters that fields end at. -/
def separators : Act (List Char) :=
  return ((← Act.value? "IFS").map String.toList).getD [' ', '\t', '\n']

/-- The letters of options, in the order in which they are shown. -/
def flagOrder : List Char :=
  ['u', 'b', 'a', 'C', 'E', 'V', 'v', 'x', 's', 'n', 'm', 'i', 'I', 'f', 'e']

def param (name : String) : Act ParamValue := do
  let s ← Act.scope
  match name with
  | "@" | "*" => return .many s.args
  | "#" => return .one (toString s.args.length)
  | "?" => return .one (toString s.status)
  | "-" => return .one (String.ofList (flagOrder.filter s.flags.contains))
  | "$" => return .one (toString s.pid)
  | "!" => return (s.lastJob.map toString).elim .unset .one
  | "0" => return .one s.name
  | name =>
    match name.toNat? with
    | some n => return (s.args[n - 1]?).elim .unset .one
    | none => return (← Act.value? name).elim .unset .one

/-- The atoms of a parameter's value. -/
def valueAtoms (name : String) (quoted : Bool) : ParamValue → Act (List Atom)
  | .unset => return Atom.ofValue quoted ""
  | .one text => return Atom.ofValue quoted text
  | .many texts => do
    if quoted && name == "*" then
      let joint := match (← Act.value? "IFS") with
        | none => " "
        | some ifs => (ifs.take 1).toString
      return Atom.ofValue true (joint.intercalate texts)
    else return Atom.ofValues quoted texts

/-- Complains about a parameter that is not set, if that is asked for. -/
def needSet (name : String) (v : ParamValue) : Act Unit := do
  match v with
  | .unset =>
    if (← Act.scope).flags.contains 'u' then Act.fail (name ++ ": parameter not set")
  | _ => return ()

/-- Whether a parameter counts as missing. -/
def isMissing (emptyToo : Bool) : ParamValue → Bool
  | .unset => true
  | .one text => emptyToo && text.isEmpty
  | .many texts => texts.isEmpty || (emptyToo && texts.all (·.isEmpty) && texts.length == 1)

/-- What a parameter is replaced by. -/
def expandParam (ev : Evaluator) (name : String) (use : Use) (quoted : Bool) :
    Act (List Atom) := do
  match use with
  | .broken => Act.fail "Bad substitution"
  | .value =>
    let v ← param name
    needSet name v
    valueAtoms name quoted v
  | .length =>
    let v ← param name
    needSet name v
    let n := match v with
      | .unset => 0
      | .one text => text.length
      | .many texts => (" ".intercalate texts).length
    return Atom.ofValue quoted (toString n)
  | .fallback kind emptyToo word =>
    let v ← param name
    let missing := isMissing emptyToo v
    match kind with
    | .alternative =>
      if missing then valueAtoms "" quoted (.one "")
      else return (if quoted then [.quotes] else []) ++ (← ev.expand (← withHomes false word)).map Atom.asValue
    | .default =>
      if missing then
        return (if quoted then [.quotes] else []) ++ (← ev.expand (← withHomes false word)).map Atom.asValue
      else valueAtoms name quoted v
    | .assign =>
      if missing then
        let text := Atom.text (← ev.expand (← withHomes false word))
        if !isName name then Act.fail "Bad substitution"
        Act.assign name text
        return Atom.ofValue quoted text
      else valueAtoms name quoted v
    | .refuse =>
      if missing then
        let text := Atom.text (← ev.expand (← withHomes false word))
        let text := if !word.isEmpty then text
          else if emptyToo then "parameter not set or null" else "parameter not set"
        Act.fail (name ++ ": " ++ text)
      else valueAtoms name quoted v
  | .trim atEnd longest pattern =>
    let v ← param name
    needSet name v
    let pattern := Atom.pattern (← ev.expand (← withHomes false pattern))
    let trimmed (text : String) := String.ofList (Pattern.trim pattern atEnd longest text.toList)
    match v with
    | .unset => return Atom.ofValue quoted ""
    | .one text => return Atom.ofValue quoted (trimmed text)
    | .many texts => valueAtoms name quoted (.many (texts.map trimmed))

/-! ### Commands and expressions -/

/-- A text without the newlines at its end. -/
def withoutLastNewlines (cs : List Char) : List Char :=
  (cs.reverse.dropWhile (· == '\n')).reverse

/-- The value of an expression, its assignments carried out. -/
def evaluateSum (text : String) : Act Int := do
  let s ← Act.scope
  let value? (name : String) : Except Arithmetic.Fault Int :=
    match (s.bindings.lookup name).bind (·.value) with
    | none => .ok 0
    | some text =>
      if text.isEmpty then .ok 0
      else (Arithmetic.number? text).elim (.error (.notNumber text)) .ok
  match Arithmetic.evaluate value? text with
  | .error (.notNumber text) => Act.fail ("Illegal number: " ++ text)
  | .error (.malformed problem) =>
    Act.fail ("arithmetic expression: " ++ problem ++ ": \"" ++ text ++ "\"")
  | .ok (n, assignments) =>
    assignments.reverse.forM fun (name, n) => Act.assign name (toString n)
    return n

/-- Does what is to be done at the end of a shell, and says how the shell ends. -/
def atEnd (ev : Evaluator) (work : Act Nat) : Act Nat := do
  let result ← Act.attempt work
  let status := match result with
    | .ok n => n
    | .error h => h.status
  match result, (← Act.scope).traps.lookup 0 with
  | .error (.killed signal), _ => throw (.killed signal)
  | _, some action =>
    Act.changeScope fun s => { s with status, traps := s.traps.filter fun t => t.1 != 0 }
    match ← Act.attempt (ev.script false action) with
    | .error (.exited n) | .error (.failed n) => return n
    | .error (.killed signal) => throw (.killed signal)
    | _ => return status
  | _, none => return status

/-- Works with a scope that is changed for the time being. -/
def withScope {α : Type} (change : Scope → Scope) (work : Act α) : Act α := do
  let before ← Act.scope
  Act.changeScope change
  let result ← Act.attempt work
  Act.changeScope fun _ => before
  Act.changeWorld fun w => w.marking fun disk => { disk with here := before.folder }
  Act.resume result

/-- Says what signal has ended a process, if that is worth saying. -/
def sayEnding (signal : Nat) : Act Unit := do
  match Signal.text? signal with
  | some text => Act.say 2 (text ++ "\n")
  | none => pure ()

/-- Takes notice of the ends of what was started in the background. -/
def seeJobs : Act Unit := do
  let ended := (← Act.world).ended
  if !ended.isEmpty then
    Act.changeScope fun s => { s with jobs := s.jobs.map fun job =>
      { job with seen := job.seen || job.isOver ended } }

/-- Waits until a process has ended, and says what ended it if it did not end by itself. The
ends of others are seen on the way. -/
def awaited (pid : Nat) : Act Nat := do
  let ending ← Act.await pid
  seeJobs
  match ending with
  | .killed signal => sayEnding signal
  | .exited _ => pure ()
  return ending.status

/-- Works as a process of its own. -/
def forked (work : Act Nat) : Act Nat := do
  let pid ← Act.fork id work
  Act.spend Act.forkTime
  awaited pid

/-- What a new process knows of the traps of the old one: the signals that it takes no
notice of. -/
def Scope.ignoring (s : Scope) : Scope :=
  { s with traps := s.traps.filter fun t => t.2.isEmpty }

/-- Whether something is to be done on signals or at the end. -/
def Scope.hasTraps (s : Scope) : Bool :=
  s.traps.any fun t => !t.2.isEmpty

/-- Works in a subshell, which changes what all shells share and nothing else. -/
def subshell (ev : Evaluator) (work : Act Nat) : Act Nat :=
  withScope (fun s => { s.ignoring with jobs := [] }) (atEnd ev work)

/-- A scope with another channel for a descriptor. -/
def Scope.opening (s : Scope) (descriptor channel : Nat) : Scope :=
  { s with descriptors := (descriptor, channel) :: s.descriptors.filter fun d => d.1 != descriptor }

/-- What a command writes, newlines at its end left off. -/
def outputOf (ev : Evaluator) (command : Command) : Act String := do
  let n ← Act.addChannel (.sink [])
  let pid ← Act.fork (·.opening 1 n) (subshell ev (ev.run { final := true } command))
  Act.spend Act.forkTime
  let bytes ← Act.gathered n
  let status ← awaited pid
  Act.changeScope fun s => { s with substituted := some status }
  let cs := (Latin.charsOf bytes).filter (· != '\x00')
  return String.ofList (withoutLastNewlines cs)

/-! ### Words -/

def expandPiece (ev : Evaluator) : Piece → Act (List Atom)
  | .char c quoted => return [.run (String.singleton c) quoted false]
  | .quotes => return [.quotes]
  | .param name use quoted => expandParam ev name use quoted
  | .output command quoted => return Atom.ofValue quoted (← outputOf ev command)
  | .sum expression quoted => do
    let text := Atom.text (← ev.expand expression)
    return Atom.ofValue quoted (toString (← evaluateSum text))

/-- The characters at the start of a word that are all quoted, or all not, the last first, and the
rest of the word. -/
def charRun (quoted : Bool) : List Char → Word → List Char × Word
  | seen, .char c q :: rest => if q == quoted then charRun quoted (c :: seen) rest else (seen, .char c q :: rest)
  | seen, rest => (seen, rest)

/-- The pieces at the start of a word where nothing is to be expanded, as atoms, the last first,
and the rest of the word; there are fewer than a number. -/
def plainAtoms : Nat → List Atom → Word → List Atom × Word
  | 0, seen, word => (seen, word)
  | fuel + 1, seen, word =>
    match word with
    | .char c quoted :: rest =>
      let (run, rest) := charRun quoted [c] rest
      plainAtoms fuel (.run (String.ofList run.reverse) quoted false :: seen) rest
    | .quotes :: rest => plainAtoms fuel (.quotes :: seen) rest
    | word => (seen, word)

/-- The atoms of the rest of a word, after those of its start, the last first. -/
def expandAfter (ev : Evaluator) : Nat → List Atom → Word → Act (List Atom)
  | 0, seen, _ => return seen.reverse
  | fuel + 1, seen, word => do
    match plainAtoms fuel seen word with
    | (seen, []) => return seen.reverse
    | (seen, piece :: rest) =>
      let atoms ← expandPiece ev piece
      expandAfter ev fuel (atoms.reverse ++ seen) rest

def expandPieces (ev : Evaluator) (word : Word) : Act (List Atom) :=
  expandAfter ev forever [] word

/-- The one text that a word is, where words are not split. -/
def expandText (ev : Evaluator) (word : Word) : Act String := do
  return Atom.text (← expandPieces ev (← withHomes false word))

/-- The value that a word assigns. -/
def expandValue (ev : Evaluator) (word : Word) : Act String := do
  return Atom.text (← expandPieces ev (← withHomes true word))

/-- The pattern that a word is. -/
def expandPattern (ev : Evaluator) (word : Word) : Act (List Glyph) := do
  return Atom.pattern (← expandPieces ev (← withHomes false word))

/-- The characters of a word that is itself, whatever is known; those before it were read, the last
first. -/
def itself? : List Char → Word → Option (List Char)
  | seen, [] => some seen.reverse
  | seen, .char c quoted :: rest =>
    if quoted || !Pattern.isSpecial c then itself? (c :: seen) rest else none
  | _, _ => none

/-- Whether something may be split. -/
def Atom.isSplit : Atom → Bool
  | .run _ _ splits => splits
  | .quotes | .gap => false

/-- The texts that a word is. -/
def expandWord (ev : Evaluator) (word : Word) : Act (List String) := do
  match if word.isEmpty || word.head?.any isTilde then none else itself? [] word with
  | some cs => return [String.ofList cs]
  | none =>
    let atoms ← expandPieces ev (← withHomes false word)
    let fs := fields (← if atoms.any Atom.isSplit then separators else pure []) atoms
    if (← Act.scope).flags.contains 'f' then return fs.map Field.text
    else
      let disk := (← Act.world).stored
      return fs.flatMap (named disk)

/-- The texts that words are. -/
def expandWords (ev : Evaluator) : List Word → Act (List String)
  | [] => return []
  | word :: rest => do
    let texts ← expandWord ev word
    return texts ++ (← expandWords ev rest)

end ScriptCache.Shell
