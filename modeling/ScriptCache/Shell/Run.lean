import ScriptCache.Shell.Builtin.Table
import ScriptCache.Shell.Program
import ScriptCache.Shell.Utility.Table

/-! Running commands.

What a command does is said in terms of an `Evaluator` that runs the commands in it, and
`Evaluator.ofDepth` ties the knot for commands that nest no deeper than a number. The stages of
a pipeline are processes side by side. -/
namespace ScriptCache.Shell

/-! ### Redirections -/

/-- Why a file was not opened, in the words of a shell. -/
def openProblem (mode : FileMode) (name : String) (e : SysError) : String :=
  let (verb, missing) := match mode with
    | .read => ("open", "No such file")
    | .create | .replace | .append | .update => ("create", "Directory nonexistent")
  let text := match e with
    | .notFound | .notFolder => missing
    | e => e.text
  "cannot " ++ verb ++ " " ++ name ++ ": " ++ text

/-- Carries one redirection out. -/
def redirect (ev : Evaluator) : Redirection → Act Unit
  | .file descriptor mode name => do
    let name ← expandText ev name
    match ← Act.openFile name mode with
    | .ok n => Act.setDescriptor descriptor (some n)
    | .error e => Act.fail (openProblem mode name e)
  | .join descriptor target => do
    let target ← expandText ev target
    if target == "-" then Act.setDescriptor descriptor none
    else
      match target.toList with
      | [c] =>
        if c.isDigit then
          match ← Act.channel? (c.toNat - 48) with
          | some (n, _) => Act.setDescriptor descriptor (some n)
          | none => Act.fail (target ++ ": Bad file descriptor")
        else Act.fail "Syntax error: Bad fd number"
      | _ => Act.fail "Syntax error: Bad fd number"
  | .document descriptor content => do
    let text := Atom.text (← expandPieces ev content)
    Act.setDescriptor descriptor (some (← Act.addChannel (.source (Latin.toBytes text))))

def redirectAll (ev : Evaluator) (arrows : List Redirection) : Act Unit :=
  arrows.forM (redirect ev)

/-! ### Signals -/

/-- Takes the signals that were sent to this process. -/
def takeSignals (ev : Evaluator) : Act Unit := do
  let s ← Act.scope
  let w ← Act.world
  if w.signals.isEmpty then return ()
  let (mine, others) := w.signals.partition fun sent => sent.1 == s.process
  Act.changeWorld fun w => { w with signals := others }
  mine.forM fun (_, signal) => do
    match s.traps.lookup signal, signal == 9 with
    | some action, false =>
      let status := (← Act.scope).status
      if !action.isEmpty then
        let _ ← ev.script false action
        Act.setStatus status
    | _, _ => if !Signal.isIgnored signal then throw (.killed signal)

/-! ### Programs -/

/-- The text of a script. A folder can be opened as one and has no text. -/
def scriptText (file : String) : Act String := do
  match ← Utility.content file with
  | .ok bytes => return Latin.ofBytes bytes
  | .error .isFolder => return ""
  | .error e => Act.fail (openProblem .read file e)

/-- How a shell was called. -/
structure Invocation where
  /-- Whether the script is an argument. -/
  isCommand : Bool := false
  readsInput : Bool := false

/-- Reads the options that a shell is called with; the arguments after them. -/
def invocation : Nat → Invocation → List String → Act (Invocation × List String)
  | 0, v, args => return (v, args)
  | _, v, [] => return (v, [])
  | fuel + 1, v, arg :: rest => do
    match arg.toList with
    | ['-'] | ['-', '-'] => return (v, rest)
    | '-' :: cs =>
      let plain := cs.filter fun c => c != 'c' && c != 'l'
      let rest ← Builtin.setLetters true plain rest
      invocation fuel { isCommand := v.isCommand || cs.contains 'c'
                        readsInput := v.readsInput || cs.contains 's' } rest
    | '+' :: cs =>
      let rest ← Builtin.setLetters false (cs.filter (· != 'c')) rest
      invocation fuel { v with isCommand := v.isCommand || cs.contains 'c' } rest
    | _ => return (v, arg :: rest)

/-- How much a shell reads at once of a script that it is not given by name. -/
def scriptBlock : Nat := 8192

/-- Runs the script that comes in on the standard input. -/
def runInput (ev : Evaluator) : Act Nat := ev.lines .awaiting

/-- Runs a shell with its arguments. -/
def shellMain (ev : Evaluator) (args : List String) : Act Nat := do
  Act.changeScope fun s => { s with line := 0 }
  let (v, rest) ← invocation (args.length + 1) {} args
  let begin_ (name : Option String) (args : List String) (work : Act Nat) : Act Nat := do
    Act.changeScope fun s => { s with name := name.getD s.name, args, line := 1 }
    work
  match v.isCommand, rest with
  | true, [] => Act.fail "-c requires an argument"
  | true, text :: rest => begin_ rest.head? rest.tail (ev.script false text)
  | false, file :: rest =>
    if v.readsInput then begin_ none (file :: rest) (runInput ev)
    else begin_ (some file) rest (ev.script false (← scriptText file))
  | false, [] => begin_ none [] (runInput ev)

/-- The variables of a new shell that it is not given. -/
def ownVariables (parent : Nat) : List (String × String) :=
  [("IFS", " \t\n"), ("OPTIND", "1"), ("PPID", toString parent), ("PS1", "# "), ("PS2", "> "), ("PS4", "+ ")]

/-- Runs a new shell, which is given the exported variables. -/
def startShell (ev : Evaluator) (name : String) (args : List String) : Act Nat := do
  let physical ← Builtin.physicalPath
  let disk ← Act.disk
  let fresh (s : Scope) : Scope :=
    let own := ownVariables s.parent
    let path := ((s.environment.lookup "PWD").bind (·.value)).getD ""
    let isRight := path.startsWith "/" && (disk.existing (Latin.toName path) false).toOption == s.folder.head?
    let path := if isRight then path else physical
    let given := Act.replaced "PWD" { value := some path, exported := true } s.environment
    let given := given.filter fun entry => (own.lookup entry.1).isNone
    { name, pid := s.process, process := s.process, parent := s.parent, group := s.group
      bindings := own.map (fun (name, value) => (name, { value := some value })) ++
        given.map fun (name, v) => (name, { v with locked := false })
      descriptors := s.descriptors
      folder := s.folder
      path
      umask := s.umask
      fileLimit := s.fileLimit
      traps := s.ignoring.traps }
  withScope fresh (atEnd ev (shellMain ev args))

/-- Runs a program that is no shell, under a name. -/
def runUtility (name : String) (work : Act Nat) : Act Nat :=
  let fresh (s : Scope) : Scope :=
    { s.ignoring with
      name, bindings := s.environment, kept := []
      unwritten := none, pending := [], pendingSize := 0, writtenSize := 0 }
  withScope fresh work

/-- How deep programs may start others in their place. -/
def startLimit : Nat := 100

/-- Runs what a path leads to in place of the process, under the name that it was called by.
An unmarked file is taken for a script. -/
def start (ev : Evaluator) : Nat → String → String → List String → Act (Except SysError Nat)
  | 0, _, _, _ => return .error .tooManyLinks
  | fuel + 1, path, name, args => do
    match resolve (← Act.disk) Utility.programs scriptLimit path name args with
    | .error .notProgram => return .ok (← startShell ev name (path :: args))
    | .error e => return .error e
    | .ok found =>
      Act.spend Act.programTime
      match found.program with
      | "sh" | "dash" => return .ok (← startShell ev found.name found.args)
      | program =>
        let work := Utility.run? (start ev fuel) program found.args
        return .ok (← runUtility found.name (work.getD (return 127)))

/-- Starts a program by its name, in place of a process that has nothing else to do. -/
def runCommand (ev : Evaluator) (stance : Stance) (find : String → Act (Except SysError String))
    (name : String) (args : List String) : Act Nat := do
  let inPlace := stance.final && !(← Act.scope).hasTraps
  match ← find name with
  | .ok path =>
    (if inPlace then id else forked) do
      match ← start ev startLimit path name args with
      | .ok status => return status
      | .error e =>
        Act.complain (name ++ ": " ++ startProblem e)
        return if e == .notFound || e == .notFolder then 127 else 126
  | .error e =>
    let missing := e == .notFound || e == .notFolder
    let text := if name.isEmpty then SysError.accessDenied.text
      else if missing then "not found" else e.text
    Act.complain (name ++ ": " ++ text)
    return if missing || !name.toList.contains '/' then 127 else 126

/-! ### Commands that run others -/

/-- How deep functions may call each other. -/
def callLimit : Nat := 1000

/-- Runs a function with its own arguments and local variables. -/
def callFunction (ev : Evaluator) (stance : Stance) (body : Command) (args : List String) :
    Act Nat := do
  let outerArgs := (← Act.scope).args
  let outerLocals := (← Act.scope).locals
  let outerLoops := (← Act.scope).loops
  if callLimit ≤ outerLocals.length then
    Act.fail ("Maximum function recursion depth (" ++ toString callLimit ++ ") reached")
  Act.changeScope fun s => { s with args, locals := [] :: s.locals, loops := 0 }
  let result ← Act.attempt (ev.run stance.inner body)
  ((← Act.scope).locals.headD []).forM fun (name, old) => Act.putVariable name old
  Act.changeScope fun s =>
    { s with args := outerArgs, locals := outerLocals, loops := outerLoops }
  match result with
  | .error (.returned n) => return n
  | r => Act.resume r

/-- Works in the name of a builtin command. -/
def asBuiltin (name : String) (work : Act Nat) : Act Nat := do
  let before := (← Act.scope).builtin
  Act.changeScope fun s => { s with builtin := some name }
  let result ← Act.attempt work
  Act.changeScope fun s => { s with builtin := before }
  Act.resume result

/-- What a command name is found to be: as a command could be written, and in words. -/
def describeName (find : String → Act (Except SysError String)) (name : String) :
    Act (Option (String × String)) := do
  let s ← Act.scope
  if (Keyword.of? name).isSome then return some (name, "is a shell keyword")
  match s.aliases.lookup name with
  | some value =>
    return some ("alias " ++ name ++ "=" ++ Builtin.inQuotes value, "is an alias for " ++ value)
  | none =>
    if Builtin.isSpecial name then return some (name, "is a special shell builtin")
    else if (s.functions.lookup name).isSome then return some (name, "is a shell function")
    else if Builtin.isBuiltin name then return some (name, "is a shell builtin")
    else
      match s.hashed.lookup name with
      | some path => return some (path, "is a tracked alias for " ++ path)
      | none =>
        if name.toList.contains '/' then
          return if (← Act.disk).exists? (Latin.toName name) then some (name, "is " ++ name) else none
        else
          match ← find name with
          | .ok path => return some (path, "is " ++ path)
          | .error _ => return none

/-- Says what a command name is found to be. -/
def typeName (find : String → Act (Except SysError String)) (name : String) : Act Nat := do
  match ← describeName find name with
  | some (_, text) => Builtin.put "type" (name ++ " " ++ text ++ "\n")
  | none =>
    let _ ← Builtin.put "type" (name ++ ": not found\n")
    return 127

def typeNames : List String → Act Nat
  | [] => return 0
  | name :: rest => do
    let status ← typeName commandPath name
    return max status (← typeNames rest)

/-- Looks programs up, or lists those that were found. -/
def hashed (args : List String) : Act Nat := do
  let (found, names) ← Builtin.options ['r'] args
  let rec each : List String → Act Nat
    | [] => return 0
    | name :: rest => do
      let known := Builtin.isBuiltin name || ((← Act.scope).functions.lookup name).isSome ||
        name.toList.contains '/'
      let known ← if known then pure true else do
        match ← commandPath name with
        | .ok _ => pure true
        | .error _ =>
          Act.complain (name ++ ": not found")
          pure false
      return max (if known then 0 else 1) (← each rest)
  if !found.isEmpty then
    Act.changeScope fun s => { s with hashed := [] }
    return 0
  else if names.isEmpty then
    let known := (← Act.scope).hashed.mergeSort fun a b => commandRank a.1 ≤ commandRank b.1
    Builtin.put "hash" (String.join (known.map fun entry => entry.2 ++ "\n"))
  else each names

/-- Runs the script in a file. -/
def source (ev : Evaluator) (tested : Bool) (args : List String) : Act Nat := do
  match args with
  | [] => return 0
  | name :: _ =>
    if !name.toList.contains '/' then Act.fail (name ++ ": not found")
    let text ← scriptText name
    let result ← Act.attempt (asBuiltin name (ev.script tested text))
    match result with
    | .error (.returned n) => return n
    | r => Act.resume r

/-- Puts a program in the place of the shell. -/
def exec (ev : Evaluator) (args : List String) : Act Nat := do
  match args with
  | [] => return 0
  | name :: rest =>
    let refused (e : SysError) : Act Nat := do
      Act.complain (name ++ ": " ++ startProblem e)
      throw (.exited (if e == .notFound || e == .notFolder then 127 else 126))
    match ← commandPath name with
    | .error e => refused e
    | .ok path =>
      match ← start ev startLimit path name rest with
      | .ok status => throw (.exited status)
      | .error e => refused e

/-- Runs a builtin command. -/
def runBuiltin (ev : Evaluator) (tested : Bool) (name : String) (args : List String) :
    Act Nat :=
  asBuiltin name <|
    match name with
    | "eval" => if args.isEmpty then return 0 else ev.script tested (" ".intercalate args)
    | "exec" => exec ev args
    | "." => source ev tested args
    | "hash" => hashed args
    | "type" => typeNames args
    | _ => (Builtin.run? name args).getD (return 127)

/-- A regular command that gives up leaves a status and nothing more. -/
def surviving (work : Act Nat) : Act Nat := do
  match ← Act.attempt work with
  | .error (.failed n) => return n
  | r => Act.resume r

/-- Runs a builtin command or a program, and no function; or says what would be run. -/
def commandBuiltin (ev : Evaluator) (stance : Stance) (args : List String) : Act Nat := do
  let (found, operands) ← Builtin.options ['p', 'v', 'V'] args
  let find := if found.contains 'p' then pathIn (":".intercalate Disk.programFolders) else commandPath
  match operands with
  | [] => return 0
  | name :: rest =>
    if found.contains 'V' then typeName find name
    else if found.contains 'v' then
      match ← describeName find name with
      | some (text, _) => Builtin.put "command" (text ++ "\n")
      | none => return 127
    else if Builtin.isBuiltin name then surviving (runBuiltin ev stance.tested name rest)
    else runCommand ev stance find name rest

/-- Works with assignments that come before a command. They last only as long as it does,
unless it is a special builtin command. -/
def withAssignments {α : Type} (command : String) (assignments : List String)
    (assign : Act Unit) (work : Act α) : Act α := do
  let exportAll : Act Unit := assignments.forM fun name => do
    let v ← Act.variableOf? name
    Act.putVariable name (v.map fun v => { v with exported := true })
  if Builtin.isSpecial command then
    assign
    if command == "exec" then exportAll
    work
  else
    Act.withVariables assignments do
      assign
      exportAll
      work

/-- Runs what a command name stands for. -/
def dispatch (ev : Evaluator) (stance : Stance) (name : String) (args : List String) :
    Act Nat := do
  if Builtin.isSpecial name then runBuiltin ev stance.tested name args
  else
    match (← Act.scope).functions.lookup name with
    | some body => callFunction ev stance body args
    | none =>
      if name == "command" then commandBuiltin ev stance args
      else if Builtin.isBuiltin name then surviving (runBuiltin ev stance.tested name args)
      else runCommand ev stance commandPath name args

/-! ### Commands -/

/-- Shows a command before it runs, if that is asked for, where errors went before the
command's own redirections. -/
def trace (descriptors : List (Nat × Nat)) (texts : List String) : Act Unit := do
  let s ← Act.scope
  if s.flags.contains 'x' then
    Act.withDescriptors (Act.changeScope fun s => { s with descriptors }) do
      Act.say 2 ((← Act.value? "PS4").getD "" ++ " ".intercalate texts ++ "\n")

/-- Carries assignments out one after the other; what they were, as texts. -/
def assignAll (ev : Evaluator) : List (String × Word) → Act (List String)
  | [] => return []
  | (name, word) :: rest => do
    let value ← expandValue ev word
    Act.assign name value
    return (name ++ "=" ++ value) :: (← assignAll ev rest)

/-- Puts descriptors aside while a command may have others. -/
def keeping (s : Scope) : Scope :=
  { s with kept := s.holdings }

/-- Takes descriptors up again. -/
def restoring (descriptors : List (Nat × Nat)) (kept : List Nat) (s : Scope) : Scope :=
  { s with descriptors, kept }

/-- The commands whose arguments can be assignments. -/
def assigning : List String := ["alias", "export", "local", "readonly"]

/-- The texts that the words of a command are, after those that were read; `name` is the first of
these that is neither `command` nor an option of that. Words that assign are not split where
the command is one for that. -/
def commandWords (ev : Evaluator) : (name : Option String) → List Word → Act (List String)
  | _, [] => return []
  | name, word :: rest => do
    let assigns ← match name with
      | none => pure false
      | some name => do
        pure (assigning.contains name && ((← Act.scope).functions.lookup name).isNone)
    let texts ← match if assigns then assignment? word else none with
      | some (variable_, value) => pure [variable_ ++ "=" ++ (← expandValue ev value)]
      | none => expandWord ev word
    let name := name.orElse fun () => texts.find? fun text => !(text == "command" || text.startsWith "-")
    return texts ++ (← commandWords ev name rest)

def simple (ev : Evaluator) (stance : Stance) (line : Nat) (assignments : List (String × Word))
    (words : List Word) (arrows : List Redirection) : Act Nat := do
  Act.spend Act.commandTime
  Act.changeScope fun s => { s with line, substituted := none }
  let args ← commandWords ev none words
  let special := (args.head?.map Builtin.isSpecial).getD false
  let descriptors := (← Act.scope).descriptors
  let kept := (← Act.scope).kept
  if !arrows.isEmpty then Act.changeScope keeping
  match ← Act.attempt (redirectAll ev arrows) with
  | .error h =>
    Act.changeScope (restoring descriptors kept)
    match h, special with
    | .failed n, false => return n
    | h, _ => throw h
  | .ok () =>
    let result ← Act.attempt do
      match args with
      | [] =>
        let texts ← assignAll ev assignments
        if !texts.isEmpty then trace descriptors texts
        return (← Act.scope).substituted.getD 0
      | name :: rest =>
        let assign : Act Unit := do trace descriptors ((← assignAll ev assignments) ++ args)
        withAssignments name (assignments.map Prod.fst) assign (dispatch ev stance name rest)
    Act.changeScope (if args == ["exec"] then fun s => { s with kept } else restoring descriptors kept)
    Act.resume result

/-- How one round of a loop ended. -/
inductive Round where
  | finished (status : Nat)
  | left
  | again

/-- Runs a part of a loop, up to the end of a round. -/
def round (work : Act Nat) : Act Round := do
  Act.changeScope fun s => { s with loops := s.loops + 1 }
  let result ← Act.attempt work
  Act.changeScope fun s => { s with loops := s.loops - 1 }
  match result with
  | .ok n => return .finished n
  | .error (.broke n) => if n ≤ 1 then return .left else throw (.broke (n - 1))
  | .error (.continued n) => if n ≤ 1 then return .again else throw (.continued (n - 1))
  | .error h => throw h

def loopFrom (ev : Evaluator) (stance : Stance) (until_ : Bool) (condition body : Command) :
    Nat → Nat → Act Nat
  | 0, status => return status
  | fuel + 1, status => do
    match ← round (ev.run { tested := true } condition) with
    | .left => return 0
    | .again => loopFrom ev stance until_ condition body fuel 0
    | .finished n =>
      if (n == 0) == until_ then return status
      else
        match ← round (ev.run stance.inner body) with
        | .left => return 0
        | .again => loopFrom ev stance until_ condition body fuel 0
        | .finished n => loopFrom ev stance until_ condition body fuel n

def eachFrom (ev : Evaluator) (stance : Stance) (name : String) (body : Command) :
    Nat → List String → Act Nat
  | status, [] => return status
  | _, value :: rest => do
    Act.assign name value
    match ← round (ev.run stance.inner body) with
    | .left => return 0
    | .again => eachFrom ev stance name body 0 rest
    | .finished n => eachFrom ev stance name body n rest

def matchesAny (ev : Evaluator) (text : String) : List Word → Act Bool
  | [] => return false
  | word :: rest => do
    if Pattern.holds (← expandPattern ev word) text.toList then return true
    else matchesAny ev text rest

def selectFrom (ev : Evaluator) (stance : Stance) (text : String) :
    List (List Word × Command) → Act Nat
  | [] => return 0
  | (patterns, body) :: rest => do
    if ← matchesAny ev text patterns then ev.run stance body else selectFrom ev stance text rest

/-- Looks the program of a stage up, if its name is a plain one. -/
def lookUp : Command → Act Unit
  | .simple _ _ (word :: _) _ => do
    match plain? word with
    | some name =>
      let s ← Act.scope
      if isName name && !Builtin.isBuiltin name && (s.functions.lookup name).isNone then
        let _ ← commandPath name
    | none => pure ()
  | _ => return ()

/-- Starts stages, each of which reads what the one before writes; their numbers. -/
def startStages (ev : Evaluator) (stance : Stance) (change : Scope → Scope) :
    Option Nat → List Command → Act (List Nat)
  | _, [] => return []
  | input, stage :: rest => do
    lookUp stage
    let outlet ← if rest.isEmpty then pure none else some <$> Act.addPipe
    let child (s : Scope) : Scope :=
      let s := change s
      let s := input.elim s (s.opening 0)
      outlet.elim s fun n => s.opening 1 (n + 1)
    let pid ← Act.fork child (subshell ev (ev.run { stance with final := true } stage))
    return pid :: (← startStages ev stance change outlet rest)

/-- Waits until some processes have ended, and says what ended those that did not end by
themselves; the status of the last one. -/
def awaitStages (last : Nat) : (status : Nat) → Nat → List Nat → Act Nat
  | status, 0, _ => return status
  | status, _, [] => return status
  | status, fuel + 1, pids => do
    if !((← Act.world).ended.any fun entry => pids.contains entry.1) then
      Act.stop { occasion := some (.ended pids) }
    match (← Act.world).ended.reverse.find? fun entry => pids.contains entry.1 with
    | none => return status
    | some (pid, _) =>
      let own ← awaited pid
      awaitStages last (if pid == last then own else status) fuel (pids.filter (· != pid))

/-- Runs stages side by side. -/
def stages (ev : Evaluator) (stance : Stance) (all : List Command) : Act Nat := do
  let pids ← startStages ev stance id none all
  Act.spend (Act.forkTime * pids.length)
  awaitStages (pids.getLast?.getD 0) 0 pids.length pids

/-- The number of the next job, the lowest that is free. -/
def nextJob (jobs : List Job) : Nat :=
  ((List.range (jobs.length + 1)).map (· + 1)).find? (fun n => !jobs.any (·.number == n)) |>.getD 1

/-- What a process knows that is started in the background: it takes no notice of what is meant
for the foreground. -/
def Scope.inBackground (s : Scope) : Scope :=
  { s with loops := 0, jobs := [], traps := [(2, ""), (3, "")] ++ s.ignoring.traps }

/-- Starts a command in the background. It reads nothing unless it is told to. -/
def startJob (ev : Evaluator) (command : Command) : Act Unit := do
  let nothing ← Act.addChannel (.source [])
  let pids ← match command with
    | .pipeline all => startStages ev {} Scope.inBackground (some nothing) all
    | command => do
      let pid ← Act.fork (·.inBackground.opening 0 nothing) (atEnd ev (ev.run { final := true } command))
      pure [pid]
  let ended := (← Act.world).ended
  Act.changeScope fun s =>
    let known := s.jobs.filter fun job => !(job.waited && job.isOver ended)
    { s with
      jobs := { number := nextJob known, pids } :: known
      lastJob := pids.getLast? }
  Act.spend Act.forkTime

/-- Runs a command, its parts being run by `ev`. -/
def evaluate (ev : Evaluator) (stance : Stance) (command : Command) : Act Nat := do
  if (← Act.scope).flags.contains 'n' then return (← Act.scope).status
  let status ← match command with
    | .nothing => pure 0
    | .simple line assignments words arrows => simple ev stance line assignments words arrows
    | .pipeline all => stages ev stance all
    | .negation c => do
      let n ← ev.run { tested := true } c
      pure (if n == 0 then 1 else 0)
    | .sequence a b => do
      let _ ← ev.run stance.inner a
      ev.run stance b
    | .conjunction a b => do
      let n ← ev.run { tested := true } a
      if n == 0 then ev.run stance b else pure n
    | .disjunction a b => do
      let n ← ev.run { tested := true } a
      if n == 0 then pure n else ev.run stance b
    | .background c => do
      startJob ev c
      pure 0
    | .redirected line body arrows => do
      Act.changeScope fun s => { s with line }
      let descriptors := (← Act.scope).descriptors
      let kept := (← Act.scope).kept
      Act.changeScope keeping
      let result ← Act.attempt (redirectAll ev arrows)
      let result ← match result with
        | .error (.failed n) => pure (Except.ok n)
        | .error h => pure (.error h)
        | .ok () => Act.attempt (ev.run stance.inner body)
      Act.changeScope (restoring descriptors kept)
      Act.resume result
    | .subshell line body arrows => do
      Act.changeScope fun s => { s with line }
      let inPlace := stance.final && !(← Act.scope).hasTraps
      (if inPlace then id else forked) <| subshell ev do
        redirectAll ev arrows
        ev.run { stance with final := true } body
    | .choice condition yes no => do
      let n ← ev.run { tested := true } condition
      if n == 0 then ev.run stance yes else ev.run stance no
    | .loop until_ condition body => loopFrom ev stance until_ condition body forever 0
    | .each line name words body => do
      Act.changeScope fun s => { s with line }
      let values ← expandWords ev words
      eachFrom ev stance name body 0 values
    | .select line word items => do
      Act.changeScope fun s => { s with line }
      selectFrom ev stance (← expandText ev word) items
    | .definition _ name body => do
      Act.changeScope fun s => { s with functions := Act.replaced name body s.functions }
      pure 0
  Act.setStatus status
  takeSignals ev
  let checked := match command with
    | .simple .. | .pipeline _ | .subshell .. | .background _ => true
    | _ => false
  if checked && !stance.tested && status != 0 && (← Act.scope).flags.contains 'e' then
    throw (.exited status)
  return status

/-- Runs the lines of a script one after the other. If it is not whole, the rest comes from the
standard input. -/
def linesFrom (ev : Evaluator) (tested : Bool) : Nat → Nat → Reader → Act Nat
  | 0, status, _ => return status
  | fuel + 1, status, reader => do
    match { reader with aliases := (← Act.scope).aliases }.line? with
    | .error .incomplete =>
      match ← Act.read 0 fun _ => scriptBlock with
      | .error _ | .ok [] => linesFrom ev tested fuel status reader.whole
      | .ok bytes => linesFrom ev tested fuel status (reader.fed (Latin.ofBytes bytes))
    | .error (.refused line text) =>
      Act.changeScope fun s => { s with line }
      Act.fail ("Syntax error: " ++ text)
    | .ok none => return status
    | .ok (some (.nothing, after)) => linesFrom ev tested fuel status after
    | .ok (some (command, after)) =>
      linesFrom ev tested fuel (← ev.run { tested } command) after

/-- Runs commands that nest no deeper than a number. -/
def Evaluator.ofDepth : Nat → Evaluator
  | 0 =>
    { run := fun _ _ => throw (.failed 2)
      expand := fun _ => throw (.failed 2)
      script := fun _ _ => throw (.failed 2)
      lines := fun _ => throw (.failed 2) }
  | depth + 1 =>
    { run := fun stance command next halt s => evaluate (ofDepth depth) stance command next halt s
      expand := fun word next halt s => expandPieces (ofDepth depth) word next halt s
      script := fun tested text next halt s =>
        linesFrom (ofDepth depth) tested forever 0 (.ofText text) next halt s
      lines := fun reader next halt s => linesFrom (ofDepth depth) false forever 0 reader next halt s }

end ScriptCache.Shell
