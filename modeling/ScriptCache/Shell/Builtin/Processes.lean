import ScriptCache.Shell.Builtin.Basic

/-! Builtin commands for signals and for what runs in the background. -/
namespace ScriptCache.Shell.Builtin

/-! ### Jobs -/

/-- The job that a text with a percent sign names. -/
def jobOf (text : String) : Act Job := do
  let jobs := (← Act.scope).jobs
  let found := match text.toList.tail with
    | [] | ['%'] | ['+'] => jobs.head?
    | ['-'] => jobs.tail.head?
    | digits =>
      if digits.all Char.isDigit then jobs.find? fun job => some job.number == (String.ofList digits).toNat?
      else none
  match found with
  | some job => return job
  | none => Act.fail (if ["%", "%%", "%+"].contains text then "No current job" else "No such job: " ++ text)

/-- The line about a job. -/
def jobLine (jobs : List Job) (ended : List (Nat × Ending)) (withPid : Bool) (job : Job) : String :=
  let mark := if jobs.head?.any (·.pid == job.pid) then "+"
    else if jobs.tail.head?.any (·.pid == job.pid) then "-" else " "
  let state := match job.isOver ended, ended.lookup job.pid with
    | false, _ | _, none => "Running"
    | _, some (.exited 0) => "Done"
    | _, some (.exited n) => "Done(" ++ toString n ++ ")"
    | _, some (.killed signal) => (Signal.text? signal).getD ""
  let start := "[" ++ toString job.number ++ "] " ++ mark ++ " " ++
    (if withPid then toString job.pid ++ " " else "") ++ state
  start ++ String.ofList (List.replicate (33 - start.length) ' ') ++
    String.join (List.replicate (job.pids.length - 1) " | ") ++ "\n"

/-- Lists jobs. Those that have ended are listed once. -/
def jobs (args : List String) : Act Nat := do
  let (found, names) ← options ['l', 'p'] args
  let known := (← Act.scope).jobs
  let ended := (← Act.world).ended
  let chosen ← if names.isEmpty then pure known else names.mapM jobOf
  let status ← put "jobs" (String.join (chosen.map fun job =>
    if found.contains 'p' then toString job.pid ++ "\n"
    else jobLine known ended (found.contains 'l') job))
  let isListed (job : Job) : Bool := job.isOver ended && chosen.any (·.pid == job.pid)
  Act.changeScope fun s => { s with jobs := s.jobs.filter fun job => !isListed job }
  return status

/-- A job that is to run in the foreground, or to go on, which none can without job control. -/
def resumeJob (args : List String) : Act Nat := do
  let name := args.headD "%"
  let _ ← jobOf name
  Act.fail ("job " ++ args.headD "(null)" ++ " not created under job control")

/-- Waits for the end of one job; the signal that cut the waiting short, if one did. It is said
what ended those of its processes that end while it is waited for. -/
def awaitJob (job : Job) (telling : Bool) : Nat → Act (Option Nat)
  | 0 => return none
  | fuel + 1 => do
    let ended := (← Act.world).ended
    match job.pids.filter fun pid => (ended.lookup pid).isNone with
    | [] =>
      Act.changeScope fun s => { s with jobs := s.jobs.map fun known =>
        if known.pid == job.pid then { known with seen := true, waited := true } else known }
      return none
    | left =>
      Act.stop { occasion := some (.ended left), heeds := true }
      let s ← get
      left.forM fun pid =>
        match s.world.ended.lookup pid, telling with
        | some (.killed signal), true => sayEnding signal
        | _, _ => pure ()
      if left.any fun pid => (s.world.ended.lookup pid).isSome then awaitJob job telling fuel
      else return (s.world.signals.find? fun sent => sent.1 == s.scope.process).map Prod.snd

/-- The same for a job that may be over. What has ended it is said if that was not seen. -/
def awaitWhole (job : Job) : Act (Option Nat) := do
  let ended := (← Act.world).ended
  if !job.seen then
    job.pids.forM fun pid =>
      match ended.lookup pid with
      | some (.killed signal) => sayEnding signal
      | _ => pure ()
  awaitJob job true (job.pids.length + 1)

/-- Waits for some jobs in turn; the status of the last one. -/
def awaitJobs (status : Nat) : List String → Act Nat
  | [] => return status
  | text :: rest => do
    let job? ← if text.startsWith "%" then some <$> jobOf text
      else do
        let pid ← number text
        pure ((← Act.scope).jobs.find? (·.pids.contains pid))
    match job? with
    | none => awaitJobs status rest
    | some job =>
      match ← awaitWhole job with
      | some signal => return 128 + signal
      | none =>
        let ending := (← Act.world).ended.lookup job.pid
        awaitJobs ((ending.map Ending.status).getD status) rest

/-- Waits for what runs in the background. -/
def wait (args : List String) : Act Nat := do
  let (_, args) ← options [] args
  if args.isEmpty then
    let rec all : List Job → Act Nat
      | [] => return 0
      | job :: rest => do
        match ← awaitJob job false (job.pids.length + 1) with
        | some signal => return 128 + signal
        | none => all rest
    all (← Act.scope).jobs
  else awaitJobs 127 args

/-! ### Signals -/

def killUsage : Act Nat :=
  Act.fail ("Usage: kill [-s sigspec | -signum | -sigspec] [pid | job]... or\nkill -l [exitstatus]")

/-- Whether a number is that of a process that runs, or whose end nobody has seen. -/
def isProcess (pid : Nat) : Act Bool := do
  let s ← get
  return s.world.alive.any (·.1 == pid) ||
    s.scope.jobs.any fun job => job.pids.contains pid && !job.seen

/-- Sends a signal to processes. A job has no group of processes that it could be sent to. -/
def send (signal : Nat) : List String → Act Nat
  | [] => return 0
  | target :: rest => do
    let known ← if target.startsWith "%" then do
        let _ ← jobOf target
        pure false
      else do
        let pid ← number target
        let known ← isProcess pid
        if known && signal != 0 then
          Act.changeWorld fun w => { w with signals := w.signals ++ [(pid, signal)] }
        pure known
    if !known then Act.complain "No such process\n"
    let status ← send signal rest
    return max (if known then 0 else 1) status

def listSignals (args : List String) : Act Nat := do
  match args with
  | [] => put "kill" (String.join (("0" :: Signal.names.tail).map fun name => name ++ "\n"))
  | text :: _ =>
    let n ← number text
    let n := if 128 < n then n - 128 else n
    match Signal.names[n]? with
    | some name =>
      if n == 0 then Act.fail ("invalid signal number or exit status: " ++ text)
      else put "kill" (name ++ "\n")
    | none => Act.fail ("invalid signal number or exit status: " ++ text)

def kill (args : List String) : Act Nat := do
  let sendTo (signal : Nat) (targets : List String) : Act Nat :=
    if targets.isEmpty then killUsage else send signal targets
  match args with
  | [] => killUsage
  | arg :: rest =>
    match arg.toList with
    | '-' :: text =>
      match Signal.number? 1 (String.ofList text) with
      | some signal => sendTo signal rest
      | none =>
        match text with
        | ['l'] => listSignals rest
        | ['-'] => sendTo 15 rest
        | 's' :: more =>
          let (name, rest) := if more.isEmpty then (rest.head?, rest.tail) else (some (String.ofList more), rest)
          match name with
          | none => Act.fail "No arg for -s option"
          | some name =>
            match Signal.number? 1 name with
            | some signal => sendTo signal (afterDashes rest)
            | none => Act.fail ("invalid signal number or name: " ++ name)
        | c :: _ => Act.fail ("Illegal option -" ++ String.singleton c)
        | [] => killUsage
    | _ => sendTo 15 args

/-- Says what is to be done on signals. -/
def trap (args : List String) : Act Nat := do
  match afterDashes args with
  | [] =>
    let traps := (← Act.scope).traps.mergeSort fun a b => decide (a.1 ≤ b.1)
    put "trap" (String.join (traps.map fun (n, action) =>
      "trap -- " ++ inQuotes action ++ " " ++ (Signal.names[n]?).getD (toString n) ++ "\n"))
  | first :: rest =>
    let (action, signals) :=
      if rest.isEmpty || (first.toList.all Char.isDigit && (Signal.number? 0 first).isSome) then
        (none, first :: rest)
      else if first == "-" then (none, rest)
      else (some first, rest)
    let rec each : List String → Act Nat
      | [] => return 0
      | text :: rest => do
        match Signal.number? 0 text with
        | none =>
          Act.say 2 ("trap: " ++ text ++ ": bad trap\n")
          return 1
        | some n =>
          Act.changeScope fun s =>
            let others := s.traps.filter fun t => t.1 != n
            { s with traps := match action with
              | some action => (n, action) :: others
              | none => others }
          each rest
    each signals

end ScriptCache.Shell.Builtin
