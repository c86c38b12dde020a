import ScriptCache.Shell.Builtin.Folders
import ScriptCache.Shell.Utility.Listing
import ScriptCache.Shell.Utility.Numbers
import ScriptCache.Shell.Utility.Start
import ScriptCache.Shell.Utility.System

/-! Utilities that start one program in other circumstances. -/
namespace ScriptCache.Shell.Utility

/-- A name and a value, if an argument sets a variable. -/
def setting? (arg : String) : Option (String × String) :=
  let name := arg.toList.takeWhile (· != '=')
  match arg.toList.drop name.length with
  | _ :: value => some (String.ofList name, String.ofList value)
  | [] => none

/-- Variables with one more. -/
def withSetting (bindings : List (String × Variable)) (setting : String × String) : List (String × Variable) :=
  Act.replaced setting.1 { value := some setting.2, exported := true } bindings

def envUsage : Usage where
  name := "env"
  failure := 125
  permutes := false
  options := [flag 'i' "ignore-environment", flag '0' "null", valued 'u' "unset", valued 'C' "chdir",
    valued 'S' "split-string", flag 'v' "debug"]

/-- The arguments of `env`, those that come as one text taken apart. -/
def envArguments : List String → List String
  | [] => []
  | arg :: rest =>
    let words (text : String) : List String :=
      (text.split fun c => c == ' ' || c == '\t').toList.map (·.toString) |>.filter (! ·.isEmpty)
    match arg.toList, rest with
    | ['-', 'S'], text :: rest => words text ++ rest
    | '-' :: 'S' :: text, rest => words (String.ofList text) ++ rest
    | '-' :: _, rest => arg :: envArguments rest
    | _, rest => arg :: rest

def env (start : Starter) (args : List String) : Act Nat :=
  withOptions envUsage (envArguments args) fun found operands => do
    let bare := operands.head? == some "-"
    let operands := if bare then operands.tail else operands
    let settings := (operands.takeWhile fun arg => (setting? arg).isSome).filterMap setting?
    let command := operands.drop settings.length
    let before ← Act.scope
    let given := if bare || has found 'i' then [] else before.bindings.filter (·.2.exported)
    let unset := (found.filter (·.1 == 'u')).map Prod.snd
    let bindings := settings.foldl withSetting (given.filter fun entry => !unset.contains entry.1)
    let disk ← Act.disk
    let folder? : Option (Except SysError (List NodeId)) := (valueOf? found 'C').map fun path => do
      let id ← disk.existing (Latin.toName path) false
      if Tree.isFolder disk id then return Builtin.chain disk disk.nodes.length id else throw .notFolder
    let folder : Except SysError (List NodeId) := folder?.getD (.ok before.folder)
    match folder with
    | .error e =>
      complain "env" ("cannot change directory to " ++ quotedPath ((valueOf? found 'C').getD "") ++ ": " ++ e.text)
      return 125
    | .ok folder =>
      if command.isEmpty && has found 'C' then
        misusedWith 125 "env" "must specify command with --chdir (-C)"
      else if command.isEmpty then
        let ending := if has found '0' then "\x00" else "\n"
        putText (String.join ((exportedOf bindings).map fun (name, value) => name ++ "=" ++ value ++ ending))
      else if has found '0' then misusedWith 125 "env" "cannot specify --null (-0) with command"
      else
        Act.changeWorld fun w => w.marking fun disk => { disk with here := folder }
        withScope (fun s => { s with bindings, folder }) do
          let status ← invoke start "env" quoted command
          if status == 127 && (command.headD "").toList.contains ' ' then
            complain "env" "use -[v]S to pass options in shebang lines"
          return status

/-- Runs a program that is stopped after some time. -/
def timeout (start : Starter) (args : List String) : Act Nat :=
  withOptions { name := "timeout", failure := 125, permutes := false, options := [valued 'k' "kill-after",
      valued 's' "signal", flag 'v' "verbose", wordFlag '1' "preserve-status", wordFlag '2' "foreground"] } args
    fun found operands => do
      let named := (valueOf? found 's').getD "TERM"
      let plain := if named.startsWith "SIG" then (named.drop 3).toString else named
      match operands, Signal.number? 1 plain with
      | _, none => misusedWith 125 "timeout" (quoted named ++ ": invalid signal")
      | [], _ | [_], _ => hinted 125 "timeout"
      | text :: command, some signal =>
        match span? text with
        | none => misusedWith 125 "timeout" ("invalid time interval " ++ quoted text)
        | some 0 => invoke start "timeout" failedToRun command
        | some limit =>
          let apart := !has found '2'
          let pid ← Act.fork (fun s => if apart then { s with group := s.process } else s)
            (invoke start "timeout" failedToRun command)
          let kill (signal : Nat) : Act Unit := do
            if has found 'v' then
              complain "timeout" ("sending signal " ++ (Signal.names[signal]?).getD "" ++ " to command " ++
                quoted (command.headD ""))
            let group := (← Act.scope).process
            let w ← Act.world
            let targets := if apart then (w.alive.filter (·.2 == group)).map Prod.fst else [pid]
            Act.changeWorld fun w => { w with signals := w.signals ++ targets.map fun target => (target, signal) }
          Act.stop { time := some ((← Act.world).clock + limit), occasion := some (.ended [pid]) }
          if ((← Act.world).ended.lookup pid).isSome then return (← Act.await pid).status
          else
            kill signal
            match (valueOf? found 'k').bind span? with
            | some more =>
              Act.stop { time := some ((← Act.world).clock + more), occasion := some (.ended [pid]) }
              if ((← Act.world).ended.lookup pid).isNone then kill 9
            | none => pure ()
            match ← Act.await pid with
            | .killed 9 => if apart then throw (.killed 9) else return 137
            | ending => return if has found '1' then ending.status else 124

def nice (start : Starter) (args : List String) : Act Nat := do
  let args := match args with
    | arg :: rest =>
      match arg.toList with
      | '-' :: c :: more => if c.isDigit then "-n" :: String.ofList (c :: more) :: rest else args
      | _ => args
    | [] => []
  withOptions { name := "nice", failure := 125, permutes := false, options := [valued 'n' "adjustment"] } args
    fun found operands => do
      match valueOf? found 'n' with
      | some text =>
        if text.toInt?.isNone then
          complain "nice" ("invalid adjustment " ++ quoted text)
          return 125
        else if operands.isEmpty then misusedWith 125 "nice" "a command must be given with an adjustment"
        else invoke start "nice" quoted operands
      | none => if operands.isEmpty then putText "0\n" else invoke start "nice" quoted operands

def nohup (start : Starter) (args : List String) : Act Nat := do
  match (match args with
    | "--" :: rest => rest
    | args => args) with
  | [] => misusedWith 125 "nohup" "missing operand"
  | command => invoke start "nohup" failedToRun command

/-- Starts a program after some options that change nothing of what it does. -/
def plainly (start : Starter) (name : String) (valuedOptions : List Char) (args : List String) : Act Nat :=
  withOptions { name, failure := 125, permutes := false
                options := (valuedOptions.map fun c => valued c "") ++ [flag 'w' "wait", flag 'c' "ctty", flag 'f' "fork"] }
    args fun _ operands =>
      if operands.isEmpty then misusedWith 125 name "missing operand" else invoke start name failedToRun operands

end ScriptCache.Shell.Utility
