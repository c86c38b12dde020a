/-! Signals: their names, what is said about those that they end, and which of them end
nobody. -/
namespace ScriptCache.Shell.Signal

/-- The names of signals, each at its number. -/
def names : List String :=
  ["EXIT", "HUP", "INT", "QUIT", "ILL", "TRAP", "ABRT", "BUS", "FPE", "KILL", "USR1", "SEGV",
    "USR2", "PIPE", "ALRM", "TERM", "16", "CHLD", "CONT", "STOP", "TSTP", "TTIN", "TTOU", "URG",
    "XCPU", "XFSZ", "VTALRM", "PROF", "WINCH", "IO", "PWR", "SYS", "32", "33", "RTMIN"] ++
  (List.range 15).map (fun n => "RTMIN+" ++ toString (n + 1)) ++
  (List.range 14).map (fun n => "RTMAX-" ++ toString (14 - n)) ++ ["RTMAX"]

/-- The number of a signal, by its name or as it is. -/
def number? (first : Nat) (text : String) : Option Nat :=
  if !text.isEmpty && text.toList.all Char.isDigit then
    text.toNat?.bind fun n => if n < 65 then some n else none
  else
    let upper := String.ofList (text.toList.map Char.toUpper)
    (names.findIdx? (· == upper)).bind fun n => if first ≤ n then some n else none

/-- What is said about a program that a signal has ended. -/
def text? (signal : Nat) : Option String :=
  match signal with
  | 1 => some "Hangup"
  | 2 | 13 => none
  | 3 => some "Quit"
  | 4 => some "Illegal instruction"
  | 5 => some "Trace/breakpoint trap"
  | 6 => some "Aborted"
  | 7 => some "Bus error"
  | 8 => some "Floating point exception"
  | 9 => some "Killed"
  | 10 => some "User defined signal 1"
  | 11 => some "Segmentation fault"
  | 12 => some "User defined signal 2"
  | 14 => some "Alarm clock"
  | 15 => some "Terminated"
  | 16 => some "Stack fault"
  | 24 => some "CPU time limit exceeded"
  | 25 => some "File size limit exceeded"
  | 26 => some "Virtual timer expired"
  | 27 => some "Profiling timer expired"
  | 29 => some "I/O possible"
  | 30 => some "Power failure"
  | 31 => some "Bad system call"
  | n => some ("Unknown signal " ++ toString n)

/-- Whether a shell takes no notice of a signal that it has no trap for. -/
def isIgnored (signal : Nat) : Bool := [17, 18, 19, 20, 21, 22, 23, 28].contains signal

end ScriptCache.Shell.Signal
