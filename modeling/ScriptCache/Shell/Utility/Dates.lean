import ScriptCache.Shell.Calendar
import ScriptCache.Shell.Utility.Call

/-! The utility that tells the time. -/
namespace ScriptCache.Shell.Utility

def dateUsage : Usage where
  name := "date"
  options := [flag 'u' "utc", flag 'u' "universal", flag 'u' "uct", valued 'd' "date", valued 'r' "reference",
    flag 'R' "rfc-email", flag 'R' "rfc-822", flag 'R' "rfc-2822",
    { key := 'I', word := "iso-8601", takes := .attached }, wordValued '1' "rfc-3339", valued 'f' "file",
    valued 's' "set", wordFlag '2' "debug"]

/-- How precise an output is to be, from the date to nanoseconds, and its name. -/
def datePrecisions : List String := ["hours", "minutes", "date", "seconds", "ns"]

/-- The one of some names that a text is short for. -/
def shortFor? (names : List String) (text : String) : Option String :=
  match names.find? (· == text), names.filter (·.startsWith text) with
  | some name, _ => some name
  | none, [name] => some name
  | none, _ => none

/-- The format of an output of a precision, with a mark between the date and the time and before
the parts of a second. -/
def preciseFormat (mark point precision : String) : String :=
  "%Y-%m-%d" ++ match precision with
    | "hours" => mark ++ "%H%:z"
    | "minutes" => mark ++ "%H:%M%:z"
    | "seconds" => mark ++ "%H:%M:%S%:z"
    | "ns" => mark ++ "%H:%M:%S" ++ point ++ "%N%:z"
    | _ => ""

/-- Complains about a value that is none of some names. -/
def notAmong (name option text : String) (names : List String) : Act Nat := do
  complain name ("invalid argument " ++ quoted text ++ " for " ++ quoted option)
  Act.say 2 ("Valid arguments are:\n" ++ String.join (names.map fun n => "  - " ++ quoted n ++ "\n"))
  hinted 1 name

/-- The format that options ask for, if they ask for one; or the status after a complaint. -/
def dateFormat (found : List (Char × String)) : Act (Except Nat (Option String)) := do
  let rec each (format : Option String) : List (Char × String) → Act (Except Nat (Option String))
    | [] => return .ok format
    | (c, value) :: rest => do
      let next : Option (Except (String × List String) String) := match c with
        | 'R' => some (.ok "%a, %d %b %Y %H:%M:%S %z")
        | 'I' =>
          if value.isEmpty then some (.ok (preciseFormat "" "" "date"))
          else some (match shortFor? datePrecisions value with
            | some precision => .ok (preciseFormat "T" "," precision)
            | none => .error ("--iso-8601", datePrecisions))
        | '1' =>
          let names := ["date", "seconds", "ns"]
          some (match shortFor? names value with
            | some precision => .ok (preciseFormat " " "." precision)
            | none => .error ("--rfc-3339", names))
        | _ => none
      match next with
      | none => each format rest
      | some (.error (option, names)) => return .error (← notAmong "date" option value names)
      | some (.ok text) =>
        if format.isSome then
          complain "date" "multiple output formats specified"
          return .error 1
        else each (some text) rest
  each none found

/-- Shows the times of some lines. -/
def dateLines (format : String) : List String → Act Nat
  | [] => return 0
  | line :: rest => do
    let status ← match Calendar.read? (← Act.world).now line with
      | some time => putText (Calendar.text format time ++ "\n")
      | none => do
        complain "date" ("invalid date " ++ quoted line)
        pure 1
    return max status (← dateLines format rest)

def date (args : List String) : Act Nat :=
  withOptions dateUsage args fun found operands => do
    match ← dateFormat found with
    | .error status => return status
    | .ok format =>
      let (formats, others) := operands.partition (·.startsWith "+")
      match (['d', 'r', 'f'].filter (has found)).length, operands, format with
      | 0, _, _ | 1, _, _ =>
        match operands.drop 1, others, format, formats with
        | extra :: _, _, _, _ => extraOperand "date" extra
        | [], operand :: _, _, _ =>
          if has found 'd' || has found 'r' || has found 'f' then
            complain "date" ("the argument " ++ quoted operand ++ " lacks a leading '+';\n" ++
              "when using an option to specify date(s), any non-option\nargument must be a format string beginning with '+'")
            hinted 1 "date"
          else
            complain "date" ("invalid date " ++ quoted operand)
            return 1
        | [], [], some _, _ :: _ =>
          complain "date" "multiple output formats specified"
          return 1
        | [], [], format, formats =>
          let shown := match format, formats with
            | some text, _ => text
            | none, text :: _ => (text.drop 1).toString
            | none, [] => "%a %b %e %H:%M:%S %Z %Y"
          let w ← Act.world
          match valueOf? found 'd', valueOf? found 'r', valueOf? found 'f' with
          | some text, _, _ => dateLines shown [text]
          | none, some path, _ =>
            match w.disk.existing (Latin.toName path) false with
            | .ok id => putText (Calendar.text shown (w.disk.time id) ++ "\n")
            | .error e =>
              complain "date" (plainPath path ++ ": " ++ e.text)
              return 1
          | none, none, some path =>
            match ← content path with
            | .ok bytes => dateLines shown (textLines bytes)
            | .error e =>
              complain "date" (plainPath path ++ ": " ++ e.text)
              return 1
          | none, none, none => putText (Calendar.text shown w.now ++ "\n")
      | _, _, _ => misused "date" "the options to specify dates for printing are mutually exclusive"

end ScriptCache.Shell.Utility
