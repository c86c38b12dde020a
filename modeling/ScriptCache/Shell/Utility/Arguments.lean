import ScriptCache.Shell.Format
import ScriptCache.Shell.Utility.Start

/-! Programs with arguments from the input. -/
namespace ScriptCache.Shell.Utility

/-- The words of a text, where blanks and newlines end them, quotes keep them together and a
backslash keeps one character; each with whether a line ends after it. Nothing if a quote has
no end. -/
def inputWords : Nat → Option (List Char) → List Char → Except String (List (String × Bool))
  | 0, _, _ => .ok []
  | _, under, [] => .ok ((under.map fun cs => (String.ofList cs.reverse, true)).toList)
  | fuel + 1, under, c :: rest =>
    let finish (line : Bool) : Except String (List (String × Bool)) := do
      let more ← inputWords fuel none rest
      match under with
      | some cs => return (String.ofList cs.reverse, line) :: more
      | none => return more
    let quotedPart (q : Char) (kind : String) : Except String (List (String × Bool)) :=
      let inner := rest.takeWhile fun c => c != q && c != '\n'
      match rest.drop inner.length with
      | [] | '\n' :: _ => .error ("unmatched " ++ kind ++
          " quote; by default quotes are special to xargs unless you use the -0 option")
      | _ :: after => inputWords fuel (some (inner.reverse ++ under.getD [])) after
    if c == '\n' then finish true
    else if c == ' ' || c == '\t' then finish false
    else if c == '\x27' then quotedPart c "single"
    else if c == '"' then quotedPart c "double"
    else if c == '\\' then
      match rest with
      | next :: after => inputWords fuel (some (next :: under.getD [])) after
      | [] => inputWords fuel under []
    else inputWords fuel (some (c :: under.getD [])) rest

/-- The items of a text that a mark ends. -/
def markedItems (mark : UInt8) (bytes : Bytes) : List (String × Bool) :=
  (piecesAt mark bytes).map fun piece => (Latin.ofBytes (withoutMark mark piece), true)

/-- Items in groups of so many. -/
def grouped {α : Type} (size : Nat) : Nat → List α → List (List α)
  | 0, _ => []
  | _, [] => []
  | fuel + 1, items => items.take size :: grouped size fuel (items.drop size)

/-- Items in groups of so many lines. -/
def byLines (size : Nat) (items : List (String × Bool)) : List (List (String × Bool)) :=
  let (under, done, _) := items.foldl (fun (under, done, n) item =>
    let n := if item.2 then n + 1 else n
    if item.2 && n == size then ([], (item :: under).reverse :: done, 0) else (item :: under, done, n))
    (([] : List (String × Bool)), ([] : List (List (String × Bool))), 0)
  (if under.isEmpty then done else under.reverse :: done).reverse

/-- The separator that an option of `xargs` is. -/
def itemMark (text : String) : UInt8 :=
  match text.toList with
  | '\\' :: rest => ((escape? rest).map fun (c, _) => c.toNat.toUInt8).getD 92
  | c :: _ => c.toNat.toUInt8
  | [] => 0

/-- A text with every place of another one replaced. -/
def substituted (mark item text : String) : String :=
  if mark.isEmpty then text else item.intercalate (text.splitOn mark)

def xargsUsage : Usage where
  name := "xargs"
  permutes := false
  options := [flag '0' "null", valued 'a' "arg-file", valued 'd' "delimiter", valued 'E' "", { key := 'e', takes := .attached },
    valued 'I' "", { key := 'i', word := "replace", takes := .attached }, valued 'L' "max-lines",
    { key := 'l', takes := .attached }, valued 'n' "max-args", valued 'P' "max-procs", flag 'p' "interactive",
    flag 'r' "no-run-if-empty", valued 's' "max-chars", flag 't' "verbose", flag 'x' "exit", flag 'o' "open-tty"]

/-- The status of `xargs` after commands, of which a failing one may end it. -/
def xargsRun (start : Starter) (verbose : Bool) : Nat → List (List String) → Act Nat
  | status, [] => return status
  | status, command :: rest => do
    if verbose then Act.say 2 (" ".intercalate command ++ "\n")
    let name := command.headD ""
    let nothing ← Act.addChannel (.source [])
    let pid ← Act.fork (·.opening 0 nothing) (invoke start "xargs" (fun name => name) command)
    match ← Act.await pid with
    | .killed signal =>
      complain "xargs" (name ++ ": terminated by signal " ++ toString signal)
      return 125
    | .exited 255 =>
      complain "xargs" (name ++ ": exited with status 255; aborting")
      return 124
    | .exited n =>
      if n == 126 || n == 127 then return n
      else xargsRun start verbose (if n == 0 then status else 123) rest

def xargs (start : Starter) (args : List String) : Act Nat :=
  withOptions xargsUsage args fun found operands => do
    let badNumber := found.find? fun o => (o.1 == 'n' || o.1 == 'L') && (decimal? o.2).isNone
    let zero := found.find? fun o => (o.1 == 'n' || o.1 == 'L') && (decimal? o.2) == some 0
    match badNumber, zero with
    | some (c, text), _ =>
      misused "xargs" ("invalid number \"" ++ text ++ "\" for -" ++ String.singleton c ++ " option")
    | none, some (c, _) =>
      misused "xargs" ("value 0 for -" ++ String.singleton c ++ " option should be >= 1")
    | none, none =>
      let read ← match valueOf? found 'a' with
        | some path => content path
        | none => Act.readAll 0
      let bytes := match read with
        | .ok bytes => bytes
        | .error _ => []
      match valueOf? found 'a', read with
      | some path, .error e =>
        complain "xargs" ("Cannot open input file " ++ quoted path ++ ": " ++ e.text)
        return 1
      | _, _ => pure ()
      let ended (status : Nat) : Act Nat := do
        match read with
        | .ok _ => return status
        | .error e =>
          complain "xargs" ("error closing file" ++ if e == .badHandle then ": " ++ e.text else "")
          return 1
      let text := Latin.charsOf bytes
      let replaced := match valueOf? found 'I', valueOf? found 'i' with
        | some mark, _ => some mark
        | none, some mark => some (if mark.isEmpty then "\x7b\x7d" else mark)
        | none, none => none
      let items : Except String (List (String × Bool)) :=
        if has found '0' then .ok (markedItems 0 bytes)
        else match valueOf? found 'd' with
          | some mark => .ok (markedItems (itemMark mark) bytes)
          | none =>
            if replaced.isSome then
              .ok (((textLines bytes).map fun line =>
                (String.ofList (line.toList.dropWhile Arithmetic.isBlank), true)).filter fun item => !item.1.isEmpty)
            else inputWords (text.length + 1) none text
      match items with
      | .error problem =>
        complain "xargs" problem
        return 1
      | .ok items =>
        let items := match (valueOf? found 'E').orElse fun () => valueOf? found 'e' with
          | some ending => if ending.isEmpty then items else items.takeWhile fun item => item.1 != ending
          | none => items
        let command := if operands.isEmpty then ["echo"] else operands
        let verbose := has found 't'
        match replaced with
        | some mark =>
          ended <| ← xargsRun start verbose 0 (items.map fun item =>
            command.headD "" :: command.tail.map (substituted mark item.1))
        | none =>
          let groups := match (valueOf? found 'n').bind decimal?, ((valueOf? found 'L').orElse fun () =>
              (valueOf? found 'l').map fun text => if text.isEmpty then "1" else text).bind decimal? with
            | some n, _ => grouped n items.length items
            | none, some n => byLines n items
            | none, none => [items]
          let groups := if items.isEmpty then (if has found 'r' then [] else [[]]) else groups
          ended <| ← xargsRun start verbose 0 (groups.map fun group => command ++ group.map Prod.fst)

end ScriptCache.Shell.Utility
