import ScriptCache.Shell.Builtin.Variables

/-! Builtin commands that take their arguments or their input apart. -/
namespace ScriptCache.Shell.Builtin

/-! ### Options -/

/-- Takes one option off the arguments, letter by letter over several calls. -/
def getopts (args : List String) : Act Nat := do
  match args with
  | letters :: name :: given =>
    let s ← Act.scope
    let given := if given.isEmpty then s.args else given
    let index := ((← Act.value? "OPTIND").bind (·.toNat?)).getD 1
    let letters := letters.toList
    let quiet := letters.head? == some ':'
    let finish (index offset : Nat) (found : String) (value : Option String) (status : Nat) :
        Act Nat := do
      Act.changeScope fun s => { s with optionOffset := offset }
      Act.assign "OPTIND" (toString index)
      match value with
      | some value => Act.assign "OPTARG" value
      | none => Act.putVariable "OPTARG" none
      checkName name name
      Act.assign name found
      return status
    let word := ((given[index - 1]?).getD "").toList
    let offset := if s.optionOffset == 0 || word.length ≤ s.optionOffset then 0 else s.optionOffset
    if offset == 0 && (word.head? != some '-' || word.length == 1) then finish index 0 "?" none 1
    else if offset == 0 && word == ['-', '-'] then finish (index + 1) 0 "?" none 1
    else
      let offset := if offset == 0 then 1 else offset
      let c := (word[offset]?).getD '?'
      let more := word.drop (offset + 1)
      let (nextIndex, nextOffset) := if more.isEmpty then (index + 1, 0) else (index, offset + 1)
      match letters.dropWhile (fun l => l != c || l == ':') with
      | [] =>
        if quiet then finish nextIndex nextOffset "?" (some (String.singleton c)) 0
        else
          Act.say 2 ("Illegal option -" ++ String.singleton c ++ "\n")
          finish nextIndex nextOffset "?" none 0
      | _ :: ':' :: _ =>
        if !more.isEmpty then finish (index + 1) 0 (String.singleton c) (some (String.ofList more)) 0
        else
          match given[index]? with
          | some value => finish (index + 2) 0 (String.singleton c) (some value) 0
          | none =>
            if quiet then finish (index + 1) 0 ":" (some (String.singleton c)) 0
            else
              Act.say 2 ("No arg for -" ++ String.singleton c ++ " option\n")
              finish (index + 1) 0 "?" none 0
      | _ :: _ => finish nextIndex nextOffset (String.singleton c) (some "") 0
  | _ => Act.fail "Usage: getopts optstring var [arg...]"

/-! ### Reading -/

/-- A character of a line, and whether a backslash stood before it. -/
abbrev ReadChar := Char × Bool

/-- What was read of a line: its characters, the last first, whether the next byte is taken as it
is, and whether a newline has ended it. -/
structure LineRead where
  chars : List ReadChar := []
  escaped : Bool := false
  ended : Bool := false

/-- Reads on up to the end of the line; how many bytes that takes after some others. -/
def LineRead.advance (raw : Bool) : LineRead → Nat → Bytes → LineRead × Nat
  | st, n, [] => (st, n)
  | st, n, b :: rest =>
    if b == 0 then st.advance raw (n + 1) rest
    else if st.escaped then
      let st := if b == 10 then st else { st with chars := (Char.ofNat b.toNat, true) :: st.chars }
      { st with escaped := false }.advance raw (n + 1) rest
    else if b == 10 then ({ st with ended := true }, n + 1)
    else if b == 92 && !raw then { st with escaped := true }.advance raw (n + 1) rest
    else { st with chars := (Char.ofNat b.toNat, false) :: st.chars }.advance raw (n + 1) rest

def isSeparator (separators : List Char) (g : ReadChar) : Bool :=
  !g.2 && separators.contains g.1

def isBlankSeparator (separators : List Char) (g : ReadChar) : Bool :=
  isSeparator separators g && (g.1 == ' ' || g.1 == '\t' || g.1 == '\n')

/-- How much of what the last name is given stays: `size` characters were met, and what
comes after the first `cut` of them goes if nothing else comes. Blanks at the end go, and
one separator with them if there was no other; `open_` says that a blank came last before
which no other separator stood. -/
def lastSize (separators : List Char) : (size : Nat) → (cut : Option Nat) → (open_ : Bool) →
    List ReadChar → Nat
  | size, cut, _, [] => cut.getD size
  | size, cut, open_, g :: rest =>
    if isBlankSeparator separators g then
      lastSize separators (size + 1) (some (cut.getD size)) open_ rest
    else
      let cut := if isSeparator separators g && open_ then cut else none
      lastSize separators (size + 1) cut false rest

/-- What the last name is given of the rest of a line. -/
def lastField (separators : List Char) (line : List ReadChar) : List ReadChar :=
  let field := line.takeWhile fun g => !isSeparator separators g
  match line.drop field.length with
  | [] => line
  | g :: rest =>
    line.take (lastSize separators (field.length + 1) (some field.length)
      (isBlankSeparator separators g) rest)

/-- Shares a line out to names; the last one takes the rest. -/
def shareOut (separators : List Char) : List ReadChar → List String → List (String × String)
  | _, [] => []
  | line, name :: names =>
    let isBlank := isBlankSeparator separators
    let line := line.dropWhile isBlank
    if names.isEmpty then
      [(name, String.ofList ((lastField separators line).map Prod.fst))]
    else
      let field := line.takeWhile fun g => !isSeparator separators g
      let rest := (line.drop field.length).dropWhile isBlank
      let rest := match rest with
        | g :: more => if isSeparator separators g && !isBlank g then more.dropWhile isBlank else rest
        | [] => []
      (name, String.ofList (field.map Prod.fst)) :: shareOut separators rest names

/-- Reads a line, after what was read of it, up to its newline or the end; its characters, and
whether a newline ended it. A signal with a trap is an end, too. -/
def readLine (raw : Bool) (channel : Nat) : Nat → LineRead → Act (List ReadChar × Bool)
  | 0, _ => return ([], false)
  | fuel + 1, st => do
    match ← Act.readFrom channel true fun bytes => (st.advance raw 0 bytes).2 with
    | .error _ => return ([], false)
    | .ok bytes =>
      let (st, _) := st.advance raw 0 bytes
      if st.ended || bytes.isEmpty then return (st.chars.reverse, st.ended) else readLine raw channel fuel st

def read (args : List String) : Act Nat := do
  let rec operands (raw : Bool) : List String → Act (Bool × List String)
    | "-r" :: rest => operands true rest
    | "-p" :: _ :: rest => operands raw rest
    | "--" :: rest => return (raw, rest)
    | rest => return (raw, rest)
  let (raw, names) ← operands false args
  if names.isEmpty then Act.fail "arg count"
  names.forM fun name => checkName name name
  let separators := (← separators)
  let (line, ended) ← match ← Act.channel? 0 with
    | some (n, _) => readLine raw n forever {}
    | none => pure ([], false)
  (shareOut separators line names).forM fun (name, value) => Act.assign name value
  return if ended then 0 else 1

end ScriptCache.Shell.Builtin
