import ScriptCache.Text.Latin

/-! How texts are quoted in what utilities say.

A word is put in single quotes, with backslashes before what could be misread. A path is
written so that a shell would read it back: in quotes if it holds anything that means more
than itself there, with characters that cannot be shown between `$'` and `'`. -/
namespace ScriptCache.Shell.Utility

/-- The letter that stands for a character after a backslash. -/
def escapeMark? (c : Char) : Option Char :=
  match c with
  | '\x07' => some 'a'
  | '\x08' => some 'b'
  | '\x0c' => some 'f'
  | '\n' => some 'n'
  | '\r' => some 'r'
  | '\t' => some 't'
  | '\x0b' => some 'v'
  | _ => none

def isShown (c : Char) : Bool := ' ' ≤ c && c ≤ '~'

/-- A character that cannot be shown, after a backslash. -/
def escaped (c : Char) : List Char :=
  match escapeMark? c with
  | some mark => ['\\', mark]
  | none =>
    let digit (n : Nat) : Char := Char.ofNat (48 + n % 8)
    ['\\', digit (c.toNat / 64), digit (c.toNat / 8), digit c.toNat]

/-- A word as complaints quote it. -/
def quoted (text : String) : String :=
  let inner := text.toList.flatMap fun c =>
    if c == '\\' || c == '\x27' then ['\\', c] else if isShown c then [c] else escaped c
  String.ofList (['\x27'] ++ inner ++ ['\x27'])

/-- A word in quotes, as it is. -/
def inQuotes (text : String) : String := "'" ++ text ++ "'"

/-- Whether a character of a path means more than itself to a shell. `first` says that it
stands at the start, `alone` that nothing else is there. -/
def needsQuotes (first alone : Bool) (c : Char) : Bool :=
  if c == '\x7b' || c == '\x7d' then alone
  else if c == '#' || c == '~' then first
  else !isShown c || " !\"$&()*:;<=>[^\x60|'\\?".toList.contains c

/-- Whether a character keeps its meaning between double quotes. -/
def fitsDoubleQuotes (first alone : Bool) (c : Char) : Bool :=
  if c == '\x7b' || c == '\x7d' then alone
  else if c == '#' || c == '~' then first
  else isShown c && !"!\"$&()*;<=>[^\x60|\\?".toList.contains c

/-- The characters of a path between single quotes. `escaping` says that those before could
not be shown. -/
def singleQuoted (escaping : Bool) : List Char → List Char
  | [] => []
  | c :: rest =>
    if c == '\x27' then "'\\''".toList ++ singleQuoted false rest
    else if isShown c then (if escaping then ['\x27', '\x27'] else []) ++ c :: singleQuoted false rest
    else (if escaping then [] else ['\x27', '$', '\x27']) ++ escaped c ++ singleQuoted true rest

/-- Whether a rule holds of every character of a path, by its place. -/
def allOfPath (rule : Bool → Bool → Char → Bool) (cs : List Char) : Bool :=
  match cs with
  | [] => true
  | [c] => rule true true c
  | c :: rest => rule true false c && rest.all (rule false false)

/-- A path in quotes that a shell reads back. -/
def quotedPath (text : String) : String :=
  let cs := text.toList
  if cs.contains '\x27' && allOfPath fitsDoubleQuotes cs then "\"" ++ text ++ "\""
  else String.ofList (['\x27'] ++ singleQuoted false cs ++ ['\x27'])

/-- A path, in quotes only if it needs them. -/
def plainPath (text : String) : String :=
  let cs := text.toList
  if !cs.isEmpty && allOfPath (fun first alone c => !needsQuotes first alone c) cs then text else quotedPath text

end ScriptCache.Shell.Utility
