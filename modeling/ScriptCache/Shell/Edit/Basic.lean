import ScriptCache.Shell.Arithmetic
import ScriptCache.Shell.Regex

/-! Scripts that edit lines.

A script is a row of instructions. Each is carried out on the lines that it selects: one line,
a row of lines from one to another, or all others. -/
namespace ScriptCache.Shell.Edit

/-- An expression with the way it is matched; without one, the expression that was matched
last. -/
structure LinePattern where
  regex? : Option Regex
  dialect : Regex.Dialect

/-- Which lines are meant. -/
inductive Address where
  | line (n : Nat)
  | last
  /-- A line and those so many lines after it. -/
  | every (first step : Nat)
  | matching (pattern : LinePattern)

/-- Where a row of lines ends. -/
inductive RowEnd where
  | at (address : Address)
  | after (lines : Nat)
  /-- At the next line whose number is a multiple. -/
  | multiple (n : Nat)

/-- The lines that an instruction is for. -/
structure Selection where
  first : Option Address := none
  last : Option RowEnd := none
  inverted : Bool := false

/-- A part of what a match is replaced by: a text and after it what a group holds. Its letters
may be put in another case, all of them, or the first in a way of its own. -/
structure Part where
  text : Bytes := []
  group : Option Nat := none
  upper : Option Bool := none
  firstUpper : Option Bool := none

/-- Replacing matches. -/
structure Substitution where
  pattern : LinePattern
  parts : List Part
  /-- The match that is replaced, and whether those after it are, too. -/
  count : Nat := 1
  global : Bool := false
  /-- Whether the result is shown, then run as a command, and what that writes is shown. -/
  showsFirst : Bool := false
  runs : Bool := false
  shows : Bool := false
  target : Option String := none

inductive Jump where
  | always
  | replaced
  | notReplaced
  deriving DecidableEq

/-- What an instruction does. -/
inductive Deed where
  /-- Does what comes up to an instruction, on the lines of the selection. -/
  | block (stop : Nat)
  | nothing
  | append (text : Bytes)
  | insert (text : Bytes)
  | change (text : Bytes)
  | jump (kind : Jump) (label : String) (target : Nat)
  | delete
  | deleteFirst
  | run (command : Option Bytes)
  | showName
  | get
  | getMore
  | hold
  | holdMore
  | list (width : Option Nat)
  | next
  | nextMore
  | print
  | printFirst
  | quit (prints : Bool) (status : Nat)
  | readFile (name : String)
  /-- Writes a file before the line instead of after it. -/
  | readBefore (name : String)
  | readLine (name : String)
  | substitute (s : Substitution)
  | writeFile (name : String)
  | writeFirst (name : String)
  | exchange
  | translate (table : Array UInt8)
  | zap
  | showNumber

structure Instruction where
  selection : Selection
  deed : Deed

/-- A whole script. -/
structure Program where
  instructions : Array Instruction := #[]
  /-- Whether nothing is shown unless it is asked for. -/
  quiet : Bool := false
  /-- The files that are written. -/
  targets : List String := []

/-! ### Escapes -/

/-- The byte that an escape stands for, after its backslash, and what comes after it. -/
def controlEscape? (cs : List Char) : Option (Char × List Char) :=
  let number (base limit : Nat) (rest : List Char) : Option (Char × List Char) :=
    let digits := (rest.take limit).takeWhile fun c => (Arithmetic.digit? base c).isSome
    if digits.isEmpty then none
    else some (Char.ofNat ((Arithmetic.digits base digits).1 % 256), rest.drop digits.length)
  match cs with
  | 'a' :: rest => some ('\x07', rest)
  | 'f' :: rest => some ('\x0c', rest)
  | 'r' :: rest => some ('\r', rest)
  | 't' :: rest => some ('\t', rest)
  | 'v' :: rest => some ('\x0b', rest)
  | 'c' :: c :: rest => some (Char.ofNat ((c.toUpper.toNat ^^^ 0x40) % 256), rest)
  | 'd' :: rest => number 10 3 rest
  | 'o' :: rest => number 8 3 rest
  | 'x' :: rest => number 16 2 rest
  | _ => none

/-- An expression with its escapes for single bytes replaced. -/
def plainPattern : Nat → List Char → List Char
  | 0, cs => cs
  | _, [] => []
  | fuel + 1, '\\' :: cs =>
    match controlEscape? cs, cs with
    | some (c, rest), _ => c :: plainPattern fuel rest
    | none, c :: rest => '\\' :: c :: plainPattern fuel rest
    | none, [] => ['\\']
  | fuel + 1, c :: cs => c :: plainPattern fuel cs

/-- A text that lines are given, without its backslashes. -/
def plainText : Nat → List Char → List Char
  | 0, cs => cs
  | _, [] => []
  | fuel + 1, '\\' :: cs =>
    match controlEscape? cs, cs with
    | some (c, rest), _ => c :: plainText fuel rest
    | none, 'n' :: rest => '\n' :: plainText fuel rest
    | none, c :: rest => c :: plainText fuel rest
    | none, [] => []
  | fuel + 1, c :: cs => c :: plainText fuel cs

/-- The parts of a replacement, after a text that was seen, the latest byte first. -/
def partsFrom : Nat → Part → List Char → List Part
  | 0, _, _ => []
  | _, seen, [] => if seen.text.isEmpty then [] else [{ seen with text := seen.text.reverse }]
  | fuel + 1, seen, c :: cs =>
    let finished (group : Option Nat) : Part := { seen with text := seen.text.reverse, group }
    let plain : Part := { upper := seen.upper }
    let more (c : Char) (rest : List Char) : List Part :=
      partsFrom fuel { seen with text := c.toNat.toUInt8 :: seen.text } rest
    if c == '&' then finished (some 0) :: partsFrom fuel plain cs
    else if c == '\\' then
      match controlEscape? cs, cs with
      | some (c, rest), _ => more c rest
      | none, 'n' :: rest => more '\n' rest
      | none, 'L' :: rest => finished none :: partsFrom fuel { upper := some false } rest
      | none, 'U' :: rest => finished none :: partsFrom fuel { upper := some true } rest
      | none, 'E' :: rest => finished none :: partsFrom fuel {} rest
      | none, 'l' :: rest => finished none :: partsFrom fuel { plain with firstUpper := some false } rest
      | none, 'u' :: rest => finished none :: partsFrom fuel { plain with firstUpper := some true } rest
      | none, c :: rest =>
        if c.isDigit then finished (some (c.toNat - 48)) :: partsFrom fuel plain rest else more c rest
      | none, [] => more '\\' []
    else more c cs

/-- The parts of a replacement. -/
def partsOf (text : List Char) : List Part :=
  partsFrom (text.length + 1) {} text

end ScriptCache.Shell.Edit
