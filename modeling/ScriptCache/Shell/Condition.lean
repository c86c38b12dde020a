import ScriptCache.Machine.Disk
import ScriptCache.Shell.Arithmetic
import ScriptCache.Text.Latin

/-! Conditions, as `test` reads them.

A condition is a row of words. Whether a word is an operator depends on the words around
it, and rows of up to four words have rules of their own, so that any text can be
tested. -/
namespace ScriptCache.Shell.Condition

/-- What a path leads to. -/
inductive Target where
  | node (id : NodeId)
  /-- An end of a pipe, whose number it is. -/
  | pipe (number : Nat)
  deriving DecidableEq

/-- Where paths are looked up. -/
structure View where
  disk : Disk
  /-- Whether something stands in a file that is not yet on the disk. -/
  hasTail : NodeId → Bool := fun _ => false
  /-- What a path leads to that names an open descriptor. -/
  opened : String → Option Target := fun _ => none

/-- What the path that a text spells leads to, all links followed. -/
def View.find? (view : View) (text : String) : Option Target :=
  match view.opened text, view.disk.locate true (Latin.toName text) with
  | some target, _ => some target
  | none, .ok (.taken id _) => some (.node id)
  | none, _ => none

/-- Tests of one operand. -/
inductive Unary where
  | empty
  | notEmpty
  | exists
  | file
  | folder
  | link
  | device
  | pipe
  | notEmptyFile
  /-- Whether any of some permission bits is set. -/
  | marked (bits : Nat)
  | accessible
  | executable
  | terminal
  | never
  deriving DecidableEq

def unary? (text : String) : Option Unary :=
  match text with
  | "-z" => some .empty
  | "-n" => some .notEmpty
  | "-e" => some .exists
  | "-f" => some .file
  | "-d" => some .folder
  | "-h" | "-L" => some .link
  | "-c" => some .device
  | "-s" => some .notEmptyFile
  | "-r" | "-w" | "-O" | "-G" => some .accessible
  | "-x" => some .executable
  | "-t" => some .terminal
  | "-p" => some .pipe
  | "-u" => some (.marked 0o4000)
  | "-g" => some (.marked 0o2000)
  | "-k" => some (.marked 0o1000)
  | "-b" | "-S" => some .never
  | _ => none

/-- Tests of two operands. -/
inductive Binary where
  | same
  | different
  | before
  | after
  | number (holds : Int → Int → Bool)
  | sameFile
  | newer
  | older

def binary? (text : String) : Option Binary :=
  match text with
  | "=" => some .same
  | "!=" => some .different
  | "<" => some .before
  | ">" => some .after
  | "-eq" => some (.number fun a b => a == b)
  | "-ne" => some (.number fun a b => a != b)
  | "-lt" => some (.number fun a b => a < b)
  | "-le" => some (.number fun a b => a ≤ b)
  | "-gt" => some (.number fun a b => b < a)
  | "-ge" => some (.number fun a b => b ≤ a)
  | "-ef" => some .sameFile
  | "-nt" => some .newer
  | "-ot" => some .older
  | _ => none

/-- What a word is where it stands. -/
inductive Lexeme where
  | ended
  | operand
  | unary (u : Unary)
  | binary (b : Binary)
  | not
  | both
  | either
  | openParen
  | closeParen

/-- What the first of some words is. -/
def lexeme (words : List String) : Lexeme :=
  match words with
  | [] => .ended
  | w :: rest =>
    match unary? w, binary? w with
    | some u, _ =>
      match rest with
      | [] => .operand
      | next :: _ :: _ => if (binary? next).isSome then .operand else .unary u
      | [_] => .unary u
    | none, some b => .binary b
    | none, none =>
      if w == "!" then .not
      else if w == "-a" then .both
      else if w == "-o" then .either
      else if w == "(" then if rest.isEmpty then .operand else .openParen
      else if w == ")" then .closeParen
      else .operand

/-- Reads from words; the first is the one that is looked at. -/
abbrev Read := StateT (List String) (Except String)

def move (n : Nat) : Read Unit :=
  modify (List.drop n)

/-- What a test of one operand says about what a path leads to. -/
def ofTarget (view : View) (u : Unary) : Target → Bool
  | .pipe _ => u == .exists || u == .accessible || u == .pipe
  | .node id =>
    match u, view.disk.node? id with
    | _, none => false
    | .exists, _ | .accessible, _ => true
    | .marked bits, _ => view.disk.mode id &&& bits != 0
    | .file, some (.file _) => true
    | .folder, some (.folder _) | .executable, some (.folder _) => true
    | .executable, some (.file _) => view.disk.mode id &&& 0o111 != 0
    | .device, some (.device _) => true
    | .notEmptyFile, some (.folder _) => true
    | .notEmptyFile, some (.file content) => !content.isEmpty || view.hasTail id
    | _, _ => false

/-- What a test of one operand says about the disk. -/
def ofFile (view : View) (u : Unary) (text : String) : Bool :=
  match u with
  | .empty => text.isEmpty
  | .notEmpty => !text.isEmpty
  | .link =>
    match view.disk.locate false (Latin.toName text) with
    | .ok (.taken id _) =>
      match view.disk.node? id with
      | some (.link _) => true
      | _ => false
    | _ => (view.opened text).isSome
  | _ => (view.find? text).any (ofTarget view u)

/-- The number that a text spells in decimal digits, blanks around it aside. -/
def decimal? (text : String) : Option Int :=
  let cs := text.toList.dropWhile Arithmetic.isBlank
  let (negative, cs) := match cs with
    | '-' :: rest => (true, rest)
    | '+' :: rest => (false, rest)
    | cs => (false, cs)
  let (n, rest) := Arithmetic.digits 10 cs
  let value : Int := if negative then -n else n
  if rest.length < cs.length && rest.all Arithmetic.isBlank && Arithmetic.clamp value == value then
    some value
  else none

def number (text : String) : Read Int :=
  match decimal? text with
  | some n => return n
  | none => throw ("Illegal number: " ++ text)

/-- Whether what one path leads to was changed after what another one leads to. -/
def laterThan (view : View) (left right : String) : Bool :=
  match view.find? left, view.find? right with
  | some (.node a), some (.node b) => view.disk.time b < view.disk.time a
  | _, _ => false

def ofTwo (view : View) (b : Binary) (left right : String) : Read Bool :=
  match b with
  | .same => return left == right
  | .different => return left != right
  | .before => return decide (left < right)
  | .after => return decide (right < left)
  | .number holds => do
    let a ← number left
    let b ← number right
    return holds a b
  | .sameFile =>
    return match view.find? left, view.find? right with
      | some a, some b => a == b
      | _, _ => false
  | .newer => return laterThan view left right
  | .older => return laterThan view right left

/-- One test. On return the last of its words is looked at. -/
def primary (view : View) (inner : Lexeme → Read Bool) (l : Lexeme) : Read Bool := do
  let words ← get
  match l with
  | .ended => return false
  | .openParen =>
    move 1
    match lexeme (← get) with
    | .closeParen => return false
    | l =>
      let result ← inner l
      move 1
      match lexeme (← get) with
      | .closeParen => return result
      | _ => throw "closing paren expected"
  | .unary u =>
    move 1
    match ← get with
    | [] => throw (words.head?.getD "" ++ ": argument expected")
    | text :: _ =>
      if u == .terminal then
        let _ ← number text
        return false
      else return ofFile view u text
  | _ =>
    let left := words.head?.getD ""
    match lexeme words.tail with
    | .binary b =>
      move 1
      let operator := (← get).head?.getD ""
      move 1
      match ← get with
      | [] => throw (operator ++ ": argument expected")
      | right :: _ => ofTwo view b left right
    | _ => return !left.isEmpty

/-- A test that may be negated. -/
def negated (view : View) (inner : Lexeme → Read Bool) : Nat → Lexeme → Read Bool
  | 0, _ => return false
  | fuel + 1, .not => do
    match lexeme (← get).tail with
    | .ended => return !(← negated view inner fuel .ended)
    | l =>
      move 1
      return !(← negated view inner fuel l)
  | _ + 1, l => primary view inner l

/-- Tests with the same word between them, of which all count. -/
def chain (operand : Lexeme → Read Bool) (joins : Lexeme → Bool) (join : Bool → Bool → Bool) :
    Nat → Bool → Lexeme → Read Bool
  | 0, soFar, _ => return soFar
  | fuel + 1, soFar, l => do
    let soFar := join soFar (← operand l)
    if joins (lexeme (← get).tail) then
      move 2
      chain operand joins join fuel soFar (lexeme (← get))
    else return soFar

def isBoth : Lexeme → Bool
  | .both => true
  | _ => false

def isEither : Lexeme → Bool
  | .either => true
  | _ => false

/-- A condition whose parentheses nest no deeper than a number. -/
def whole (view : View) : Nat → Lexeme → Read Bool
  | 0, _ => return false
  | depth + 1, l => do
    let fuel := (← get).length + 1
    let conjunction := chain (negated view (whole view depth) fuel) isBoth and fuel true
    chain conjunction isEither or fuel false l

/-- Reads a condition up to its end. -/
def complete (view : View) (first : Lexeme) (words : List String) : Except String Bool :=
  match (whole view (words.length + 1) first).run words with
  | .error problem => .error problem
  | .ok (_, last :: _ :: _) =>
    .error ((if last.isEmpty then "" else last ++ ": ") ++ "unexpected operator")
  | .ok (result, _) => .ok result

/-- Whether some words make a condition that holds. Three words with an operator of two
operands in their middle are that test; a negation or parentheses around three or four
words come off before the rest is read. -/
def ofWords (view : View) (negated : Bool) : List String → Except String Bool
  | [] => .ok negated
  | w :: rest =>
    let words := w :: rest
    let result (first : Lexeme) (words : List String) :=
      (complete view first words).map (· != negated)
    if words.length == 3 && (rest.head?.bind binary?).isSome then result .operand words
    else if words.length == 3 || words.length == 4 then
      if w == "(" && rest.getLast? == some ")" then result (lexeme rest.dropLast) rest.dropLast
      else if w == "!" then ofWords view true rest
      else result (lexeme words) words
    else result (lexeme words) words

/-- Whether a condition holds, or why it is none. -/
def holds (view : View) (words : List String) : Except String Bool :=
  ofWords view false words

end ScriptCache.Shell.Condition
