/-! Shell commands, as they are written.

A word is a row of pieces: characters, and what is replaced when the word is expanded.
A character or a replacement that stands in quotes keeps its blanks and means itself in
a pattern. Texts hold one character for each byte. -/
namespace ScriptCache.Shell

/-- More rounds than anything ever takes. -/
@[noinline] def forever : Nat := 0x3fffffffffffffff

/-- What a parameter that is not set, or is set, is replaced by. -/
inductive Fallback where
  /-- A word in place of a missing value. -/
  | default
  /-- The same, and the parameter takes the word over. -/
  | assign
  /-- A word as the complaint about a missing value. -/
  | refuse
  /-- A word in place of a value that is there. -/
  | alternative
  deriving DecidableEq

/-- What a redirection opens a file for. -/
inductive FileMode where
  | read
  /-- Replacing its content, unless the shell keeps files from that. -/
  | create
  | replace
  | append
  | update
  deriving DecidableEq

mutual

/-- A part of a word. -/
inductive Piece where
  | char (c : Char) (quoted : Bool)
  /-- Quotes around nothing, which make a word all the same. -/
  | quotes
  | param (name : String) (use : Use) (quoted : Bool)
  /-- What a command writes. -/
  | output (command : Command) (quoted : Bool)
  /-- What an expression comes to. -/
  | sum (expression : List Piece) (quoted : Bool)

/-- What is made of a parameter. -/
inductive Use where
  | value
  | length
  /-- Another word; an empty value may count as a missing one. -/
  | fallback (kind : Fallback) (emptyToo : Bool) (word : List Piece)
  /-- The value without what a pattern matches at one of its ends. -/
  | trim (atEnd longest : Bool) (pattern : List Piece)
  /-- Nothing that has a meaning. -/
  | broken

/-- What becomes of one of a command's descriptors. -/
inductive Redirection where
  | file (descriptor : Nat) (mode : FileMode) (name : List Piece)
  /-- The same as another descriptor, or closed. -/
  | join (descriptor : Nat) (target : List Piece)
  /-- A text to read. -/
  | document (descriptor : Nat) (content : List Piece)

inductive Command where
  | nothing
  | simple (line : Nat) (assignments : List (String × List Piece)) (words : List (List Piece))
      (redirections : List Redirection)
  | pipeline (stages : List Command)
  | negation (command : Command)
  | sequence (first second : Command)
  | conjunction (first second : Command)
  | disjunction (first second : Command)
  | background (command : Command)
  | redirected (line : Nat) (body : Command) (redirections : List Redirection)
  | subshell (line : Nat) (body : Command) (redirections : List Redirection)
  | choice (condition yes no : Command)
  /-- Runs the body while the condition holds, or until it does. -/
  | loop (until_ : Bool) (condition body : Command)
  | each (line : Nat) (name : String) (words : List (List Piece)) (body : Command)
  | select (line : Nat) (word : List Piece) (items : List (List (List Piece) × Command))
  | definition (line : Nat) (name : String) (body : Command)

end

abbrev Word := List Piece

namespace Command

instance : Inhabited Command := ⟨nothing⟩

/-- A command and one after it. -/
def andThen : Command → Command → Command
  | nothing, second => second
  | first, second => sequence first second

end Command

/-- A name that a variable can have. -/
def isName (text : String) : Bool :=
  match text.toList with
  | [] => false
  | c :: rest => (c.isAlpha || c == '_') && rest.all fun c => c.isAlphanum || c == '_'

end ScriptCache.Shell
