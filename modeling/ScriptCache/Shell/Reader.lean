import ScriptCache.Shell.Command

/-! Reading tokens of a shell script.

What a token is depends on where it stands: words are words of the language, or short for
other texts, only where a command may start, and newlines count only where a command may end.
The grammar says before each token what it looks for. A token can be put back once.

An alias is replaced by its text, which is then read. It is not replaced again in its own
text; the word after a text that ends in a blank may be an alias, too. -/
namespace ScriptCache.Shell

/-- The words that have a meaning where a command may start. -/
inductive Keyword where
  | not
  | case_
  | do_
  | done_
  | elif
  | else_
  | esac
  | fi
  | for_
  | if_
  | in_
  | then_
  | until_
  | while_
  | openBrace
  | closeBrace
  deriving DecidableEq

namespace Keyword

def text : Keyword → String
  | not => "!"
  | case_ => "case"
  | do_ => "do"
  | done_ => "done"
  | elif => "elif"
  | else_ => "else"
  | esac => "esac"
  | fi => "fi"
  | for_ => "for"
  | if_ => "if"
  | in_ => "in"
  | then_ => "then"
  | until_ => "until"
  | while_ => "while"
  | openBrace => "\x7b"
  | closeBrace => "\x7d"

def all : List Keyword :=
  [not, case_, do_, done_, elif, else_, esac, fi, for_, if_, in_, then_, until_, while_,
    openBrace, closeBrace]

def of? (text : String) : Option Keyword :=
  all.find? fun k => k.text == text

/-- Whether no command starts with it, so that a list of commands ends before it. -/
def endsList : Keyword → Bool
  | do_ | done_ | elif | else_ | esac | fi | then_ | closeBrace => true
  | not | case_ | for_ | if_ | in_ | until_ | while_ | openBrace => false

end Keyword

/-- What a redirection does, before the word that it needs. -/
inductive Arrow where
  | file (mode : FileMode)
  | join
  | document (stripped : Bool)
  deriving DecidableEq

inductive Token where
  | ended
  | newline
  | semicolon
  | caseEnd
  | ampersand
  | both
  | either
  | pipe
  | openParen
  | closeParen
  | arrow (descriptor : Nat) (arrow : Arrow)
  | keyword (k : Keyword)
  | word (w : Word)

namespace Token

/-- What a complaint calls a token. -/
def describe : Token → String
  | ended => "end of file"
  | newline => "newline"
  | semicolon => "\";\""
  | caseEnd => "\";;\""
  | ampersand => "\"&\""
  | both => "\"&&\""
  | either => "\"||\""
  | pipe => "\"|\""
  | openParen => "\"(\""
  | closeParen => "\")\""
  | arrow .. => "redirection"
  | keyword k => "\"" ++ k.text ++ "\""
  | word _ => "word"

def isKeyword (t : Token) (k : Keyword) : Bool :=
  match t with
  | keyword k' => k' == k
  | _ => false

def endsList : Token → Bool
  | ended | closeParen | caseEnd => true
  | keyword k => k.endsList
  | _ => false

end Token

def Piece.plain? : Piece → Option Char
  | .char c false => some c
  | _ => none

/-- The text of a word that has nothing but plain characters. -/
def plain? (w : Word) : Option String :=
  (w.mapM Piece.plain?).map String.ofList

/-- Why a script is not read any further. -/
inductive Fault where
  /-- It is no script, for a reason, on a line. -/
  | refused (line : Nat) (text : String)
  /-- More of it has to be there first. -/
  | incomplete
  deriving DecidableEq

/-- An alias whose text is being read: its name, how much is left when the text is over, and
whether the text ends in a blank. -/
structure Expanding where
  name : String
  left : Nat
  endsInBlank : Bool

/-- A script that is being read. -/
structure Reader where
  rest : List Char
  /-- Whether there is no more of it to come, and the start of a line that has come. -/
  isWhole : Bool := true
  started : List Char := []
  line : Nat := 1
  /-- Lines that were read ahead, which the next newline counts. -/
  ahead : Nat := 0
  /-- The token that was put back. -/
  again : Option Token := none
  last : Token := .ended
  /-- Whether newlines before the next token are passed over. -/
  passNewlines : Bool := false
  /-- Whether the next token may be a keyword, and whether it may be an alias. -/
  wantKeywords : Bool := false
  wantAliases : Bool := false
  aliases : List (String × String) := []
  expanding : List Expanding := []
  /-- How much was left where the last token started. -/
  tokenStart : Nat := 0

namespace Reader

/-- A script from its start. -/
def ofText (text : String) : Reader where
  rest := text.toList.filter (· != '\x00')

/-- A script of which nothing has come yet. -/
def awaiting : Reader where
  rest := []
  isWhole := false

/-- A script of which more has come. Only whole lines of it are read. -/
def fed (s : Reader) (text : String) : Reader :=
  let reversed := (s.started ++ text.toList.filter (· != '\x00')).reverse
  let started := reversed.takeWhile (· != '\n')
  { s with rest := s.rest ++ (reversed.drop started.length).reverse, started := started.reverse }

/-- A script of which no more will come. -/
def whole (s : Reader) : Reader :=
  { s with rest := s.rest ++ s.started, started := [], isWhole := true }

end Reader

abbrev Parse := StateT Reader (Except Fault)

namespace Parse

/-- Refuses the script. -/
def refuse {α : Type} (text : String) : Parse α := do
  throw (.refused (← get).line text)

/-- The text is over; stops if more is to come. -/
def atEnd : Parse Unit := do
  if !(← get).isWhole then throw .incomplete

/-- Refuses the last token. -/
def unexpected {α : Type} (wanted : Option Token) : Parse α := do
  let last := (← get).last.describe
  match wanted with
  | none => refuse (last ++ " unexpected")
  | some t => refuse (last ++ " unexpected (expecting " ++ t.describe ++ ")")

/-- Takes one character. -/
def next? : Parse (Option Char) := do
  let s ← get
  match s.rest with
  | [] =>
    atEnd
    return none
  | c :: rest =>
    let (line, ahead) := if c == '\n' then (s.line + 1 + s.ahead, 0) else (s.line, s.ahead)
    set { s with rest, line, ahead }
    return some c

/-- Passes over a number of characters. -/
def skip : Nat → Parse Unit
  | 0 => return ()
  | n + 1 => do
    let _ ← next?
    skip n

/-- Passes over lines that go on after a backslash. -/
def joinLines : Nat → Parse Unit
  | 0 => return ()
  | fuel + 1 => do
    match (← get).rest with
    | '\\' :: '\n' :: _ =>
      skip 2
      joinLines fuel
    | _ => return ()

/-- What comes next, lines joined. -/
def ahead : Parse (List Char) := do
  joinLines forever
  let rest := (← get).rest
  if rest.isEmpty then atEnd
  return rest

def putBack : Parse Unit :=
  modify fun s => { s with again := some s.last }

/-- Says what the next token is looked for as. -/
def looking (newlines keywords aliases : Bool) : Parse Unit :=
  modify fun s => { s with passNewlines := newlines, wantKeywords := keywords, wantAliases := aliases }

/-- Looks for the start of a command, maybe after newlines. -/
def commandAhead (newlines : Bool) : Parse Unit :=
  looking newlines true true

/-- Reads something else than what is left. -/
def within {α : Type} (text : List Char) (rule : Parse α) : Parse α := do
  let around ← get
  set { around with rest := text, isWhole := true, expanding := [] }
  let a ← rule
  modify fun s => { s with rest := around.rest, isWhole := around.isWhole, expanding := around.expanding }
  return a

end Parse

end ScriptCache.Shell
