import ScriptCache.Toml.Value

/-! Scalars of TOML: texts, numbers, dates and times.

Each reader takes the characters at hand and returns a value with the characters behind
it; it does not look further, so what may follow a value is up to the reader of values.
A number is a moment if it can be, else a float, else an integer. -/
namespace ScriptCache.Toml

/-- Reads something from the front of a text. -/
abbrev Parser (α : Type) := List Char → Option (α × List Char)

def isSpace (c : Char) : Bool := c == ' ' || c == '\t'

/-- Characters other than controls; the tab is allowed. -/
def isPlain (c : Char) : Bool :=
  c == '\t' || (0x20 ≤ c.toNat && c.toNat != 0x7F)

def skipSpaces (cs : List Char) : List Char :=
  cs.dropWhile isSpace

/-- The text behind a line end. -/
def newline? : List Char → Option (List Char)
  | '\n' :: rest => some rest
  | '\r' :: '\n' :: rest => some rest
  | _ => none

/-- The text behind a token. -/
def token? : List Char → List Char → Option (List Char)
  | [], cs => some cs
  | t :: ts, c :: cs => if t == c then token? ts cs else none
  | _ :: _, [] => none

/-! ### Texts -/

def hexDigit? (c : Char) : Option Nat :=
  if '0' ≤ c ∧ c ≤ '9' then some (c.toNat - 48)
  else if 'a' ≤ c ∧ c ≤ 'f' then some (c.toNat - 87)
  else if 'A' ≤ c ∧ c ≤ 'F' then some (c.toNat - 55)
  else none

/-- The character that hexadecimal digits number. -/
def numbered? (digits : List Char) : Option Char := do
  let n ← digits.foldlM (fun n c => (hexDigit? c).map (16 * n + ·)) 0
  if n.isValidChar then some (Char.ofNat n) else none

/-- A character that a backslash and a letter stand for. -/
def shortEscape? : Char → Option Char
  | 'b' => some '\x08'
  | 't' => some '\t'
  | 'n' => some '\n'
  | 'f' => some '\x0c'
  | 'r' => some '\r'
  | '"' => some '"'
  | '\\' => some '\\'
  | _ => none

/-- The rest of a text between double quotes; `seen` is what was read, last first. -/
def basicText (seen : List Char) : Parser String
  | [] => none
  | '"' :: rest => some (String.ofList seen.reverse, rest)
  | '\\' :: 'u' :: a :: b :: c :: d :: rest => do
    basicText ((← numbered? [a, b, c, d]) :: seen) rest
  | '\\' :: 'U' :: a :: b :: c :: d :: e :: f :: g :: h :: rest => do
    basicText ((← numbered? [a, b, c, d, e, f, g, h]) :: seen) rest
  | '\\' :: c :: rest => do basicText ((← shortEscape? c) :: seen) rest
  | c :: rest => if isPlain c then basicText (c :: seen) rest else none

/-- The rest of a text between single quotes, where nothing is escaped. -/
def literalText (seen : List Char) : Parser String
  | [] => none
  | '\'' :: rest => some (String.ofList seen.reverse, rest)
  | c :: rest => if isPlain c then literalText (c :: seen) rest else none

/-- The rest of a text between three double quotes. Up to two quotes may stand before
the last three. After a backslash at a line's end, `trimming`, blanks and line ends are
passed over. -/
def basicBlock (trimming : Bool) (seen : List Char) : Parser String
  | [] => none
  | '"' :: '"' :: '"' :: '"' :: '"' :: rest =>
    some (String.ofList ('"' :: '"' :: seen).reverse, rest)
  | '"' :: '"' :: '"' :: '"' :: rest => some (String.ofList ('"' :: seen).reverse, rest)
  | '"' :: '"' :: '"' :: rest => some (String.ofList seen.reverse, rest)
  | '"' :: rest => basicBlock false ('"' :: seen) rest
  | '\r' :: '\n' :: rest => basicBlock trimming (if trimming then seen else '\n' :: seen) rest
  | '\n' :: rest => basicBlock trimming (if trimming then seen else '\n' :: seen) rest
  | '\\' :: 'u' :: a :: b :: c :: d :: rest => do
    basicBlock false ((← numbered? [a, b, c, d]) :: seen) rest
  | '\\' :: 'U' :: a :: b :: c :: d :: e :: f :: g :: h :: rest => do
    basicBlock false ((← numbered? [a, b, c, d, e, f, g, h]) :: seen) rest
  | '\\' :: rest@(c :: more) =>
    if (newline? (skipSpaces rest)).isSome then basicBlock true seen rest
    else do basicBlock false ((← shortEscape? c) :: seen) more
  | c :: rest =>
    if trimming && isSpace c then basicBlock true seen rest
    else if isPlain c then basicBlock false (c :: seen) rest
    else none

/-- The rest of a text between three single quotes. -/
def literalBlock (seen : List Char) : Parser String
  | [] => none
  | '\'' :: '\'' :: '\'' :: '\'' :: '\'' :: rest =>
    some (String.ofList ('\'' :: '\'' :: seen).reverse, rest)
  | '\'' :: '\'' :: '\'' :: '\'' :: rest => some (String.ofList ('\'' :: seen).reverse, rest)
  | '\'' :: '\'' :: '\'' :: rest => some (String.ofList seen.reverse, rest)
  | '\r' :: '\n' :: rest => literalBlock ('\n' :: seen) rest
  | '\n' :: rest => literalBlock ('\n' :: seen) rest
  | c :: rest => if isPlain c then literalBlock (c :: seen) rest else none

end ScriptCache.Toml
