import ScriptCache.Toml.Number

/-! Keys and values of TOML.

Values nest to a limited depth: an array or an inline table inside as many others as
the limit allows holds scalars only. An inline table stands on one line and has no comma
at its end; an array may spread over lines, with comments between its items. -/
namespace ScriptCache.Toml

/-- How deep arrays and inline tables nest, and how many parts a key has at most. -/
def depthLimit : Nat := 79

/-- Passes over blanks, line ends and comments. -/
def skipFiller (inComment : Bool) : List Char → List Char
  | [] => []
  | '\r' :: '\n' :: rest => skipFiller false rest
  | '\n' :: rest => skipFiller false rest
  | c :: rest =>
    if inComment then if isPlain c then skipFiller true rest else c :: rest
    else if isSpace c then skipFiller false rest
    else if c == '#' then skipFiller true rest
    else c :: rest

def isBareKeyChar (c : Char) : Bool :=
  c.isAlphanum || c == '-' || c == '_'

/-- One part of a key. -/
def keyPart : Parser String := fun cs =>
  match cs with
  | '"' :: rest => basicText [] rest
  | '\'' :: rest => literalText [] rest
  | _ =>
    let bare := cs.takeWhile isBareKeyChar
    if bare.isEmpty then none else some (String.ofList bare, cs.dropWhile isBareKeyChar)

/-- The parts of a key, blanks around each; `seen` are those before, last first. -/
def keyParts (seen : List String) : Nat → Parser (List String)
  | 0, _ => none
  | left + 1, cs => do
    let (part, rest) ← keyPart (skipSpaces cs)
    match skipSpaces rest with
    | '.' :: rest => keyParts (part :: seen) left rest
    | rest => some ((part :: seen).reverse, rest)

/-- A key: the parts before the last, and the last. -/
def key : Parser (List String × String) := fun cs => do
  let (parts, rest) ← keyParts [] depthLimit cs
  let last ← parts.getLast?
  some ((parts.dropLast, last), rest)

/-- A text of any of the four kinds. -/
def textValue : Parser String := fun cs =>
  match cs with
  | '"' :: '"' :: '"' :: rest => basicBlock false [] ((newline? rest).getD rest)
  | '\'' :: '\'' :: '\'' :: rest => literalBlock [] ((newline? rest).getD rest)
  | '"' :: rest => basicText [] rest
  | '\'' :: rest => literalText [] rest
  | _ => none

/-- The rest of an array after its opening bracket; `seen` are the items before. -/
def arrayItems (item : Parser Value) (seen : List Value) : Nat → Parser Value
  | 0, _ => none
  | left + 1, cs =>
    match skipFiller false cs with
    | ']' :: rest => some (.array seen.reverse, rest)
    | cs => do
      let (value, rest) ← item cs
      match skipFiller false rest with
      | ',' :: rest => arrayItems item (value :: seen) left rest
      | ']' :: rest => some (.array (value :: seen).reverse, rest)
      | _ => none

/-- A key and its value inside an inline table. -/
def inlineEntry (item : Parser Value) (t : Table) : Parser Table := fun cs => do
  let ((path, last), rest) ← key cs
  let rest ← token? ['='] rest
  let (value, rest) ← item (skipSpaces rest)
  let t ← t.addKeyed path last value
  some (t, skipSpaces rest)

/-- The rest of an inline table at one of its entries. -/
def inlineEntries (item : Parser Value) (t : Table) : Nat → Parser Value
  | 0, _ => none
  | left + 1, cs => do
    match ← inlineEntry item t cs with
    | (t, ',' :: rest) => inlineEntries item t left rest
    | (t, '\x7d' :: rest) => some (.table .inline t.entries, rest)
    | _ => none

/-- A value that holds at most `size` others, or any other value; `item` reads what
arrays and inline tables hold, where they may still be opened. -/
def valueWith (size : Nat) (item : Option (Parser Value)) : Parser Value := fun cs =>
  match cs with
  | '[' :: rest => do arrayItems (← item) [] size rest
  | '\x7b' :: rest => do
    let item ← item
    match skipSpaces rest with
    | '\x7d' :: rest => some (.table .inline [], rest)
    | rest => inlineEntries item ⟨.inline, []⟩ size rest
  | 't' :: _ => (token? ['t', 'r', 'u', 'e'] cs).map (.boolean true, ·)
  | 'f' :: _ => (token? ['f', 'a', 'l', 's', 'e'] cs).map (.boolean false, ·)
  | '"' :: _ | '\'' :: _ => (textValue cs).map fun (s, rest) => (.text s, rest)
  | _ => number cs

/-- A value that nests at most so deep. -/
def valueWithin (size : Nat) : Nat → Parser Value
  | 0 => valueWith size none
  | depth + 1 => valueWith size (some (valueWithin size depth))

/-- A value. `size` has to exceed the number of characters at hand. -/
def value (size : Nat) : Parser Value := valueWithin size depthLimit

end ScriptCache.Toml
