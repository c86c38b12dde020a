import ScriptCache.Toml.Parser

/-! TOML documents: lines of headers and entries, gathered into one table. -/
namespace ScriptCache.Toml

/-- A document read in part: its table so far, and the path of the last header. -/
structure Draft where
  whole : Table := ⟨.header, []⟩
  path : List String := []

/-- The text behind a line's end, which blanks and a comment may precede. -/
def lineEnd (cs : List Char) : Option (List Char) :=
  let rest := match skipSpaces cs with
    | '#' :: rest => rest.dropWhile isPlain
    | rest => rest
  match rest with
  | [] => some []
  | rest => newline? rest

/-- A header in double brackets. -/
def rowHeader (d : Draft) : Parser Draft := fun cs => do
  let ((above, last), rest) ← key cs
  let rest ← token? [']', ']'] rest
  let whole ← d.whole.openRow above last
  some (⟨whole, above ++ [last]⟩, rest)

/-- A header in single brackets. -/
def tableHeader (d : Draft) : Parser Draft := fun cs => do
  let ((above, last), rest) ← key cs
  let rest ← token? [']'] rest
  let whole ← d.whole.openTable above last
  some (⟨whole, above ++ [last]⟩, rest)

/-- A key and its value, which goes into the table of the last header. -/
def entry (d : Draft) (size : Nat) : Parser Draft := fun cs => do
  let ((path, last), rest) ← key cs
  let rest ← token? ['='] rest
  let (v, rest) ← value size (skipSpaces rest)
  let whole ← d.whole.underHeaders (·.addKeyed path last v) d.path
  some ({ d with whole }, rest)

/-- One line that is not blank. -/
def line (d : Draft) (size : Nat) : Parser Draft := fun cs =>
  match cs with
  | '[' :: '[' :: rest => rowHeader d rest
  | '[' :: rest => tableHeader d rest
  | cs => entry d size cs

/-- The lines of a document, `left` of them at most, which is more than there are
characters. -/
def lines (d : Draft) : Nat → List Char → Option Entries
  | 0, _ => none
  | left + 1, cs =>
    match skipSpaces cs with
    | [] => some d.whole.entries
    | cs =>
      match newline? cs, cs with
      | some rest, _ => lines d left rest
      | none, '#' :: _ => do lines d left (← lineEnd cs)
      | none, cs => do
        let (d, rest) ← line d left cs
        lines d left (← lineEnd rest)

/-- The entries of a document. A byte-order mark before it is passed over. -/
def parse (document : String) : Option Entries :=
  match document.toList with
  | '\uFEFF' :: cs => lines {} (cs.length + 1) cs
  | cs => lines {} (cs.length + 1) cs

example : (parse "a.b = 1\n[c]\nd = [\n 1, # one\n]\n[[e]]\n[[e]]\n").isSome = true := by
  decide +kernel
example : (parse "[a]\nb.c = 1\n[a.b]\n").isSome = false := by decide +kernel

end ScriptCache.Toml
