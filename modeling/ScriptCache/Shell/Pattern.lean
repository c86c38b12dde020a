/-! Patterns of file names and texts.

A pattern is a row of characters, some of which stand for themselves because they were
quoted. Of the others a star matches any text, a question mark any character, and a
bracket the characters that it lists. -/
namespace ScriptCache.Shell

/-- A character of a pattern, and whether it stands for itself. -/
abbrev Glyph := Char × Bool

namespace Pattern

/-- What one bracket matches. -/
inductive Item where
  | range (low high : Char)
  | kind (holds : Char → Bool)

def Item.matches : Item → Char → Bool
  | range low high, c => low ≤ c && c ≤ high
  | kind holds, c => holds c

/-- A row of one-character tests, with stars between them. -/
inductive Element where
  | star
  | one (holds : Char → Bool)

/-- The characters that a name of a kind means. -/
def kind? (name : String) : Option (Char → Bool) :=
  match name with
  | "alpha" => some Char.isAlpha
  | "digit" => some Char.isDigit
  | "alnum" => some Char.isAlphanum
  | "upper" => some Char.isUpper
  | "lower" => some Char.isLower
  | "space" => some fun c => c == ' ' || ('\t' ≤ c && c ≤ '\r')
  | "blank" => some fun c => c == ' ' || c == '\t'
  | "punct" => some fun c => '!' ≤ c && c ≤ '~' && !c.isAlphanum
  | "xdigit" => some fun c =>
    c.isDigit || ('a' ≤ c && c ≤ 'f') || ('A' ≤ c && c ≤ 'F')
  | "print" => some fun c => ' ' ≤ c && c ≤ '~'
  | "graph" => some fun c => '!' ≤ c && c ≤ '~'
  | "cntrl" => some fun c => c < ' ' || c == '\x7f'
  | _ => none

/-- The kind that a bracket in a bracket names, and what comes after it. -/
def namedKind? (cs : List Glyph) : Option ((Char → Bool) × List Glyph) :=
  match cs with
  | ('[', false) :: (':', false) :: rest =>
    let name := (rest.map Prod.fst).takeWhile Char.isAlpha
    match rest.drop name.length with
    | (':', false) :: (']', false) :: after =>
      (kind? (String.ofList name)).map fun holds => (holds, after)
    | _ => none
  | _ => none

/-- The items of a bracket up to its end; nothing if it has none. -/
def items? : Nat → Bool → List Glyph → Option (List Item × List Glyph)
  | 0, _, _ => none
  | _, _, [] => none
  | fuel + 1, first, (c, quoted) :: rest =>
    if c == ']' && !quoted && !first then some ([], rest)
    else
      match namedKind? ((c, quoted) :: rest) with
      | some (holds, after) => (items? fuel false after).map fun (more, end_) => (.kind holds :: more, end_)
      | none =>
        match rest with
        | ('-', false) :: (high, highQuoted) :: after =>
          if high == ']' && !highQuoted then
            (items? fuel false rest).map fun (more, end_) => (.range c c :: more, end_)
          else (items? fuel false after).map fun (more, end_) => (.range c high :: more, end_)
        | _ => (items? fuel false rest).map fun (more, end_) => (.range c c :: more, end_)

/-- The test that a bracket is, and what comes after it. -/
def bracket? (cs : List Glyph) : Option ((Char → Bool) × List Glyph) :=
  let negated := match cs with
    | (c, false) :: _ => c == '!' || c == '^'
    | _ => false
  let cs := if negated then cs.drop 1 else cs
  (items? (cs.length + 1) true cs).map fun (items, rest) =>
    (fun c => (items.any fun item => item.matches c) != negated, rest)

/-- The elements of a pattern. -/
def elements : Nat → List Glyph → List Element
  | 0, _ => []
  | _, [] => []
  | fuel + 1, (c, quoted) :: rest =>
    let itself := Element.one (· == c)
    if quoted then itself :: elements fuel rest
    else if c == '*' then .star :: elements fuel rest
    else if c == '?' then .one (fun _ => true) :: elements fuel rest
    else if c == '\\' then
      match rest with
      | (next, _) :: after => .one (· == next) :: elements fuel after
      | [] => [itself]
    else if c == '[' then
      match bracket? rest with
      | some (holds, after) => .one holds :: elements fuel after
      | none => itself :: elements fuel rest
    else itself :: elements fuel rest

/-! ### Matching

Of each place in a row of elements it is known whether the elements before it match what was read so
far; one more character moves these marks on. -/

/-- The marks of some elements and of their end before anything is read; `arrived` says whether what
comes before them is matched. A star matches nothing, too. -/
def start (arrived : Bool) : List Element → List Bool
  | [] => [arrived]
  | .star :: rest => arrived :: start arrived rest
  | .one _ :: rest => arrived :: start false rest

/-- The marks after one more character. -/
def advance (c : Char) (arrived : Bool) : List Element → List Bool → List Bool
  | .star :: rest, here :: marks =>
    let here := arrived || here
    here :: advance c here rest marks
  | .one holds :: rest, here :: marks => arrived :: advance c (here && holds c) rest marks
  | _, _ => [arrived]

/-- Whether all elements match what was read. -/
def isMatch (marks : List Bool) : Bool := marks.getLast?.getD false

/-- Whether elements match a text from its start to its end. -/
def matchesAll (elements : List Element) : List Bool → List Char → Bool
  | marks, [] => isMatch marks
  | marks, c :: rest => marks.contains true && matchesAll elements (advance c false elements marks) rest

/-- Whether a character that is not quoted may mean more than itself. -/
def isSpecial (c : Char) : Bool := c == '*' || c == '?' || c == '[' || c == '\\'

/-- Whether a pattern matches a text. -/
def holds (pattern : List Glyph) (text : List Char) : Bool :=
  if pattern.any fun (c, quoted) => !quoted && isSpecial c then
    let es := elements (pattern.length + 1) pattern
    matchesAll es (start true es) text
  else pattern.map Prod.fst == text

/-- Whether what comes after the start of a bracket ends it. -/
def isClosed : List Glyph → Bool
  | (c, quoted) :: rest => if c == ']' && !quoted then true else if c == '/' then false else isClosed rest
  | [] => false

/-- Whether a pattern matches anything but itself. -/
def isActive : List Glyph → Bool
  | [] => false
  | (c, quoted) :: rest =>
    (!quoted && (c == '*' || c == '?' || (c == '[' && isClosed rest))) || isActive rest

/-- How many characters of a text are matched: the fewest, or the most. -/
def matched? (elements : List Element) (longest : Bool) :
    Nat → Option Nat → List Bool → List Char → Option Nat
  | n, best, marks, text =>
    let best := if isMatch marks then some n else best
    match text with
    | [] => best
    | c :: rest =>
      if (best.isSome && !longest) || !marks.contains true then best
      else matched? elements longest (n + 1) best (advance c false elements marks) rest

/-- A text without what a pattern matches at one of its ends. -/
def trim (pattern : List Glyph) (atEnd longest : Bool) (text : List Char) : List Char :=
  let es := elements (pattern.length + 1) pattern
  let es := if atEnd then es.reverse else es
  let text := if atEnd then text.reverse else text
  let left := match matched? es longest 0 none (start true es) text with
    | none => text
    | some n => text.drop n
  if atEnd then left.reverse else left

end Pattern

end ScriptCache.Shell
