import ScriptCache.Bytes
import ScriptCache.Shell.Pattern
import ScriptCache.Text.Latin

/-! Regular expressions.

An expression matches at a place if it leads from there to another place; it may lead to
several, and the farthest counts. Of two ways to one place the one whose parts are longer,
the first part first, says what the groups hold. What leads nowhere new is not followed,
so matching ends although stars may stand in stars. -/
namespace ScriptCache.Shell

/-- A condition on a place. -/
inductive Anchor where
  | lineStart
  | lineEnd
  | textStart
  | textEnd
  | wordStart
  | wordEnd
  | wordEdge
  | inWord
  deriving DecidableEq

inductive Regex where
  | empty
  | byte (holds : UInt8 → Bool)
  | anchor (a : Anchor)
  | seq (a b : Regex)
  | either (a b : Regex)
  /-- So many times at least, and at most if there is a limit. -/
  | again (a : Regex) (least : Nat) (most : Option Nat)
  | group (n : Nat) (a : Regex)
  /-- What a group holds. -/
  | back (n : Nat)

namespace Regex

/-- How expressions are read and matched. -/
structure Dialect where
  /-- Whether the characters for groups, choices and repetitions need no backslash. -/
  extended : Bool
  foldCase : Bool := false
  /-- Whether each line of the text has a start and an end. -/
  linewise : Bool := false
  /-- Whether a backslash in a bracket takes the meaning of a character away. -/
  escapesInBrackets : Bool := false
  /-- Whether an extended expression is refused where a mark has nothing to work on. -/
  strict : Bool := false

/-! ### Matching -/

/-- A place that was reached, with what the groups hold: their starts and ends. -/
structure Spot where
  place : Nat
  groups : List (Nat × Nat × Nat) := []

def isWordByte (b : UInt8) : Bool :=
  (48 ≤ b && b ≤ 57) || (65 ≤ b && b ≤ 90) || (97 ≤ b && b ≤ 122) || b == 95

/-- Spots that stand in order, with only the first of those at one place. -/
def firstOfPlaces (spots : List Spot) : List Spot :=
  spots.foldr (fun s kept => match kept with
    | t :: rest => if s.place == t.place then s :: rest else s :: t :: rest
    | [] => [s]) []

/-- The spots with the first of each place, the farthest first. -/
def distinct (spots : List Spot) : List Spot :=
  firstOfPlaces (spots.mergeSort fun a b => b.place ≤ a.place)

/-- Whether a condition holds at a place of a text. -/
def holdsAt (linewise : Bool) (text : Array UInt8) (place : Nat) : Anchor → Bool
  | .textStart => place == 0
  | .textEnd => place == text.size
  | .lineStart => place == 0 || (linewise && text.getD (place - 1) 0 == 10)
  | .lineEnd => place == text.size || (linewise && text.getD place 0 == 10)
  | a =>
    let before := place != 0 && isWordByte (text.getD (place - 1) 0)
    let after := place < text.size && isWordByte (text.getD place 0)
    match a with
    | .wordStart => !before && after
    | .wordEnd => before && !after
    | .wordEdge => before != after
    | _ => before == after

/-- The spots that repeating leads to, layer by layer; `layer` are those reached last, and
`reached` says which places were reached at all. -/
def layers (once : Spot → List Spot) : Nat → Array Bool → List Spot → List Spot
  | 0, _, layer => layer
  | fuel + 1, reached, layer =>
    let next := (distinct (layer.flatMap once)).filter fun s => !reached.getD s.place true
    let reached := next.foldl (fun reached s => reached.setIfInBounds s.place true) reached
    if next.isEmpty then layer else layer ++ layers once fuel reached next

/-- The spots at the end of each of at most so many bytes of a kind, the nearest first. -/
def byteRow (holds : UInt8 → Bool) (text : Array UInt8) : Nat → Spot → List Spot
  | 0, s => [s]
  | fuel + 1, s =>
    if h : s.place < text.size then
      if holds text[s.place] then s :: byteRow holds text fuel { s with place := s.place + 1 } else [s]
    else [s]

/-- Every spot that so many repetitions lead to. -/
def timesOf (once : Spot → List Spot) : Nat → List Spot → List Spot
  | 0, spots => spots
  | n + 1, spots => timesOf once n (distinct (spots.flatMap once))

/-- Where an expression leads from a spot. -/
def ends (d : Dialect) (text : Array UInt8) : Regex → Spot → List Spot
  | empty, s => [s]
  | byte holds, s =>
    if h : s.place < text.size then if holds text[s.place] then [{ s with place := s.place + 1 }] else [] else []
  | anchor a, s => if holdsAt d.linewise text s.place a then [s] else []
  | seq a b, s => distinct ((ends d text a s).flatMap (ends d text b))
  | either a b, s => distinct (ends d text a s ++ ends d text b s)
  | again (byte holds) least most, s =>
    let most := most.getD (text.size - s.place)
    let row := byteRow holds text most s
    (row.drop least).reverse
  | again a least most, s =>
    let start := timesOf (ends d text a) least [s]
    let rounds := match most with
      | some n => n - least
      | none => text.size + 1
    let reached := start.foldl (fun reached s => reached.setIfInBounds s.place true)
      (Array.replicate (text.size + 1) false)
    distinct (layers (ends d text a) rounds reached start)
  | group n a, s =>
    (ends d text a s).map fun t =>
      { t with groups := (n, s.place, t.place) :: t.groups.filter fun g => g.1 != n }
  | back n, s =>
    match s.groups.lookup n with
    | none => []
    | some (first, last) =>
      let held := text.extract first last
      let here := text.extract s.place (s.place + held.size)
      let folded (bytes : Array UInt8) := bytes.map fun b =>
        if d.foldCase && 65 ≤ b && b ≤ 90 then b + 32 else b
      if folded held == folded here then [{ s with place := s.place + held.size }] else []

/-- What was found: where it starts and ends, and what the groups hold. -/
structure Found where
  start : Nat
  stop : Nat
  groups : List (Nat × Nat × Nat)

/-- The match that starts at a place. -/
def matchAt? (d : Dialect) (e : Regex) (text : Array UInt8) (place : Nat) : Option Found :=
  (ends d text e { place }).head?.map fun s => ⟨place, s.place, s.groups⟩

/-- The bytes that every match starts with; nothing if a match may be empty. -/
def firstBytes? : Regex → Option (UInt8 → Bool)
  | byte holds => some holds
  | seq (anchor _) b => firstBytes? b
  | seq a _ => firstBytes? a
  | either a b =>
    match firstBytes? a, firstBytes? b with
    | some f, some g => some fun b => f b || g b
    | _, _ => none
  | again a least _ => if 0 < least then firstBytes? a else none
  | group _ a => firstBytes? a
  | empty | anchor _ | back _ => none

/-- The first of so many places, from one on, at which something is found. -/
def firstPlace {α : Type} (find : Nat → Option α) : Nat → Nat → Option α
  | 0, _ => none
  | fuel + 1, place =>
    match find place with
    | some a => some a
    | none => firstPlace find fuel (place + 1)

/-- The first match that starts at a place or after it. -/
def search? (d : Dialect) (e : Regex) (text : Array UInt8) (from_ : Nat) : Option Found :=
  let find : Nat → Option Found := match firstBytes? e with
    | none => matchAt? d e text
    | some holds => fun place =>
      if h : place < text.size then if holds text[place] then matchAt? d e text place else none else none
  firstPlace find (text.size + 1 - from_) from_

/-- What a group holds. -/
def Found.group (f : Found) (text : Array UInt8) (n : Nat) : Bytes :=
  let part (a b : Nat) : Bytes := (text.extract a b).toList
  if n = 0 then part f.start f.stop
  else match f.groups.lookup n with
    | some (a, b) => part a b
    | none => []

/-! ### Reading -/

/-- Reading an expression: what is left of it, the number of the last group that was opened,
and the groups that are complete. -/
structure ReadState where
  rest : List Char
  opened : Nat := 0
  closed : List Nat := []
  /-- How many groups are open. -/
  depth : Nat := 0

abbrev Read := StateT ReadState (Except String)

def refuse {α : Type} (problem : String) : Read α := throw problem

def take (n : Nat) : Read Unit :=
  modify fun s => { s with rest := s.rest.drop n }

/-- The test for one character. -/
def one (d : Dialect) (c : Char) : Regex :=
  let b := c.toNat.toUInt8
  if d.foldCase && c.isAlpha then
    let low := c.toLower.toNat.toUInt8
    let high := c.toUpper.toNat.toUInt8
    byte fun x => x == low || x == high
  else byte (· == b)

def ofKind (holds : Char → Bool) : Regex :=
  byte fun b => holds (Char.ofNat b.toNat)

def isWordChar (c : Char) : Bool := c.isAlphanum || c == '_'

def isSpaceChar (c : Char) : Bool := c == ' ' || ('\t' ≤ c && c ≤ '\r')

/-- What stands between a mark with an opening bracket and one with a closing bracket. -/
def named? (mark : Char) : List Char → List Char → Option (String × List Char)
  | _, [] => none
  | seen, c :: rest =>
    if c == mark && rest.head? == some ']' then some (String.ofList seen.reverse, rest.tail)
    else named? mark (c :: seen) rest

/-- One character of a bracket, which may have a name. -/
def bracketChar (d : Dialect) (cs : List Char) : Except String (Char × List Char) :=
  let unmatched := "Unmatched [, [^, [:, [., or [="
  match cs with
  | '[' :: '.' :: rest =>
    match named? '.' [] rest with
    | some (name, after) =>
      match name.toList with
      | [c] => .ok (c, after)
      | _ => .error "Invalid collation character"
    | none => .error unmatched
  | '\\' :: c :: rest =>
    if d.escapesInBrackets then
      let c := match c with
        | 'n' => '\n'
        | 't' => '\t'
        | c => c
      .ok (c, rest)
    else .ok ('\\', c :: rest)
  | c :: rest => .ok (c, rest)
  | [] => .error unmatched

/-- The items of a bracket up to its end. -/
def bracketItems (d : Dialect) : Nat → Bool → List Char →
    Except String (List (Char → Bool) × List Char)
  | 0, _, _ => .error "Unmatched [, [^, [:, [., or [="
  | _, _, [] => .error "Unmatched [, [^, [:, [., or [="
  | fuel + 1, first, cs => do
    match cs with
    | ']' :: rest =>
      if first then
        let (more, after) ← bracketFrom d fuel ']' rest
        return (more, after)
      else return ([], rest)
    | '[' :: ':' :: rest =>
      match named? ':' [] rest with
      | none => .error "Unmatched [, [^, [:, [., or [="
      | some (name, after) =>
        match Pattern.kind? name with
        | none => .error "Invalid character class name"
        | some holds =>
          let (more, after) ← bracketItems d fuel false after
          return (holds :: more, after)
    | '[' :: '=' :: rest =>
      match named? '=' [] rest with
      | none => .error "Unmatched [, [^, [:, [., or [="
      | some (name, after) =>
        let (more, after) ← bracketItems d fuel false after
        return ((fun c => name.toList.contains c) :: more, after)
    | cs =>
      let (c, rest) ← bracketChar d cs
      bracketFrom d fuel c rest
where
  /-- The items after a character, which a range may start with. -/
  bracketFrom (d : Dialect) (fuel : Nat) (c : Char) (rest : List Char) :
      Except String (List (Char → Bool) × List Char) := do
    match rest with
    | '-' :: high :: after =>
      if high == ']' then
        let (more, after) ← bracketItems d fuel false rest
        return ((· == c) :: more, after)
      else
        let (high, after) ← bracketChar d (high :: after)
        if high < c then throw "Invalid range end"
        let (more, after) ← bracketItems d fuel false after
        return ((fun x => c ≤ x && x ≤ high) :: more, after)
    | _ =>
      let (more, after) ← bracketItems d fuel false rest
      return ((· == c) :: more, after)

/-- A bracket, after the character that opens it. -/
def bracket (d : Dialect) : Read Regex := do
  let cs := (← get).rest
  let negated := cs.head? == some '^'
  let cs := if negated then cs.tail else cs
  if cs.isEmpty then refuse "Invalid regular expression"
  match bracketItems d (cs.length + 1) true cs with
  | .error problem => refuse problem
  | .ok (items, rest) =>
    modify fun s => { s with rest }
    let holds (c : Char) : Bool := items.any fun item => item c
    let holds (c : Char) : Bool := if d.foldCase then holds c.toLower || holds c.toUpper else holds c
    return ofKind fun c => holds c != negated

/-- The numbers of a repetition, and what comes after them. -/
def bounds? (cs : List Char) : Option ((Nat × Option Nat) × List Char) :=
  let first := cs.takeWhile Char.isDigit
  let number (ds : List Char) : Nat := (String.ofList ds).toNat?.getD 0
  match cs.drop first.length with
  | ',' :: rest =>
    let second := rest.takeWhile Char.isDigit
    some ((number first, if second.isEmpty then none else some (number second)), rest.drop second.length)
  | rest => if first.isEmpty then none else some ((number first, some (number first)), rest)

/-- The most times that a repetition may ask for. -/
def repetitionLimit : Nat := 32767

/-- What stands after an expression to repeat it; nothing if nothing does. -/
def repetition? (d : Dialect) (cs : List Char) : Except String (Option ((Nat × Option Nat) × List Char)) :=
  let checked (r : (Nat × Option Nat) × List Char) : Except String (Option ((Nat × Option Nat) × List Char)) :=
    let ((least, most), _) := r
    if most.any (· < least) then .error "Invalid content of \\\x7b\\\x7d"
    else if repetitionLimit < least || most.any (repetitionLimit < ·) then .error "Regular expression too big"
    else .ok (some r)
  match cs with
  | '*' :: rest => .ok (some ((0, none), rest))
  | '+' :: rest => if d.extended then .ok (some ((1, none), rest)) else .ok none
  | '?' :: rest => if d.extended then .ok (some ((0, some 1), rest)) else .ok none
  | '\x7b' :: rest =>
    if !d.extended then .ok none
    else match bounds? rest with
      | some (bounds, '\x7d' :: after) => checked (bounds, after)
      | some (_, []) => if d.strict then .error "Unmatched \\\x7b" else .ok none
      | _ => if d.strict then .error "Invalid content of \\\x7b\\\x7d" else .ok none
  | '\\' :: '+' :: rest => if d.extended then .ok none else .ok (some ((1, none), rest))
  | '\\' :: '?' :: rest => if d.extended then .ok none else .ok (some ((0, some 1), rest))
  | '\\' :: '\x7b' :: rest =>
    if d.extended then .ok none
    else match bounds? rest with
      | some (bounds, '\\' :: '\x7d' :: after) => checked (bounds, after)
      | some (_, []) => .error "Unmatched \\\x7b"
      | none => .error (if rest.isEmpty then "Unmatched \\\x7b" else "Invalid content of \\\x7b\\\x7d")
      | some _ => .error "Invalid content of \\\x7b\\\x7d"
  | _ => .ok none

/-- An expression with the repetitions that stand after it. -/
def repeated (d : Dialect) : Nat → Regex → Read Regex
  | 0, e => return e
  | fuel + 1, e => do
    match repetition? d (← get).rest with
    | .error problem => refuse problem
    | .ok none => return e
    | .ok (some ((least, most), rest)) =>
      modify fun s => { s with rest }
      repeated d fuel (again e least most)

/-- What a letter after a backslash means, other than itself. -/
def letter? (c : Char) : Option Regex :=
  match c with
  | 'w' => some (ofKind isWordChar)
  | 'W' => some (ofKind fun c => !isWordChar c)
  | 's' => some (ofKind isSpaceChar)
  | 'S' => some (ofKind fun c => !isSpaceChar c)
  | '<' => some (anchor .wordStart)
  | '>' => some (anchor .wordEnd)
  | 'b' => some (anchor .wordEdge)
  | 'B' => some (anchor .inWord)
  | '\x60' => some (anchor .textStart)
  | '\x27' => some (anchor .textEnd)
  | 'n' => some (byte (· == 10))
  | _ => none

/-- Whether an expression ends before some characters, as a branch or a group does. -/
def endsBranch (d : Dialect) (depth : Nat) (cs : List Char) : Bool :=
  match cs with
  | [] => true
  | '|' :: _ => d.extended
  | ')' :: _ => d.extended && (0 < depth || d.strict)
  | '\\' :: '|' :: _ => !d.extended
  | '\\' :: ')' :: _ => !d.extended
  | _ => false

/-- A group, after what opens it. -/
def groupRule (d : Dialect) (whole : Read Regex) : Read Regex := do
  let n := (← get).opened + 1
  modify fun s => { s with opened := n, depth := s.depth + 1 }
  let e ← whole
  match d.extended, (← get).rest with
  | true, ')' :: rest | false, '\\' :: ')' :: rest =>
    modify fun s => { s with rest, depth := s.depth - 1, closed := n :: s.closed }
    return group n e
  | _, _ => refuse "Unmatched ( or \\("

/-- One part of a branch. `first` says that nothing stands before it in its branch. -/
def atom (d : Dialect) (whole : Read Regex) (first : Bool) : Read Regex := do
  let s ← get
  match s.rest with
  | [] => return empty
  | '\\' :: rest =>
    match rest with
    | [] => refuse "Trailing backslash"
    | c :: _ =>
      take 2
      if c == '(' && !d.extended then groupRule d whole
      else if c == ')' && !d.extended then refuse "Unmatched ) or \\)"
      else if c == '\x7b' && !d.extended then
        if first then refuse "Invalid preceding regular expression" else return one d c
      else if c.isDigit && c != '0' then
        let n := c.toNat - 48
        if s.closed.contains n then return back n else refuse "Invalid back reference"
      else return (letter? c).getD (one d c)
  | c :: rest =>
    take 1
    if c == '(' && d.extended then groupRule d whole
    else if c == '.' then return byte fun _ => true
    else if c == '[' then bracket d
    else if c == '^' then
      if d.extended || first then return anchor .lineStart else return one d c
    else if c == '$' then
      if d.extended || endsBranch d s.depth rest then return anchor .lineEnd else return one d c
    else if d.extended && first && (c == '*' || c == '+' || c == '?' || (d.strict && c == '\x7b')) then
      if d.strict then refuse "Invalid preceding regular expression" else return empty
    else return one d c

/-- The parts of a branch. A star that has nothing before it to repeat stands for itself. -/
def branchFrom (d : Dialect) (whole : Read Regex) : Nat → Bool → Regex → Read Regex
  | 0, _, seen => return seen
  | fuel + 1, first, seen => do
    let s ← get
    if endsBranch d s.depth s.rest then
      match d.extended, s.depth, s.rest with
      | false, 0, '\\' :: ')' :: _ => refuse "Unmatched ) or \\)"
      | _, _, _ => return seen
    else
      let isAnchor := first && s.rest.head? == some '^'
      let e ← atom d whole first
      let holdsNothing := isAnchor && (!d.extended || d.strict)
      let e ← if holdsNothing then pure e else repeated d s.rest.length e
      let seen := match seen with
        | empty => e
        | seen => seq seen e
      branchFrom d whole fuel holdsNothing seen

/-- Branches with a choice between them. -/
def choiceFrom (d : Dialect) (whole : Read Regex) : Nat → Regex → Read Regex
  | 0, seen => return seen
  | fuel + 1, seen => do
    let s ← get
    let bar := match d.extended, s.rest with
      | true, '|' :: _ => 1
      | false, '\\' :: '|' :: _ => 2
      | _, _ => 0
    if bar == 0 then return seen
    else
      take bar
      let next ← branchFrom d whole (s.rest.length + 1) true empty
      choiceFrom d whole fuel (either seen next)

/-- An expression whose groups nest no deeper than a number. -/
def wholeRule (d : Dialect) : Nat → Read Regex
  | 0 => refuse "Regular expression too big"
  | depth + 1 => do
    let size := (← get).rest.length + 1
    let first ← branchFrom d (wholeRule d depth) size true empty
    choiceFrom d (wholeRule d depth) size first

/-- The expression that a text is, and how many groups it has; or what is wrong with it. -/
def read (d : Dialect) (text : String) : Except String (Regex × Nat) := do
  let (e, s) ← (wholeRule d (text.length + 1)).run { rest := text.toList }
  if s.rest.isEmpty then return (e, s.opened)
  else throw "Unmatched ) or \\)"

end Regex

end ScriptCache.Shell
