import ScriptCache.Shell.Format
import ScriptCache.Shell.Mode
import ScriptCache.Shell.Pattern
import ScriptCache.Shell.Utility.Show

/-! Utilities that change content character by character. -/
namespace ScriptCache.Shell.Utility

/-! ### Sets of characters -/

/-- A part of a set, as it is written. -/
inductive SetItem where
  | char (c : Char)
  | range (low high : Char)
  | kind (name : String) (members : List Char)
  | same (c : Char)
  /-- A character again and again; no number of times stands for as often as it takes. -/
  | again (c : Char) (times : Option Nat)

/-- The characters that an octal escape spells, and what comes after it. A number that is
too great for one is cut a digit earlier. -/
def setOctal (cs : List Char) : Char × List Char :=
  let digits := (cs.take 3).takeWhile isOctal
  let value (ds : List Char) := ds.foldl (fun n c => 8 * n + (c.toNat - 48)) 0
  if value digits < 256 then (Char.ofNat (value digits), cs.drop digits.length)
  else (Char.ofNat (value (digits.take 2)), cs.drop 2)

/-- The characters of a set, each with whether a backslash stood before it. -/
def setChars : Nat → List Char → List (Char × Bool)
  | 0, _ => []
  | _, [] => []
  | fuel + 1, '\\' :: rest =>
    match rest with
    | [] => [('\\', false)]
    | c :: after =>
      if isOctal c then
        let (c, after) := setOctal rest
        (c, true) :: setChars fuel after
      else if c == 'e' then (c, true) :: setChars fuel after
      else ((escapeLetter? c).getD c, true) :: setChars fuel after
  | fuel + 1, c :: rest => (c, false) :: setChars fuel rest

/-- A character as complaints show it. -/
def shownChar (c : Char) : String :=
  if ' ' ≤ c && c ≤ '~' then String.singleton c
  else
    let octal := Nat.toDigits 8 c.toNat
    "\\" ++ String.ofList (List.replicate (3 - octal.length) '0' ++ octal)

def textOf (cs : List (Char × Bool)) : String := String.ofList (cs.map Prod.fst)

/-- What stands between an opening bracket with a mark and the mark with a bracket that
closes it, and what comes after. -/
def bracketed? (mark : Char) : List (Char × Bool) → List (Char × Bool) →
    Option (List (Char × Bool) × List (Char × Bool))
  | _, [] => none
  | seen, (c, escaped) :: rest =>
    match (c == mark && !escaped), rest with
    | true, (']', false) :: after => some (seen.reverse, after)
    | _, _ => bracketed? mark ((c, escaped) :: seen) rest

/-- The members of a class of characters. -/
def members? (name : String) : Option (List Char) :=
  (Pattern.kind? name).map fun holds => ((List.range 256).map Char.ofNat).filter holds

/-- The bracket that some characters start with, and what comes after it; or what is wrong
with it. -/
def setBracket? (cs : List (Char × Bool)) : Except String (Option (SetItem × List (Char × Bool))) :=
  match cs with
  | ('[', false) :: (':', false) :: rest =>
    match bracketed? ':' [] rest with
    | none => .ok none
    | some ([], _) => .error "missing character class name '[::]'"
    | some (name, after) =>
      match members? (textOf name) with
      | some members => .ok (some (.kind (textOf name) members, after))
      | none => .error ("invalid character class " ++ quoted (textOf name))
  | ('[', false) :: ('=', false) :: rest =>
    match bracketed? '=' [] rest with
    | none => .ok none
    | some ([], _) => .error "missing equivalence class character '[==]'"
    | some ([(c, _)], after) => .ok (some (.same c, after))
    | some (name, _) => .error (textOf name ++ ": equivalence class operand must be a single character")
  | ('[', false) :: (c, _) :: ('*', false) :: rest =>
    let count := rest.takeWhile fun g => !(g.1 == ']' && !g.2)
    match rest.drop count.length with
    | [] => .ok none
    | _ :: after =>
      let text := textOf count
      let number? := match text.toList with
        | '0' :: _ => Mode.octal? text
        | _ => decimal? text
      if text.isEmpty then .ok (some (.again c none, after))
      else match number? with
        | some n => .ok (some (.again c (if n == 0 then none else some n), after))
        | none =>
          if count.any (·.2) then .ok none
          else .error ("invalid repeat count " ++ quoted text ++ " in [c*n] construct")
  | _ => .ok none

/-- The parts of a set; or what is wrong with it. -/
def setItems : Nat → List (Char × Bool) → Except String (List SetItem)
  | 0, _ => .ok []
  | _, [] => .ok []
  | fuel + 1, (c, escaped) :: rest => do
    match ← setBracket? ((c, escaped) :: rest) with
    | some (item, after) => return item :: (← setItems fuel after)
    | none =>
      match rest with
      | ('-', false) :: (high, _) :: after =>
        if high < c then
          .error ("range-endpoints of '" ++ shownChar c ++ "-" ++ shownChar high ++
            "' are in reverse collating sequence order")
        else return .range c high :: (← setItems fuel after)
      | _ => return .char c :: (← setItems fuel rest)

def setOf (text : String) : Except String (List SetItem) :=
  setItems (text.length + 1) (setChars (text.length + 1) text.toList)

/-- The characters of a part; `fill` is how often an open row is taken. -/
def SetItem.expand (fill : Nat) : SetItem → List Char
  | char c | same c => [c]
  | range low high => (List.range (high.toNat + 1 - low.toNat)).map fun i => Char.ofNat (low.toNat + i)
  | kind _ members => members
  | again c times => List.replicate (times.getD fill) c

def SetItem.isOpen : SetItem → Bool
  | again _ none => true
  | _ => false

def SetItem.isCase : SetItem → Bool
  | kind name _ => name == "upper" || name == "lower"
  | _ => false

/-- The characters of a set, in order. -/
def expanded (fill : Nat) (items : List SetItem) : Bytes :=
  Latin.bytesOf (items.flatMap (SetItem.expand fill))

/-- Where the classes of letters of one case start in a set. -/
def casePlaces (fill : Nat) : Nat → List SetItem → List Nat
  | _, [] => []
  | at_, item :: rest =>
    (if item.isCase then [at_] else []) ++ casePlaces fill (at_ + (item.expand fill).length) rest

/-! ### Translating -/

/-- How `tr` is asked to change content. -/
structure Translation where
  complement : Bool
  delete : Bool
  squeeze : Bool
  truncate : Bool

/-- The bytes that a first set stands for. -/
def Translation.source (t : Translation) (items : List SetItem) : Bytes :=
  let set := expanded 0 items
  if t.complement then ((List.range 256).map UInt8.ofNat).filter fun b => !set.contains b else set

/-- What is wrong with a set that content is translated from or to; else both sets, as long
as each other unless the first is to be cut. -/
def translated (t : Translation) (first second : List SetItem) : Except String (Bytes × Bytes) :=
  let source := t.source first
  let fixed := (expanded 0 second).length
  let fill := source.length - fixed
  let target := expanded fill second
  let isOther : SetItem → Bool
    | .kind name _ => name != "upper" && name != "lower"
    | _ => false
  let isSame : SetItem → Bool
    | .same _ => true
    | _ => false
  if second.any isSame then .error "[=c=] expressions may not appear in string2 when translating"
  else if second.any isOther then
    .error "when translating, the only character classes that may appear in\nstring2 are 'upper' and 'lower'"
  else if !t.complement && !(casePlaces fill 0 second).all (casePlaces 0 0 first).contains then
    .error "misaligned [:upper:] and/or [:lower:] construct"
  else if target.isEmpty && !t.truncate && !source.isEmpty then
    .error "when not truncating set1, string2 must be non-empty"
  else if t.complement && !target.all (target.head? == some ·) &&
      first.any (fun item => match item with | .kind .. => true | _ => false) then
    .error "when translating with complemented character classes,\nstring2 must map all characters in the domain to one"
  else if t.truncate then .ok (source.take target.length, target)
  else .ok (source, target ++ List.replicate (source.length - target.length) (target.getLast?.getD 0))

/-- Some bytes with repeated ones of a set left out. -/
def squeezed (set : Bytes) : Bytes → Bytes
  | a :: b :: rest =>
    if a == b && set.contains a then squeezed set (b :: rest) else a :: squeezed set (b :: rest)
  | bytes => bytes

/-- The bytes that all bytes are mapped to; where a byte is in the source twice, its last
place counts. -/
def mapping (source target : Bytes) : Array UInt8 :=
  (source.zip target).foldl (fun table (a, b) => table.setIfInBounds a.toNat b)
    (((List.range 256).map UInt8.ofNat).toArray)

/-- A set as a table. -/
def memberTable (set : Bytes) : Array Bool :=
  set.foldl (fun table b => table.setIfInBounds b.toNat true) (Array.replicate 256 false)

def deleted (set : Bytes) (bytes : Bytes) : Bytes :=
  let table := memberTable set
  bytes.filter fun b => !table.getD b.toNat false

/-- What is done to content: every part of it is changed, and then repeated bytes of a set are left
out. -/
structure Change where
  part : Bytes → Bytes
  squeezes : Option Bytes := none

/-- What becomes of the next part of content, after a byte that was written last. -/
def Change.next (c : Change) (last : Option UInt8) (bytes : Bytes) : Bytes :=
  let out := c.part bytes
  match c.squeezes, last with
  | none, _ => out
  | some set, none => squeezed set out
  | some set, some b => (squeezed set (b :: out)).tail

/-- What is done to content; or what is wrong with the sets. -/
def Translation.change (t : Translation) (sets : List (List SetItem)) : Except String Change :=
  match sets with
  | [first] =>
    if first.any fun item => match item with | .again .. => true | _ => false then
      .error "the [c*] repeat construct may not appear in string1"
    else if t.delete then .ok { part := deleted (t.source first) }
    else .ok { part := id, squeezes := some (t.source first) }
  | [first, second] =>
    if first.any fun item => match item with | .again .. => true | _ => false then
      .error "the [c*] repeat construct may not appear in string1"
    else if 1 < (second.filter SetItem.isOpen).length then
      .error "only one [c*] repeat construct may appear in string2"
    else if t.delete then
      .ok { part := deleted (t.source first), squeezes := some (expanded 0 second) }
    else
      (translated t first second).map fun (source, target) =>
        let table := mapping source target
        { part := List.map fun b => table.getD b.toNat b, squeezes := if t.squeeze then some target else none }
  | _ => .ok { part := id }

def trUsage : Usage where
  name := "tr"
  options := [flag 'c' "complement", flag 'C' "", flag 'd' "delete", flag 's' "squeeze-repeats",
    flag 't' "truncate-set1"]
  permutes := false

def tr (args : List String) : Act Nat :=
  withOptions trUsage args fun found operands => do
    let t : Translation :=
      { complement := has found 'c' || has found 'C', delete := has found 'd', squeeze := has found 's'
        truncate := has found 't' }
    let usageHint (texts : List String) : Act Nat := do
      texts.forM fun text => Act.say 2 (text ++ "\n")
      hinted 1 "tr"
    let least := if t.delete == t.squeeze then 2 else 1
    let most := if t.delete && !t.squeeze then 1 else 2
    match operands with
    | [] => misused "tr" "missing operand"
    | _ =>
      if operands.length < least then
        complain "tr" ("missing operand after " ++ quoted (operands.getLast?.getD ""))
        usageHint [if t.squeeze then "Two strings must be given when both deleting and squeezing repeats."
          else "Two strings must be given when translating."]
      else if most < operands.length then
        complain "tr" ("extra operand " ++ quoted (operands.getD most ""))
        usageHint (if operands.length == 2 then
          ["Only one string may be given when deleting without squeezing repeats."] else [])
      else
        if operands.any fun text =>
            (text.toList.reverse.takeWhile (· == '\\')).length % 2 == 1 then
          complain "tr" "warning: an unescaped backslash at end of string is not portable"
        match operands.mapM setOf with
        | .error problem =>
          complain "tr" problem
          return 1
        | .ok sets =>
          match t.change sets with
          | .error problem =>
            complain "tr" problem
            return 1
          | .ok change =>
            let work (last : Option UInt8) (bytes : Bytes) : Act (Option UInt8 × Bool) := do
              let out := change.next last bytes
              let _ ← put out
              return (out.getLast?.or last, true)
            let failed (e : SysError) : Act Nat := do
              complain "tr" ("read error: " ++ e.text)
              return 1
            match ← Act.channel? 0 with
            | none => failed .badHandle
            | some (n, _) =>
              match ← eachBlock n work none with
              | .error e => failed e
              | .ok _ => return 0

/-! ### Tabs -/

/-- Where tabs lead: places, and what comes after the last of them. -/
structure TabStops where
  places : List Nat := []
  every : Nat := 8

/-- The stops that a list is. -/
def tabStops? (text : String) : Option TabStops :=
  match ((text.split fun c => c == ',' || c == ' ').toList.map fun part => decimal? part.toString).mapM id with
  | some [n] => if n == 0 then none else some { every := n }
  | some places => some { places, every := 1 }
  | none => none

/-- The next stop after a column. -/
def TabStops.next (t : TabStops) (column : Nat) : Nat :=
  match t.places.find? (column < ·) with
  | some place => place
  | none => if t.places.isEmpty then (column / t.every + 1) * t.every else column + 1

/-- A line with its tabs replaced by blanks; those after a character only if `all` is. -/
def detabbed (t : TabStops) (all : Bool) : Nat → Bool → Bytes → Bytes
  | _, _, [] => []
  | column, leading, b :: rest =>
    if b == 9 && (all || leading) then
      let next := t.next column
      List.replicate (next - column) 32 ++ detabbed t all next leading rest
    else b :: detabbed t all (if b == 8 then column - 1 else column + 1) (leading && b == 32) rest

def tabsProblem (text : String) : String :=
  if (decimal? text) == some 0 then "tab size cannot be 0"
  else "tab size contains invalid character(s): " ++ quoted (String.ofList (text.toList.dropWhile Char.isDigit))

/-- Works on every line of the operands. -/
def eachLine (name : String) (operands : List String) (change : Bytes → Bytes) : Act Nat := do
  let (status, _) ← filtered name "-" 10 operands cannotRead () fun _ line =>
    ((), change (withoutMark 10 line) ++ (if line.getLast? == some 10 then [10] else []))
  return status

def expand (args : List String) : Act Nat :=
  withOptions { name := "expand", options := [flag 'i' "initial", valued 't' "tabs"] } args fun found operands => do
    let text := (valueOf? found 't').getD "8"
    match tabStops? text with
    | none =>
      complain "expand" (tabsProblem text)
      return 1
    | some t => eachLine "expand" operands (detabbed t (!has found 'i') 0 true)

/-- A line with blanks replaced by tabs where they reach a stop; blanks after a character
only if `all` is. `pending` blanks lead up to the column. -/
def entabbed (t : TabStops) (all : Bool) : (column pending : Nat) → (leading : Bool) → Bytes → Bytes
  | _, pending, _, [] => List.replicate pending 32
  | column, pending, leading, b :: rest =>
    if (b == 32 || b == 9) && (all || leading) then
      let next := t.next column
      if b == 9 then 9 :: entabbed t all next 0 leading rest
      else if column + 1 == next then
        if pending == 0 && !leading && rest.head? != some 32 && rest.head? != some 9 then
          32 :: entabbed t all next 0 leading rest
        else 9 :: entabbed t all next 0 leading rest
      else entabbed t all (column + 1) (pending + 1) leading rest
    else
      List.replicate pending 32 ++ b :: entabbed t all (if b == 8 then column - 1 else column + 1) 0 false rest

def unexpand (args : List String) : Act Nat :=
  withOptions { name := "unexpand", options := [flag 'a' "all", wordFlag '1' "first-only", valued 't' "tabs"] }
    args fun found operands => do
      let text := (valueOf? found 't').getD "8"
      match tabStops? text with
      | none =>
        complain "unexpand" (tabsProblem text)
        return 1
      | some t =>
        let all := (has found 'a' || has found 't') && !has found '1'
        eachLine "unexpand" operands (entabbed t all 0 0 true)

/-! ### Long lines -/

/-- The column after a byte. -/
def columnAfter (bytes : Bool) (column : Nat) (b : UInt8) : Nat :=
  if bytes then column + 1
  else if b == 8 then column - 1
  else if b == 13 then 0
  else if b == 9 then (column / 8 + 1) * 8
  else column + 1

/-- Breaks a line where it gets too wide, after the last blank if that is asked for. `under`
is the row under way, its last byte first. -/
def folded (bytes spaces : Bool) (width : Nat) : Nat → Nat → Bytes → Bytes → Bytes
  | 0, _, under, rest => under.reverse ++ rest
  | _, _, under, [] => under.reverse
  | fuel + 1, column, under, b :: rest =>
    let next := columnAfter bytes column b
    if width < next && !under.isEmpty then
      let tail := under.takeWhile fun b => b != 32 && b != 9
      if spaces && tail.length < under.length then
        (under.drop tail.length).reverse ++ 10 :: folded bytes spaces width fuel
          (tail.foldr (fun b column => columnAfter bytes column b) 0) tail (b :: rest)
      else under.reverse ++ 10 :: folded bytes spaces width fuel 0 [] (b :: rest)
    else folded bytes spaces width fuel next (b :: under) rest

def fold (args : List String) : Act Nat :=
  let args := args.map fun arg => match arg.toList with
    | '-' :: c :: more => if c.isDigit then "-w" ++ String.ofList (c :: more) else arg
    | _ => arg
  withOptions { name := "fold", options := [flag 'b' "bytes", flag 's' "spaces", valued 'w' "width"] } args
    fun found operands => do
      let text := (valueOf? found 'w').getD "80"
      match decimal? text with
      | none | some 0 =>
        complain "fold" ("invalid number of columns: " ++ quoted text)
        return 1
      | some width =>
        eachLine "fold" operands fun line =>
          folded (has found 'b') (has found 's') width (2 * line.length + 2) 0 [] line

end ScriptCache.Shell.Utility
