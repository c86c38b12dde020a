import ScriptCache.Shell.Format
import ScriptCache.Shell.Utility.Sort

/-! Utilities that take lines apart and put them together. -/
namespace ScriptCache.Shell.Utility

/-! ### Parts of lines -/

/-- What a list counts. -/
inductive Counted where
  | fields
  | bytes
  deriving DecidableEq

def Counted.fromOne : Counted → String
  | fields => "fields are numbered from 1"
  | bytes => "byte/character positions are numbered from 1"

def Counted.badValue : Counted → String → String
  | fields, text => "invalid field value " ++ quoted text
  | bytes, text => "invalid byte/character position " ++ quoted text

def Counted.badRange : Counted → String
  | fields => "invalid field range"
  | bytes => "invalid byte or character range"

/-- A range of places, which may have no end. -/
abbrev PlaceRange := Nat × Option Nat

/-- A place in a list; or what is wrong with it. -/
def listPlace (kind : Counted) (text : String) : Except String Nat :=
  match decimal? text with
  | some 0 => .error kind.fromOne
  | some n => .ok n
  | none => .error (kind.badValue (String.ofList (text.toList.dropWhile Char.isDigit)))

/-- A range in a list; or what is wrong with it. -/
def listRange (kind : Counted) (text : String) : Except String PlaceRange := do
  match text.splitOn "-" with
  | [""] => .error kind.fromOne
  | [n] =>
    let n ← listPlace kind n
    return (n, some n)
  | ["", ""] => .error "invalid range with no endpoint: -"
  | ["", m] => return (1, some (← listPlace kind m))
  | [n, ""] => return (← listPlace kind n, none)
  | [n, m] =>
    let n ← listPlace kind n
    let m ← listPlace kind m
    if m < n then .error "invalid decreasing range" else return (n, some m)
  | _ => .error kind.badRange

/-- Ranges in order, those that overlap as one. -/
def mergedRanges (ranges : List PlaceRange) : List PlaceRange :=
  let sorted := ranges.mergeSort fun a b => a.1 ≤ b.1
  let merge (seen : List PlaceRange) (r : PlaceRange) : List PlaceRange :=
    match seen with
    | (low, high) :: rest =>
      match high, r.2 with
      | none, _ => seen
      | some h, high' =>
        if r.1 ≤ h then (low, high'.map (max h)) :: rest else r :: seen
    | [] => [r]
  (sorted.foldl merge []).reverse

/-- The places that ranges leave out. -/
def complementRanges (ranges : List PlaceRange) : List PlaceRange :=
  let rec each (next : Nat) : List PlaceRange → List PlaceRange
    | [] => [(next, none)]
    | (low, high) :: rest =>
      let before := if next < low then [(next, some (low - 1))] else []
      match high with
      | none => before
      | some h => before ++ each (h + 1) rest
  each 1 ranges

/-- The ranges that a list is; or what is wrong with it. -/
def ranges (kind : Counted) (text : String) : Except String (List PlaceRange) := do
  let parts := (text.split fun c => c == ',' || c == ' ' || c == '\t').toList.map (·.toString)
  return mergedRanges (← parts.mapM (listRange kind))

/-- The items of a list that stand in a range. -/
def within {α : Type} (r : PlaceRange) (items : List α) : List α :=
  (match r.2 with
    | some high => items.take high
    | none => items).drop (r.1 - 1)

/-- A line taken apart at every mark. -/
def splitAt (mark : UInt8) (line : Bytes) : List Bytes :=
  line.foldr (fun b parts =>
    if b == mark then [] :: parts
    else match parts with
      | part :: rest => (b :: part) :: rest
      | [] => [[b]]) [[]]

def cutUsage : Usage where
  name := "cut"
  options := [valued 'b' "bytes", valued 'c' "characters", valued 'd' "delimiter", valued 'f' "fields", flag 'n' "",
    flag 's' "only-delimited", wordFlag '1' "complement", wordValued '2' "output-delimiter", flag 'z' "zero-terminated"]

def cut (args : List String) : Act Nat :=
  withOptions cutUsage args fun found operands => do
    let lists := found.filter fun o => ['b', 'c', 'f'].contains o.1
    let mark : UInt8 := if has found 'z' then 0 else 10
    match lists with
    | [] => misused "cut" "you must specify a list of bytes, characters, or fields"
    | _ :: _ :: _ => misused "cut" "only one list may be specified"
    | [(c, list)] =>
      let kind := if c == 'f' then Counted.fields else .bytes
      let delimiter := (valueOf? found 'd').map String.toList
      if (delimiter.map List.length).any (1 < ·) then misused "cut" "the delimiter must be a single character"
      else if kind == .bytes && delimiter.isSome then
        misused "cut" "an input delimiter may be specified only when operating on fields"
      else if kind == .bytes && has found 's' then
        misused "cut" "suppressing non-delimited lines makes sense\n\tonly when operating on fields"
      else
        match ranges kind list with
        | .error problem => misused "cut" problem
        | .ok chosen =>
          let chosen := if has found '1' then complementRanges chosen else chosen
          let tab : UInt8 := match delimiter with
            | none => 9
            | some [] => 0
            | some (c :: _) => c.toNat.toUInt8
          let joint := (valueOf? found '2').map Latin.toBytes
          let change (line : Bytes) : Option Bytes :=
            match kind with
            | .bytes => some ((joint.getD []).intercalate ((chosen.map fun r => within r line).filter (! ·.isEmpty)))
            | .fields =>
              let parts := splitAt tab line
              if parts.length == 1 then if has found 's' then none else some line
              else some ((joint.getD [tab]).intercalate (chosen.flatMap fun r => within r parts))
          let (status, _) ← filtered "cut" "-" mark operands cannotRead () fun _ line =>
            ((), (change (withoutMark mark line)).elim [] (· ++ [mark]))
          return status

/-! ### Lines side by side -/

/-- The delimiters of a list, where an empty one stands for nothing; none if it ends in a
backslash. -/
def delimiters? : List Char → Option (List Bytes)
  | [] => some []
  | ['\\'] => none
  | '\\' :: c :: rest =>
    let one : Bytes := match c with
      | '0' => []
      | 'b' => [8]
      | 'f' => [12]
      | 'n' => [10]
      | 'r' => [13]
      | 't' => [9]
      | 'v' => [11]
      | c => [c.toNat.toUInt8]
    (delimiters? rest).map (one :: ·)
  | c :: rest => (delimiters? rest).map ([c.toNat.toUInt8] :: ·)

/-- Items with delimiters between them, which are used in turn. -/
def delimited (marks : Array Bytes) : Nat → List Bytes → Bytes
  | _, [] => []
  | _, [item] => item
  | n, item :: rest => item ++ marks.getD (n % marks.size) [] ++ delimited marks (n + 1) rest

/-- Rows of one line from each source. A source that is named again goes on where it was. -/
def pasteRows (marks : Array Bytes) (mark : UInt8) : Nat → List Nat → List (List Bytes) → Bytes
  | 0, _, _ => []
  | fuel + 1, order, sources =>
    let taken := order.foldl (fun (items, sources) i =>
      match (sources.getD i []) with
      | [] => (none :: items, sources)
      | line :: rest => (some line :: items, sources.set i rest)) (([] : List (Option Bytes)), sources)
    let items := taken.1.reverse
    if items.all (·.isNone) then []
    else
      delimited marks 0 (items.map (·.getD [])) ++ mark :: pasteRows marks mark fuel order taken.2

def paste (args : List String) : Act Nat :=
  withOptions { name := "paste", options := [valued 'd' "delimiters", flag 's' "serial", flag 'z' "zero-terminated"] }
    args fun found operands => do
      let mark : UInt8 := if has found 'z' then 0 else 10
      let list := (valueOf? found 'd').getD "\t"
      match delimiters? list.toList with
      | none =>
        complain "paste" ("delimiter list ends with an unescaped backslash: " ++ list)
        return 1
      | some marks =>
        let marks := (if marks.isEmpty then [[]] else marks).toArray
        let asked := sources operands
        let names := asked.eraseDups
        let rec load : List String → Act (Except String (List (String × List Bytes)))
          | [] => return .ok []
          | name :: rest => do
            match ← content name with
            | .error e => return .error (cannotRead name e)
            | .ok bytes => return (← load rest).map ((name, (piecesAt mark bytes).map (withoutMark mark)) :: ·)
        if has found 's' then
          let (status, contents) ← contentsOf "paste" operands cannotRead
          let rows := contents.map fun (_, bytes) =>
            delimited marks 0 ((piecesAt mark bytes).map (withoutMark mark)) ++ [mark]
          let _ ← put rows.flatten
          return status
        else
          match ← load names with
          | .error problem =>
            complain "paste" problem
            let _ ← closedInput "paste" "-" operands
            return 1
          | .ok contents =>
            let total := contents.foldl (fun n c => n + c.2.length) 1
            let order := asked.map fun name => (names.findIdx? (· == name)).getD 0
            put (pasteRows marks mark total order (contents.map Prod.snd))

/-! ### Two sorted files -/

/-- Takes the lines of two files in order: those of the first only, of the second only, and
of both. -/
def commRows : Nat → List Bytes → List Bytes → List (Nat × Bytes)
  | 0, _, _ => []
  | _, [], [] => []
  | fuel + 1, a :: as, [] => (0, a) :: commRows fuel as []
  | fuel + 1, [], b :: bs => (1, b) :: commRows fuel [] bs
  | fuel + 1, a :: as, b :: bs =>
    match Bytes.compare a b with
    | .lt => (0, a) :: commRows fuel as (b :: bs)
    | .gt => (1, b) :: commRows fuel (a :: as) bs
    | .eq => (2, a) :: commRows fuel as bs

/-- Whether lines are in order. -/
def isSorted : List Bytes → Bool
  | a :: b :: rest => Bytes.compare a b != .gt && isSorted (b :: rest)
  | _ => true

/-- Two contents, as lines without their marks; or the status after a complaint. -/
def twoContents (name : String) (problem : String → SysError → String) (mark : UInt8) (operands : List String) :
    Act (Except Nat (List Bytes × List Bytes)) := do
  let lines (bytes : Bytes) := (piecesAt mark bytes).map (withoutMark mark)
  match operands with
  | [] => return .error (← misused name "missing operand")
  | [a] => return .error (← misused name ("missing operand after " ++ quoted a))
  | [a, b] =>
    match ← content a with
    | .error e =>
      complain name (problem a e)
      return .error 1
    | .ok first =>
      match ← content b with
      | .error e =>
        complain name (problem b e)
        return .error 1
      | .ok second => return .ok (lines first, lines second)
  | _ :: _ :: extra :: _ => return .error (← extraOperand name extra)

def comm (args : List String) : Act Nat :=
  withOptions { name := "comm", options := [flag '1' "", flag '2' "", flag '3' "", wordFlag 'c' "check-order",
      wordFlag 'n' "nocheck-order", wordValued 'd' "output-delimiter", wordFlag 't' "total", flag 'z' "zero-terminated"] }
    args fun found operands => do
      let mark : UInt8 := if has found 'z' then 0 else 10
      match ← twoContents "comm" cannotRead mark operands with
      | .error status => return status
      | .ok (first, second) =>
        let joint := ((valueOf? found 'd').map Latin.toBytes).getD [9]
        let shows (column : Nat) : Bool := !has found (Char.ofNat (49 + column))
        let rows := commRows (first.length + second.length) first second
        let indent (column : Nat) : Bytes :=
          (List.replicate (((List.range column).filter shows).length) joint).flatten
        let out := rows.flatMap fun (column, line) =>
          if shows column then indent column ++ line ++ [mark] else []
        let written ← put out
        let total (column : Nat) : String := toString ((rows.filter (·.1 == column)).length)
        let joined := Latin.ofBytes joint
        if has found 't' then
          let _ ← putText (joined.intercalate [total 0, total 1, total 2, "total"] ++ "\n")
        let unpaired := rows.any (·.1 != 2)
        let faulty := [(1, first), (2, second)].filter fun (_, ls) =>
          !isSorted ls && !has found 'n' && (unpaired || has found 'c')
        faulty.forM fun (n, _) => complain "comm" ("file " ++ toString n ++ " is not in sorted order")
        if faulty.isEmpty then return written
        else
          if !has found 'c' then complain "comm" "input is not in sorted order"
          return 1

/-- A line taken apart for joining. -/
structure JoinLine where
  key : Bytes
  fields : List Bytes

/-- The fields of a line: between separators, or between blanks. -/
def joinFields (tab : Option UInt8) (line : Bytes) : List Bytes :=
  match tab with
  | some t => splitAt t line
  | none => (splitAt 32 (line.map fun b => if b == 9 then 32 else b)).filter (! ·.isEmpty)

/-- What one row of a join shows: the key, or a field of one of the files. -/
inductive JoinShow where
  | key
  | field (file : Nat) (n : Nat)

def joinShow? (text : String) : Option JoinShow :=
  match text.splitOn "." with
  | ["0"] => some .key
  | ["1", n] => (decimal? n).map fun n => .field 1 (n - 1)
  | ["2", n] => (decimal? n).map fun n => .field 2 (n - 1)
  | _ => none

/-- Rows of lines with the same key, and lines without a partner. -/
def joinRows (foldCase : Bool) : Nat → List JoinLine → List JoinLine →
    List (Option JoinLine × Option JoinLine)
  | 0, _, _ => []
  | _, [], [] => []
  | fuel + 1, a :: as, [] => (some a, none) :: joinRows foldCase fuel as []
  | fuel + 1, [], b :: bs => (none, some b) :: joinRows foldCase fuel [] bs
  | fuel + 1, a :: as, b :: bs =>
    let folded (key : Bytes) := if foldCase then key.map fun b => if 97 ≤ b && b ≤ 122 then b - 32 else b else key
    match Bytes.compare (folded a.key) (folded b.key) with
    | .lt => (some a, none) :: joinRows foldCase fuel as (b :: bs)
    | .gt => (none, some b) :: joinRows foldCase fuel (a :: as) bs
    | .eq =>
      let same (l : JoinLine) := folded l.key == folded a.key
      let firsts := (a :: as).takeWhile same
      let seconds := (b :: bs).takeWhile same
      (firsts.flatMap fun x => seconds.map fun y => (some x, some y)) ++
        joinRows foldCase fuel ((a :: as).drop firsts.length) ((b :: bs).drop seconds.length)

def joinUsage : Usage where
  name := "join"
  options := [valued 'a' "", valued 'e' "", flag 'i' "ignore-case", valued 'j' "", valued 'o' "", valued 't' "",
    valued 'v' "", valued '1' "", valued '2' "", wordFlag 'c' "check-order", wordFlag 'n' "nocheck-order",
    wordFlag 'h' "header", flag 'z' "zero-terminated"]

def join (args : List String) : Act Nat :=
  withOptions joinUsage args fun found operands => do
    let give (problem : String) : Act Nat := do
      complain "join" problem
      return 1
    let fieldText := fun (c : Char) => (valueOf? found c).orElse fun () => valueOf? found 'j'
    let badField := ['1', '2'].find? fun c => (fieldText c).any fun text => ((decimal? text).getD 0) == 0
    let specs := (found.filter (·.1 == 'o')).flatMap fun o =>
      (o.2.split fun c => c == ',' || c == ' ').toList.map (·.toString)
    let automatic := specs == ["auto"]
    let badSpec := if automatic then none else specs.find? fun text => (joinShow? text).isNone
    let tab := (valueOf? found 't').map separator
    match badField, badSpec, tab with
    | some c, _, _ => give ("invalid field number: " ++ quoted ((fieldText c).getD ""))
    | _, some text, _ => give ("invalid file number in field spec: " ++ quoted text)
    | _, _, some (.error problem) => give problem
    | none, none, tab =>
      let tab := match tab with
        | some (.ok t) => some t
        | _ => none
      let mark : UInt8 := if has found 'z' then 0 else 10
      match ← twoContents "join" (fun operand e =>
          if e == .isFolder || e == .badHandle then "read error: " ++ e.text else cannotRead operand e) mark operands with
      | .error status => return status
      | .ok (first, second) =>
        let place (c : Char) : Nat := ((fieldText c).bind decimal?).getD 1 - 1
        let parsed (n : Nat) (lines : List Bytes) : List JoinLine := lines.map fun line =>
          let fields := joinFields tab line
          ⟨fields.getD n [], fields⟩
        let firsts := parsed (place '1') first
        let seconds := parsed (place '2') second
        let others (n : Nat) (fields : List Bytes) : List Bytes := fields.take n ++ fields.drop (n + 1)
        let empty := ((valueOf? found 'e').map Latin.toBytes).getD []
        let filled (field : Bytes) : Bytes := if field.isEmpty then empty else field
        let columns (ls : List JoinLine) : Nat := (ls.head?.map fun l => l.fields.length).getD 0
        let shownOf (row : Option JoinLine × Option JoinLine) : List Bytes :=
          let key := ((row.1.orElse fun () => row.2).map (·.key)).getD []
          if automatic then
            let side (l : Option JoinLine) (n total : Nat) : List Bytes :=
              match l with
              | some l => (others n l.fields).map filled
              | none => List.replicate (total - 1) empty
            key :: side row.1 (place '1') (columns firsts) ++ side row.2 (place '2') (columns seconds)
          else if specs.isEmpty then
            let side (l : Option JoinLine) (n : Nat) : List Bytes := (l.map fun l => others n l.fields).getD []
            key :: side row.1 (place '1') ++ side row.2 (place '2')
          else specs.map fun text => match joinShow? text with
            | some (.field 1 n) => filled ((row.1.map fun l => l.fields.getD n []).getD [])
            | some (.field _ n) => filled ((row.2.map fun l => l.fields.getD n []).getD [])
            | _ => key
        let listed (c : Char) (n : String) : Bool := found.any fun o => o.1 == c && o.2 == n
        let onlyUnpaired := found.any (·.1 == 'v')
        let wanted (row : Option JoinLine × Option JoinLine) : Bool := match row with
          | (some _, some _) => !onlyUnpaired
          | (some _, none) => listed 'a' "1" || listed 'v' "1"
          | _ => listed 'a' "2" || listed 'v' "2"
        let rows := joinRows (has found 'i') (firsts.length + seconds.length + 1) firsts seconds
        let out := (rows.filter wanted).flatMap fun row =>
          [tab.getD 32].intercalate (shownOf row) ++ [mark]
        let written ← put out
        let names := operands
        let keysOf (ls : List JoinLine) := ls.map (·.key)
        let faulty := [(0, firsts, first), (1, seconds, second)].filter fun (_, ls, _) =>
          !has found 'n' && !isSorted (keysOf ls) && rows.any fun row => row.1.isNone || row.2.isNone
        faulty.forM fun (n, ls, lines) => do
          let bad := ((ls.zip ls.tail).zipIdx.find? fun ((a, b), _) => Bytes.compare a.key b.key == .gt).map Prod.snd
          match bad with
          | some i => complain "join" (names.getD n "" ++ ":" ++ toString (i + 2) ++ ": is not sorted: " ++
              Latin.ofBytes (lines.getD (i + 1) []))
          | none => pure ()
        if faulty.isEmpty then return written
        else give "input is not in sorted order"

end ScriptCache.Shell.Utility
