import ScriptCache.Shell.Numeric
import ScriptCache.Shell.Utility.Show

/-! Sorting lines. -/
namespace ScriptCache.Shell.Utility

/-! ### Comparing -/

/-- How a key is compared. -/
inductive SortKind where
  | text
  | number
  | general
  | human
  | month
  | version
  deriving DecidableEq

/-- How lines are compared by one key. -/
structure LineOrder where
  kind : SortKind := .text
  reverse : Bool := false
  foldCase : Bool := false
  dictionary : Bool := false
  printable : Bool := false
  deriving DecidableEq

/-- A place in a line: a field, and a character of it. -/
structure KeyPlace where
  field : Nat
  char : Nat
  skipBlanks : Bool := false

/-- A part of lines that they are compared by. -/
structure SortKey where
  start : KeyPlace := ⟨0, 0, false⟩
  stop : Option KeyPlace := none
  ordering : LineOrder := {}

def isBlankByte (b : UInt8) : Bool := b == 32 || b == 9 || b == 10

/-- What is left of a line after some fields. -/
def afterFields (tab : Option UInt8) : Nat → Bytes → Bytes
  | 0, line => line
  | n + 1, line =>
    match tab with
    | some t => afterFields tab n ((line.dropWhile (· != t)).drop 1)
    | none => afterFields tab n ((line.dropWhile isBlankByte).dropWhile (!isBlankByte ·))

/-- How many bytes of a line stand before the end of a key. -/
def keyEnd (tab : Option UInt8) (place : KeyPlace) (line : Bytes) : Nat :=
  if place.char == 0 then
    match tab with
    | none => line.length - (afterFields tab (place.field + 1) line).length
    | some t =>
      let rest := afterFields tab place.field line
      line.length - (rest.dropWhile (· != t)).length
  else
    let rest := afterFields tab place.field line
    let rest := if place.skipBlanks then rest.dropWhile isBlankByte else rest
    min line.length (line.length - rest.length + place.char)

/-- The part of a line that a key is. -/
def SortKey.extract (tab : Option UInt8) (key : SortKey) (line : Bytes) : Bytes :=
  let rest := afterFields tab key.start.field line
  let rest := if key.start.skipBlanks then rest.dropWhile isBlankByte else rest
  let rest := rest.drop key.start.char
  match key.stop with
  | none => rest
  | some place => rest.take (keyEnd tab place line - (line.length - rest.length))

/-- A number as it is written in digits: whether it is negative, and its digits before and
after the point. -/
structure DigitNumber where
  negative : Bool
  whole : List Char
  part : List Char

def digitNumber (text : Bytes) : DigitNumber × List Char :=
  let cs := (Latin.charsOf text).dropWhile Arithmetic.isBlank
  let (negative, cs) := match cs with
    | '-' :: rest => (true, rest)
    | cs => (false, cs)
  let whole := cs.takeWhile Char.isDigit
  let (part, rest) := match cs.drop whole.length with
    | '.' :: more => (more.takeWhile Char.isDigit, more.dropWhile Char.isDigit)
    | rest => ([], rest)
  ({ negative, whole, part }, rest)

/-- The value of a number, as a fraction. -/
def DigitNumber.value (n : DigitNumber) : Int × Nat :=
  let magnitude := (Arithmetic.digits 10 (n.whole ++ n.part)).1
  (if n.negative then -magnitude else magnitude, Numeric.powerOf 10 n.part.length)

def compareFractions (a b : Int × Nat) : Ordering :=
  if a.2 == b.2 then compare a.1 b.1 else compare (a.1 * b.2) (b.1 * a.2)

/-- The rank of the unit after a number. -/
def unitRank (rest : List Char) : Nat :=
  match rest with
  | c :: _ => ((['K', 'M', 'G', 'T', 'P', 'E', 'Z', 'Y'].findIdx? (· == (if c == 'k' then 'K' else c))).map (· + 1)).getD 0
  | [] => 0

def monthNames : List String :=
  ["JAN", "FEB", "MAR", "APR", "MAY", "JUN", "JUL", "AUG", "SEP", "OCT", "NOV", "DEC"]

/-- The number of the month that a text starts with. -/
def monthRank (text : Bytes) : Nat :=
  let cs := (Latin.charsOf text).dropWhile Arithmetic.isBlank
  let word := String.ofList ((cs.take 3).map Char.toUpper)
  ((monthNames.findIdx? (· == word)).map (· + 1)).getD 0

/-- The rank of a character between numbers in a version; nothing stands for the end. -/
def versionRank : List Char → Int
  | [] => -1
  | c :: _ =>
    if c.isDigit then 0 else if c.isAlpha then c.toNat else if c == '~' then -2 else c.toNat + 256

/-- Compares versions part by part: texts by their characters, numbers by their values. -/
def compareVersionParts : Nat → List Char → List Char → Ordering
  | 0, _, _ => .eq
  | fuel + 1, a, b =>
    let isText (cs : List Char) := cs.head?.any fun c => !c.isDigit
    if a.isEmpty && b.isEmpty then .eq
    else if isText a || isText b then
      match compare (versionRank a) (versionRank b) with
      | .eq => compareVersionParts fuel a.tail b.tail
      | order => order
    else
      let a := a.dropWhile (· == '0')
      let b := b.dropWhile (· == '0')
      let x := a.takeWhile Char.isDigit
      let y := b.takeWhile Char.isDigit
      match compare x.length y.length with
      | .eq =>
        match compare (String.ofList x) (String.ofList y) with
        | .eq => compareVersionParts fuel (a.drop x.length) (b.drop y.length)
        | order => order
      | order => order

/-- A file name without the endings after its points. -/
def withoutSuffixes (cs : List Char) : List Char :=
  let rec cut : Nat → List Char → List Char
    | 0, cs => cs
    | fuel + 1, cs =>
      let ending := (cs.reverse.takeWhile fun c => c.isAlphanum || c == '~').reverse
      match (cs.take (cs.length - ending.length)).reverse, ending with
      | '.' :: before, c :: _ => if (c.isAlpha || c == '~') && !before.isEmpty then cut fuel before.reverse else cs
      | _, _ => cs
  cut cs.length cs

/-- Compares names with versions in them. -/
def compareVersions (a b : Bytes) : Ordering :=
  let a := Latin.charsOf a
  let b := Latin.charsOf b
  let fuel := a.length + b.length + 1
  let rank (cs : List Char) : Nat := match cs with
    | [] => 0
    | ['.'] => 1
    | ['.', '.'] => 2
    | '.' :: _ => 3
    | _ => 4
  match compare (rank a) (rank b) with
  | .eq =>
    match compareVersionParts fuel (withoutSuffixes a) (withoutSuffixes b) with
    | .eq => compareVersionParts fuel a b
    | order => order
  | order => order

/-- A number in any notation, with the rank of what is none. -/
def generalValue (text : Bytes) : Nat × Int × Nat :=
  match Numeric.read? .extended (Latin.charsOf text) with
  | none => (0, 0, 1)
  | some found =>
    match found.value with
    | .undefined _ => (1, 0, 1)
    | .infinite negative => (if negative then 2 else 4, 0, 1)
    | .finite negative m e =>
      let (n, d) := Numeric.fraction m e
      (3, if negative then -n else n, d)

/-- A key as it is compared. -/
inductive KeyValue where
  | text (bytes : Bytes)
  /-- A rank, and among those of the same rank a fraction. -/
  | number (rank : Int) (value : Int × Nat)
  | version (bytes : Bytes)

/-- What a key is compared by. -/
def LineOrder.value (o : LineOrder) (key : Bytes) : KeyValue :=
  match o.kind with
  | .text =>
    let key := if o.dictionary then key.filter fun b => isBlankByte b || (Char.ofNat b.toNat).isAlphanum else key
    let key := if o.printable then key.filter isPrintable else key
    .text (if o.foldCase then key.map fun b => if 97 ≤ b && b ≤ 122 then b - 32 else b else key)
  | .number => .number 0 (digitNumber key).1.value
  | .general =>
    let (rank, value) := generalValue key
    .number rank value
  | .human =>
    let (n, rest) := digitNumber key
    let value := n.value
    let rank : Int := unitRank rest + 1
    .number (if value.1 == 0 then 0 else if n.negative then -rank else rank) value
  | .month => .number (monthRank key) (0, 1)
  | .version => .version key

/-- Compares keys of one kind. -/
def KeyValue.compare : KeyValue → KeyValue → Ordering
  | text a, text b => Bytes.compare a b
  | number a x, number b y => (Ord.compare a b).then (compareFractions x y)
  | version a, version b => compareVersions a b
  | _, _ => .eq

/-- Compares two keys. -/
def LineOrder.compareValues (o : LineOrder) (a b : KeyValue) : Ordering :=
  if o.reverse then b.compare a else a.compare b

/-! ### Options -/

/-- An ordering with one more letter, and whether it skips blanks before a key. -/
def LineOrder.letter? (o : LineOrder) (c : Char) : Option LineOrder :=
  match c with
  | 'd' => some { o with dictionary := true }
  | 'f' => some { o with foldCase := true }
  | 'g' => some { o with kind := .general }
  | 'h' => some { o with kind := .human }
  | 'i' => some { o with printable := true }
  | 'M' => some { o with kind := .month }
  | 'n' => some { o with kind := .number }
  | 'r' => some { o with reverse := true }
  | 'R' => some o
  | 'V' => some { o with kind := .version }
  | _ => none

/-- The letters after a place of a key. -/
def keyLetters : LineOrder × Bool → List Char → (LineOrder × Bool) × List Char
  | (o, skips), [] => ((o, skips), [])
  | (o, skips), c :: rest =>
    if c == 'b' then keyLetters (o, true) rest
    else match o.letter? c with
      | some o => keyLetters (o, skips) rest
      | none => ((o, skips), c :: rest)

/-- A count in a key, and what comes after it. -/
def keyCount (problem : String) (cs : List Char) : Except String (Nat × List Char) :=
  let digits := cs.takeWhile Char.isDigit
  if digits.isEmpty then .error (problem ++ ": invalid count at start of " ++ quoted (String.ofList cs))
  else .ok ((String.ofList digits).toNat?.getD 0, cs.drop digits.length)

/-- The key that a text is; or what is wrong with it. -/
def sortKey (text : String) : Except String (SortKey × Bool) := do
  let bad (problem : String) : String := problem ++ ": invalid field specification " ++ quoted text
  let (field, rest) ← keyCount "invalid number at field start" text.toList
  if field = 0 then throw (bad "field number is zero")
  let (char, rest) ← match rest with
    | '.' :: rest => do
      let (char, rest) ← keyCount "invalid number after '.'" rest
      if char = 0 then throw (bad "character offset is zero")
      pure (char - 1, rest)
    | rest => pure (0, rest)
  let ((ordering, skips), rest) := keyLetters ({}, false) rest
  let start : KeyPlace := ⟨field - 1, char, skips⟩
  match rest with
  | [] => return ({ start, ordering }, skips)
  | ',' :: rest =>
    let (field, rest) ← keyCount "invalid number after ','" rest
    if field = 0 then throw (bad "field number is zero")
    let (char, rest) ← match rest with
      | '.' :: rest => keyCount "invalid number after '.'" rest
      | rest => pure (0, rest)
    let ((ordering, endSkips), rest) := keyLetters (ordering, false) rest
    if rest.isEmpty then
      return ({ start, stop := some ⟨field - 1, char, endSkips⟩, ordering }, skips || endSkips)
    else throw (bad "stray character in field spec")
  | _ => throw (bad "stray character in field spec")

/-- How lines are sorted. -/
structure Sorting where
  keys : List SortKey
  tab : Option UInt8
  /-- How lines with equal keys are compared, if they are. -/
  last : Option LineOrder

/-- A line with what it is compared by. -/
structure SortLine where
  line : Bytes
  keys : List KeyValue

def Sorting.line (s : Sorting) (line : Bytes) : SortLine where
  line := line
  keys := s.keys.map fun key => key.ordering.value (key.extract s.tab line)

/-- Compares lines by their keys. -/
def Sorting.compareKeys (s : Sorting) (a b : SortLine) : Ordering :=
  let rec each : List SortKey → List KeyValue → List KeyValue → Ordering
    | key :: keys, x :: xs, y :: ys => (key.ordering.compareValues x y).then (each keys xs ys)
    | _, _, _ => .eq
  each s.keys a.keys b.keys

/-- Compares lines. -/
def Sorting.compareLines (s : Sorting) (a b : SortLine) : Ordering :=
  match s.compareKeys a b, s.last with
  | .eq, some o => if o.reverse then Bytes.compare b.line a.line else Bytes.compare a.line b.line
  | order, _ => order

def sortUsage : Usage where
  name := "sort"
  failure := 2
  options := [flag 'b' "ignore-leading-blanks", { key := 'c', word := "check", takes := .nothing },
    flag 'C' "", flag 'd' "dictionary-order", flag 'f' "ignore-case", flag 'g' "general-numeric-sort",
    flag 'h' "human-numeric-sort", flag 'i' "ignore-nonprinting", valued 'k' "key", flag 'm' "merge",
    flag 'M' "month-sort", flag 'n' "numeric-sort", valued 'o' "output", flag 'r' "reverse",
    flag 'R' "random-sort", flag 's' "stable", valued 'S' "buffer-size", valued 't' "field-separator",
    valued 'T' "temporary-directory", flag 'u' "unique", flag 'V' "version-sort", flag 'z' "zero-terminated",
    wordValued '1' "parallel", wordValued '2' "batch-size", wordValued '3' "sort"]

/-- What `--sort` names. -/
def sortWord? (text : String) : Option Char :=
  [("general-numeric", 'g'), ("human-numeric", 'h'), ("month", 'M'), ("numeric", 'n'), ("random", 'R'),
    ("version", 'V')].lookup text

/-- The separator that an option is; or what is wrong with it. -/
def separator (text : String) : Except String UInt8 :=
  match text.toList with
  | [] => .error "empty tab"
  | [c] => .ok c.toNat.toUInt8
  | ['\\', '0'] => .ok 0
  | _ => .error ("multi-character tab " ++ quoted text)

/-- The kinds of comparison that letters ask for; two of them do not go together. -/
def kindLetters : List Char := ['M', 'V', 'g', 'h', 'n']

/-- How lines are to be sorted; or what is wrong with the options. -/
def sortingOf (found : List (Char × String)) : Except String Sorting := do
  let letters := found.map fun o => if o.1 == '3' then (sortWord? o.2).getD 'n' else o.1
  let whole := letters.foldl (fun o c => (LineOrder.letter? o c).getD o) ({} : LineOrder)
  let skips := letters.contains 'b'
  let parsed ← (found.filter (·.1 == 'k')).mapM fun o => sortKey o.2
  let keys := parsed.map fun (key, skipped) =>
    if key.ordering == {} && !skipped then
      { key with
        ordering := whole
        start := { key.start with skipBlanks := skips }
        stop := key.stop.map fun place => { place with skipBlanks := skips } }
    else key
  let keys := if keys.isEmpty then [{ ordering := whole, start := ⟨0, 0, skips⟩ }] else keys
  let kinds := kindLetters.filter letters.contains
  if 1 < kinds.length then throw ("options '-" ++ String.ofList kinds ++ "' are incompatible")
  let tab ← match found.reverse.find? (·.1 == 't') with
    | some o => some <$> separator o.2
    | none => pure none
  return { keys, tab, last := if letters.contains 's' || letters.contains 'u' then none else some whole }

/-- The first of the lines that comes after one that it should come before. -/
def disorder? (s : Sorting) (unique : Bool) : Nat → List SortLine → Option (Nat × Bytes)
  | n, a :: b :: rest =>
    let order := s.compareLines a b
    if order == .gt || (unique && order == .eq) then some (n + 1, b.line)
    else disorder? s unique (n + 1) (b :: rest)
  | _, _ => none

/-- The first of each row of lines with equal keys. -/
def firstOfEqual (s : Sorting) : List SortLine → List SortLine
  | [] => []
  | a :: rest =>
    let rec each (a : SortLine) : List SortLine → List SortLine
      | [] => [a]
      | b :: rest => if s.compareKeys a b == .eq then each a rest else a :: each b rest
    each a rest

def sort (args : List String) : Act Nat :=
  withOptions sortUsage args fun found operands => do
    let give (problem : String) : Act Nat := do
      complain "sort" problem
      return 2
    let mark : UInt8 := if has found 'z' then 0 else 10
    match sortingOf found with
    | .error problem => give problem
    | .ok s =>
      let checks := has found 'c' || has found 'C'
      if checks && 1 < operands.length then
        give ("extra operand " ++ quoted (operands.getD 1 "") ++ " not allowed with -" ++
          String.singleton ((lastOf? found ['c', 'C']).getD 'c'))
      else
        let rec each : List String → Act (Except String (List Bytes))
          | [] => return .ok []
          | operand :: rest => do
            match ← content operand with
            | .error e =>
              let problem := if e == .isFolder then "read failed: "
                else if e == .badHandle then "stat failed: " else "cannot read: "
              return .error (problem ++ cannotRead operand e)
            | .ok bytes => return (← each rest).map ((piecesAt mark bytes).map (withoutMark mark) ++ ·)
        match ← each (sources operands) with
        | .error problem => give problem
        | .ok ls =>
          let rows := ls.map s.line
          if checks then
            match disorder? s (has found 'u') 1 rows with
            | none => return 0
            | some (n, line) =>
              if !has found 'C' then
                complain "sort" ((sources operands).headD "-" ++ ":" ++ toString n ++ ": disorder: " ++ Latin.ofBytes line)
              return 1
          else
            let sorted := rows.mergeSort fun a b => s.compareLines a b != .gt
            let sorted := if has found 'u' then firstOfEqual s sorted else sorted
            let out := sorted.flatMap fun row => row.line ++ [mark]
            match valueOf? found 'o' with
            | none => put out
            | some path =>
              match ← Act.openFile path .replace with
              | .error e => give ("open failed: " ++ plainPath path ++ ": " ++ e.text)
              | .ok n =>
                Act.setDescriptor 1 (some n)
                put out

/-! ### Rows of equal lines -/

def uniqUsage : Usage where
  name := "uniq"
  options := [flag 'c' "count", flag 'd' "repeated", flag 'D' "",
    { key := 'D', isLetter := false, word := "all-repeated", takes := .attached },
    { key := '\x01', isLetter := false, word := "group", takes := .attached }, valued 'f' "skip-fields",
    flag 'i' "ignore-case", valued 's' "skip-chars", flag 'u' "unique", flag 'z' "zero-terminated",
    valued 'w' "check-chars"]

/-- The part of a line that counts. -/
def countingPart (fields chars : Nat) (width : Option Nat) (foldCase : Bool) (line : Bytes) : Bytes :=
  let rest := (afterFields none fields line).drop chars
  let rest := match width with
    | some n => rest.take n
    | none => rest
  if foldCase then rest.map fun b => if 97 ≤ b && b ≤ 122 then b - 32 else b else rest

/-- Where empty lines mark rows of equal lines. -/
inductive RowMarks where
  | none
  | prepend
  | append
  | separate
  | both
  deriving DecidableEq

def RowMarks.name : RowMarks → String
  | none => "none"
  | prepend => "prepend"
  | append => "append"
  | separate => "separate"
  | both => "both"

/-- What is shown of rows of equal lines. -/
structure RowStyle where
  /-- Whether all rows are shown whole. -/
  grouped : Bool
  counts : Bool
  /-- Whether lines alone, one of repeated lines, and all others of these are shown. -/
  alone : Bool
  one : Bool
  all : Bool
  marks : RowMarks
  mark : UInt8

/-- Rows that were read: the lines of the last one, the latest first, and whether rows were shown
before. -/
structure RowState where
  row : List Bytes := []
  used : Bool := false

/-- A row, as it is shown. `used` says that rows were shown before. -/
def RowStyle.shown (style : RowStyle) (used : Bool) (row : List Bytes) : Bytes :=
  let count := row.length
  let ended (line : Bytes) : Bytes := line ++ [style.mark]
  let repeated := 1 < count
  let ahead := style.marks == .prepend || style.marks == .both || (style.marks == .separate && used)
  let before := if ahead && (style.grouped || repeated) && !(style.grouped && used && style.marks == .both) then
    [style.mark] else []
  let after := if style.grouped && (style.marks == .append || style.marks == .both) then [style.mark] else []
  let shows := if repeated then style.one else style.alone
  if style.grouped then before ++ row.flatMap ended ++ after
  else if style.all then before ++ row.dropLast.flatMap ended ++ if shows then ended (row.getLast?.getD []) else []
  else if shows then
    (if style.counts then Latin.toBytes (padLeft 7 (toString count) ++ " ") else []) ++ ended (row.headD [])
  else []

/-- The row that is under way is over. -/
def RowStyle.close (style : RowStyle) (st : RowState) : RowState × Bytes :=
  if st.row.isEmpty then (st, [])
  else ({ used := st.used || style.grouped || 1 < st.row.length }, style.shown st.used st.row.reverse)

/-- The next line. Of a row that is not shown whole, the first line and their number are enough. -/
def RowStyle.next (style : RowStyle) (part : Bytes → Bytes) (st : RowState) (piece : Bytes) : RowState × Bytes :=
  let line := withoutMark style.mark piece
  if st.row.head?.any fun other => part other == part line then ({ st with row := line :: st.row }, [])
  else
    let (st, out) := style.close st
    ({ st with row := [line] }, out)

/-- The marks that an option asks for; or the complaint about it. -/
def rowMarks (option : String) (known : List RowMarks) (default : RowMarks) (text : String) :
    Except String RowMarks :=
  match known.filter fun marks => marks.name.startsWith text with
  | _ :: _ :: _ | [] =>
    if text.isEmpty then .ok default
    else .error ("invalid argument " ++ quoted text ++ " for " ++ inQuotes option ++ "\nValid arguments are:" ++
      String.join (known.map fun marks => "\n  - " ++ quoted marks.name))
  | [marks] => .ok marks

/-- The style that options ask for; or the complaint about them. -/
def rowStyle (found : List (Char × String)) : Except String RowStyle := do
  let repeated ← match valueOf? found 'D' with
    | some text => some <$> rowMarks "--all-repeated" [.none, .prepend, .separate] .none text
    | none => .ok none
  let group ← match valueOf? found '\x01' with
    | some text => some <$> rowMarks "--group" [.prepend, .append, .separate, .both] .separate text
    | none => .ok none
  let counts := has found 'c'
  if group.isSome && (counts || has found 'd' || repeated.isSome || has found 'u') then
    .error "--group is mutually exclusive with -c/-d/-D/-u"
  else if counts && repeated.isSome then
    .error "printing all duplicated lines and repeat counts is meaningless"
  else
    .ok {
      grouped := group.isSome, counts, alone := !has found 'd' && repeated.isNone, one := !has found 'u'
      all := repeated.isSome, marks := (group.or repeated).getD .none, mark := if has found 'z' then 0 else 10 }

def uniq (args : List String) : Act Nat :=
  withOptions uniqUsage args fun found operands => do
    let numbers := [('f', "number of fields to skip"), ('s', "number of bytes to skip"), ('w', "number of bytes to compare")]
    let bad := found.find? fun o => (numbers.lookup o.1).isSome && (decimal? o.2).isNone
    match bad, rowStyle found, operands with
    | some (c, text), _, _ =>
      complain "uniq" (text ++ ": invalid " ++ (numbers.lookup c).getD "number")
      return 1
    | none, .error problem, _ => misused "uniq" problem
    | none, _, _ :: _ :: extra :: _ => extraOperand "uniq" extra
    | none, .ok style, operands =>
      let number (c : Char) : Option Nat := (valueOf? found c).bind decimal?
      let part := countingPart ((number 'f').getD 0) ((number 's').getD 0) (number 'w') (has found 'i')
      let operand := operands.headD "-"
      let failed (e : SysError) : Act Nat := do
        complain "uniq" (if e == .isFolder || e == .badHandle then
            "error reading " ++ quotedPath operand ++ ": " ++ e.text
          else cannotRead operand e)
        return 1
      match ← openInput operand with
      | .error e => failed e
      | .ok n =>
        let target ← match operands[1]? with
          | none | some "-" => pure (Except.ok none)
          | some path => pure ((← Act.openFile path .replace).map some)
        match target with
        | .error e =>
          complain "uniq" (cannotRead (operands.getD 1 "") e)
          return 1
        | .ok target =>
          if target.isSome then Act.setDescriptor 1 target
          let work (st : RowState) (pieces : List Bytes) : Act (RowState × Bool) := do
            let (st, shown) := pieces.foldl (fun (st, shown) piece =>
              let (st, out) := style.next part st piece
              (st, out :: shown)) (st, ([] : List Bytes))
            let _ ← put shown.reverse.flatten
            return (st, true)
          match ← eachPieces style.mark n work {} with
          | .error e => failed e
          | .ok st => put (style.close st).2

end ScriptCache.Shell.Utility
