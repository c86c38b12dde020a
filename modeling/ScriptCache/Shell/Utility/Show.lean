import ScriptCache.Shell.Utility.Call

/-! Utilities that show content, or parts of it. -/
namespace ScriptCache.Shell.Utility

/-! ### Whole content -/

/-- How `cat` shows content. -/
structure Showing where
  number : Bool
  numberNonblank : Bool
  squeeze : Bool
  ends : Bool
  tabs : Bool
  nonprinting : Bool

/-- A byte below 128 as it is shown. -/
def shownLow (s : Showing) (b : UInt8) : Bytes :=
  if b == 10 || (b == 9 && !s.tabs) then [b]
  else if b < 32 then if b == 9 || s.nonprinting then [0x5e, b + 64] else [b]
  else if b == 127 && s.nonprinting then [0x5e, 0x3f]
  else [b]

/-- A byte as it is shown. -/
def shownByte (s : Showing) (b : UInt8) : Bytes :=
  if s.nonprinting && 128 ≤ b then
    let low := b - 128
    [0x4d, 0x2d] ++ if low < 32 then [0x5e, low + 64] else if low == 127 then [0x5e, 0x3f] else [low]
  else shownLow s b

/-- A line as it is shown, without a number. -/
def shownLine (s : Showing) (line : Bytes) : Bytes :=
  let ended := line.getLast? == some 10
  let body := withoutMark 10 line
  let (body, carriage) :=
    if ended && s.ends && !s.nonprinting && body.getLast? == some 13 then (body.dropLast, [0x5e, 0x4d])
    else (body, [])
  let body := if s.tabs || s.nonprinting then body.flatMap (shownByte s) else body
  body ++ carriage ++ if ended then (if s.ends then [0x24, 10] else [10]) else []

/-- Where showing stands: at the start of a line or within one, after an empty line or not,
and which number comes next. -/
structure ShowState where
  starts : Bool := true
  afterBlank : Bool := false
  next : Nat := 1

/-- One line as it is shown. A line that goes on from the bytes before has no number. -/
def showLine (s : Showing) (st : ShowState) (line : Bytes) : ShowState × Bytes :=
  let ended := line.getLast? == some 10
  let blank := st.starts && line == [10]
  if blank && st.afterBlank && s.squeeze then (st, [])
  else
    let numbered := st.starts && (if s.numberNonblank then !blank else s.number)
    let mark := if numbered then Latin.toBytes (padLeft 6 (toString st.next) ++ "\t") else []
    ({ starts := ended, afterBlank := blank, next := if numbered then st.next + 1 else st.next },
      mark ++ shownLine s line)

def showLines (s : Showing) (st : ShowState) (bytes : Bytes) : ShowState × Bytes :=
  let (st, pieces) := (lines bytes).foldl (fun (st, pieces) line =>
    let (st, piece) := showLine s st line
    (st, piece :: pieces)) (st, ([] : List Bytes))
  (st, pieces.reverse.flatten)

/-- Whether a channel leads to the file that the output goes to, before the place where it goes. -/
def isOwnOutput (n : Nat) : Act Bool := do
  let w ← Act.world
  return match ← Act.channel? 1, w.channels[n]? with
    | some (_, .file out at_ appends), some (.file node offset _) =>
      match w.disk.node? node with
      | some (.file content) => out == node && offset < if appends then content.length else at_
      | _ => false
    | _, _ => false

def catUsage : Usage where
  name := "cat"
  options := [flag 'b' "number-nonblank", flag 'n' "number", flag 's' "squeeze-blank",
    flag 'v' "show-nonprinting", flag 'E' "show-ends", flag 'T' "show-tabs", flag 'A' "show-all",
    flag 'e' "", flag 't' "", flag 'u' ""]

def cat (args : List String) : Act Nat :=
  withOptions catUsage args fun found operands => do
    let any (cs : List Char) := cs.any (has found)
    let s : Showing :=
      { number := any ['n'], numberNonblank := any ['b'], squeeze := any ['s']
        ends := any ['E', 'e', 'A'], tabs := any ['T', 't', 'A'], nonprinting := any ['v', 'e', 't', 'A'] }
    let plain := !any ['n', 'b', 's', 'E', 'e', 'A', 'T', 't', 'v']
    let show_ (st : ShowState × Nat) (bytes : Bytes) : Act ((ShowState × Nat) × Bool) := do
      let (next, out) := if plain then (st.1, bytes) else showLines s st.1 bytes
      let written ← putNow "cat" out
      return ((next, written), written == 0)
    let rec each (st : ShowState) : List String → Act Nat
      | [] => return 0
      | operand :: rest => do
        match ← openInput operand with
        | .error e =>
          complain "cat" (cannotRead operand e)
          if operand == "-" && e == .badHandle then
            complain "cat" ("closing standard input: " ++ e.text)
          return max 1 (← each st rest)
        | .ok n =>
          if ← isOwnOutput n then
            complain "cat" (plainPath operand ++ ": input file is output file")
            return max 1 (← each st rest)
          else
            match ← eachBlock n show_ (st, 0) with
            | .error e =>
              complain "cat" (cannotRead operand e)
              return max 1 (← each st rest)
            | .ok (st, written) => if written != 0 then return written else each st rest
    let opened ← putNow "cat" []
    if opened != 0 then return opened
    each {} (sources operands)

/-- Lines in the opposite order. -/
def tac (args : List String) : Act Nat :=
  withOptions { name := "tac", options := [flag 'b' "before", flag 'r' "regex", valued 's' "separator"] } args
    fun found operands =>
      let mark := ((Latin.toBytes ((valueOf? found 's').getD "\n")).head?).getD 10
      eachContent "tac" "-" operands
        (fun operand e =>
          if operand == "-" then
            "'standard input': read error: " ++ (if e == .isFolder then SysError.invalid else e).text
          else if e == .isFolder then plainPath operand ++ ": read error: " ++ e.text
          else "failed to open " ++ quotedPath operand ++ " for reading: " ++ e.text)
        fun _ bytes => do
          let _ ← put (piecesAt mark bytes).reverse.flatten

/-- Lines, each from its end to its start. -/
def rev (args : List String) : Act Nat :=
  withOptions { name := "rev", options := [] } args fun _ operands => do
    let (status, _) ← filtered "rev" "" 10 operands
      (fun operand e => "cannot open " ++ operand ++ ": " ++ e.text) () fun _ line =>
        ((), if line.getLast? == some 10 then line.dropLast.reverse ++ [10] else line.reverse)
    return status

/-- A number in its column. -/
def numberColumn (format : String) (width : Nat) (n : Nat) : String :=
  match format with
  | "ln" => padRight width (toString n)
  | "rz" =>
    let digits := toString n
    String.ofList (List.replicate (width - digits.length) '0') ++ digits
  | _ => padLeft width (toString n)

/-- Lines with their numbers before them. -/
def nl (args : List String) : Act Nat :=
  withOptions { name := "nl", options := [valued 'b' "body-numbering", valued 'd' "section-delimiter",
      valued 'f' "footer-numbering", valued 'h' "header-numbering", valued 'i' "line-increment",
      valued 'l' "join-blank-lines", valued 'n' "number-format", flag 'p' "no-renumber",
      valued 's' "number-separator", valued 'v' "starting-line-number", valued 'w' "number-width"] } args
    fun found operands => do
      let number (c : Char) (default : Nat) := ((valueOf? found c).bind decimal?).getD default
      let width := number 'w' 6
      let mark := (valueOf? found 's').getD "\t"
      let style := (valueOf? found 'b').getD "t"
      let format := (valueOf? found 'n').getD "rn"
      let step (next : Nat) (line : Bytes) : Nat × Bytes :=
        let text := withoutMark 10 line
        if style == "a" || (style == "t" && !text.isEmpty) then
          (next + number 'i' 1, Latin.toBytes (numberColumn format width next ++ mark) ++ text ++ [10])
        else (next, List.replicate (width + mark.length) 32 ++ text ++ [10])
      let (status, _) ← filtered "nl" "-" 10 operands cannotRead (number 'v' 1) step
      return status

/-! ### The start or the end -/

/-- What `head` or `tail` is asked for: pieces or bytes, how many, and a sign before the
number. -/
structure Extent where
  bytes : Bool := false
  sign : Option Char := none
  count : Nat := 10
  /-- What pieces end in. -/
  mark : UInt8 := 10

/-- The number with its sign that an option has. -/
def extent? (bytes : Bool) (text : String) : Option Extent :=
  let (sign, digits) := match text.toList with
    | '-' :: rest => (some '-', String.ofList rest)
    | '+' :: rest => (some '+', String.ofList rest)
    | _ => (none, text)
  (quantity? digits).map fun count => { bytes, sign, count }

/-- The extent that options ask for, or what is wrong with it. -/
def extentOf (found : List (Char × String)) : Except String Extent :=
  let mark : UInt8 := if has found 'z' then 0 else 10
  match found.reverse.find? fun o => o.1 == 'c' || o.1 == 'n' with
  | none => .ok { mark }
  | some (c, text) =>
    match extent? (c == 'c') text with
    | some e => .ok { e with mark }
    | none => .error ("invalid number of " ++ (if c == 'c' then "bytes" else "lines") ++ ": " ++ quoted text)

/-- The start of some bytes. -/
def Extent.start (e : Extent) (bytes : Bytes) : Bytes :=
  if e.bytes then
    bytes.take (if e.sign == some '-' then bytes.length - e.count else e.count)
  else
    let ls := piecesAt e.mark bytes
    (ls.take (if e.sign == some '-' then ls.length - e.count else e.count)).flatten

/-- The end of some bytes. -/
def Extent.ending (e : Extent) (bytes : Bytes) : Bytes :=
  if e.bytes then
    bytes.drop (if e.sign == some '+' then e.count - 1 else bytes.length - e.count)
  else
    let ls := piecesAt e.mark bytes
    (ls.drop (if e.sign == some '+' then e.count - 1 else ls.length - e.count)).flatten

/-- How much `head` reads at once. -/
def headBlock : Nat := 8192

/-- The number of bytes up to the end of so many pieces, and how many of these are missing. -/
def piecesSize (mark : UInt8) : (count size : Nat) → Bytes → Nat × Nat
  | 0, size, _ => (size, 0)
  | count, size, [] => (size, count)
  | count + 1, size, b :: rest => piecesSize mark (if b == mark then count else count + 1) (size + 1) rest

/-- Shows the start of what a channel has to read: so many pieces, of which no more is read than
there is in them if one can go back, or so many bytes. -/
def showStart (e : Extent) (seekable : Bool) (channel : Nat) : Nat → (left : Nat) → Act (Option SysError)
  | 0, _ => return none
  | fuel + 1, left => do
    let size (bytes : Bytes) : Nat × Nat :=
      if e.bytes then (min left bytes.length, left - bytes.length) else piecesSize e.mark left 0 bytes
    let wanted (bytes : Bytes) : Nat :=
      if e.bytes then min left headBlock
      else if seekable then (size (bytes.take headBlock)).1 else headBlock
    if left == 0 then return none
    else
      match ← Act.readFrom channel false wanted with
      | .error e => return some e
      | .ok [] => return none
      | .ok bytes =>
        let (shown, left) := size bytes
        let _ ← put (bytes.take shown)
        showStart e seekable channel fuel left

/-- Shows what comes after the start of what a channel has to read. -/
def showAfter (e : Extent) (channel : Nat) : Act (Option SysError) := do
  let show_ (left : Nat) (bytes : Bytes) : Act (Nat × Bool) := do
    let (skipped, left) := if e.bytes then (left, left - bytes.length) else piecesSize e.mark left 0 bytes
    let _ ← put (if skipped == 0 then bytes else bytes.drop skipped)
    return (left, true)
  match ← eachBlock channel show_ (e.count - 1) with
  | .error e => return some e
  | .ok _ => return none

/-- Shows a part of everything that a channel has to read. -/
def showPart (channel : Nat) (part : Bytes → Bytes) : Act (Option SysError) := do
  match ← Act.readWhole channel with
  | .error e => return some e
  | .ok bytes =>
    let _ ← put (part bytes)
    return none

def sourceName (operand : String) : String :=
  if operand == "-" then "standard input" else operand

def heading (several first : Bool) (operand : String) : String :=
  if several then (if first then "" else "\n") ++ "==> " ++ sourceName operand ++ " <==\n" else ""

/-- What `head` and `tail` say about an operand. A folder can be opened, but not read. -/
def cannotStart (name operand : String) (e : SysError) : String :=
  if operand == "-" && e == .badHandle && name == "tail" then "cannot fstat 'standard input': " ++ e.text
  else if operand == "-" then "error reading 'standard input': " ++ e.text
  else if e == .isFolder then "error reading " ++ quotedPath operand ++ ": " ++ e.text
  else "cannot open " ++ quotedPath operand ++ " for reading: " ++ e.text

/-- Shows a part of every operand, under headings if there are several. -/
def showParts (name : String) (found : List (Char × String)) (operands : List String)
    (part : Nat → Act (Option SysError)) : Act Nat := do
  let several := has found 'v' || (1 < operands.length && !has found 'q')
  let rec each (first : Bool) : List String → Act Nat
    | [] => return 0
    | operand :: rest => do
      match ← openInput operand with
      | .error e =>
        complain name (cannotStart name operand e)
        return max 1 (← each first rest)
      | .ok n =>
        let _ ← putText (heading several first operand)
        let status ← match ← part n with
          | some e => do
            complain name (cannotStart name operand e)
            pure 1
          | none => pure 0
        return max status (← each false rest)
  let status ← each true (sources operands)
  return max status (← closedInput name "-" operands)

def partOptions : List Opt :=
  [valued 'c' "bytes", valued 'n' "lines", flag 'q' "quiet", flag 'q' "silent", flag 'v' "verbose",
    flag 'z' "zero-terminated"]

/-- A number as first option spelled out, with the letters after it; or the letter that
means nothing there. -/
def spelledOut (sign : String) (cs : List Char) : Except Char (List String) :=
  let digits := String.ofList (cs.takeWhile Char.isDigit)
  let rec each (unit : String) (bytes : Bool) (more : List String) : List Char → Except Char (List String)
    | [] => .ok ((if bytes then "-c" else "-n") :: (sign ++ digits ++ unit) :: more)
    | 'c' :: rest => each "" true more rest
    | 'b' :: rest => each "b" true more rest
    | 'k' :: rest => each "K" true more rest
    | 'm' :: rest => each "M" true more rest
    | 'l' :: rest => each "" false more rest
    | 'q' :: rest => each unit bytes ("-q" :: more) rest
    | 'v' :: rest => each unit bytes ("-v" :: more) rest
    | 'z' :: rest => each unit bytes ("-z" :: more) rest
    | c :: _ => .error c
  each "" false [] (cs.drop digits.length)

/-- The digit that was taken for an option. -/
def digitOption? (problem : String) : Option Char :=
  ((List.range 10).map fun n => Char.ofNat (48 + n)).find? fun c =>
    problem == "invalid option -- " ++ inQuotes (String.singleton c)

def headUsage : Usage where
  name := "head"
  options := partOptions

def head (args : List String) : Act Nat := do
  let trailing (c : Char) : Act Nat := misused "head" ("invalid trailing option -- " ++ String.singleton c)
  let asked : Except Char (List String) := match args with
    | arg :: rest =>
      match arg.toList with
      | '-' :: c :: more => if c.isDigit then (spelledOut "" (c :: more)).map (· ++ rest) else .ok args
      | _ => .ok args
    | [] => .ok []
  match asked with
  | .error c => trailing c
  | .ok args =>
    match options headUsage (args.length + 1) args with
    | .error problem => ((digitOption? problem).map trailing).getD (misused "head" problem)
    | .ok (found, operands) =>
      match extentOf found with
      | .error problem =>
        complain "head" problem
        return 1
      | .ok e =>
        showParts "head" found operands fun n => do
          let seekable := match (← Act.world).channels[n]? with
            | some (.file ..) => true
            | _ => false
          if e.sign == some '-' then showPart n e.start else showStart e seekable n forever e.count

/-- The first argument of `tail` as options, where it is a number with a sign and stands
alone or before one operand. -/
def tailNumber (args : List String) : List String :=
  match args with
  | arg :: rest =>
    let spelled (sign : String) (cs : List Char) : List String :=
      match spelledOut sign (cs.filter (· != 'f')) with
      | .ok options => options ++ rest
      | .error _ => args
    let alone := match rest with
      | [] => true
      | [one] => !one.startsWith "-" || one == "-"
      | "--" :: more => more.length ≤ 1
      | _ => false
    match arg.toList with
    | '-' :: c :: more => if c.isDigit && alone then spelled "" (c :: more) else args
    | '+' :: c :: more => if c.isDigit && alone then spelled "+" (c :: more) else args
    | _ => args
  | [] => []

def tailUsage : Usage where
  name := "tail"
  options := partOptions ++ [flag 'f' "follow", flag 'F' "", valued 's' "sleep-interval"]

def tail (args : List String) : Act Nat := do
  let args := tailNumber args
  match options tailUsage (args.length + 1) args with
  | .error problem =>
    match digitOption? problem with
    | some c =>
      complain "tail" ("option used in invalid context -- " ++ String.singleton c)
      return 1
    | none => misused "tail" problem
  | .ok (found, operands) =>
    match extentOf found with
    | .error problem =>
      complain "tail" problem
      return 1
    | .ok e =>
      showParts "tail" found operands fun n =>
        if e.sign == some '+' then showAfter e n else showPart n e.ending

/-! ### Copies -/

/-- The descriptors of the files that `tee` writes to start here. -/
def copyDescriptor : Nat := 10

/-- Writes some bytes to descriptors, each with its name; those that could be written to. -/
def writeCopies (bytes : Bytes) : List (String × Nat) → Act (List (String × Nat))
  | [] => return []
  | (label, descriptor) :: rest => do
    match ← Act.write descriptor bytes with
    | .ok () => return (label, descriptor) :: (← writeCopies bytes rest)
    | .error e =>
      complain "tee" (label ++ ": " ++ e.text)
      writeCopies bytes rest

/-- Opens the files that are to be written; the descriptors of those that could be opened. -/
def openCopies (mode : FileMode) : List (String × Nat) → Act (List (String × Nat))
  | [] => return []
  | (operand, descriptor) :: rest => do
    match ← Act.openFile operand mode with
    | .error e =>
      complain "tee" (cannotRead operand e)
      openCopies mode rest
    | .ok n =>
      Act.setDescriptor descriptor (some n)
      return (plainPath operand, descriptor) :: (← openCopies mode rest)

def tee (args : List String) : Act Nat :=
  withOptions { name := "tee", options := [flag 'a' "append", flag 'i' "ignore-interrupts", flag 'p' ""] } args
    fun found operands => do
      let files ← openCopies (if has found 'a' then .append else .replace) (operands.zipIdx copyDescriptor)
      let status := if files.length < operands.length then 1 else 0
      let copies := ("'standard output'", 1) :: files
      match ← Act.channel? 0 with
      | none =>
        complain "tee" ("read error: " ++ SysError.badHandle.text)
        return max 1 (← closedInput "tee" "standard input" [])
      | some (n, _) =>
        let work (left : List (String × Nat)) (bytes : Bytes) : Act (List (String × Nat) × Bool) := do
          let left ← writeCopies bytes left
          return (left, !left.isEmpty)
        match ← eachBlock n work copies with
        | .error e =>
          complain "tee" ("read error: " ++ e.text)
          return 1
        | .ok left => return if left.length < copies.length then 1 else status

/-! ### Counts -/

def isSpace (b : UInt8) : Bool := b == 32 || (9 ≤ b && b ≤ 13)

def isPrintable (b : UInt8) : Bool := 32 ≤ b && b < 127

/-- How many words some bytes hold. Only what can be printed makes one. -/
def wordCount (bytes : Bytes) : Nat :=
  (bytes.foldl (fun (n, inside) b =>
    if isSpace b then (n, false)
    else if isPrintable b then (if inside then n else n + 1, true)
    else (n, inside)) (0, false)).1

/-- The width of the widest line. -/
def widest (bytes : Bytes) : Nat :=
  let (most, last) := bytes.foldl (fun (most, width) b =>
    if b == 10 || b == 13 || b == 12 then (max most width, 0)
    else if b == 9 then (most, (width / 8 + 1) * 8)
    else if isPrintable b then (most, width + 1)
    else (most, width)) (0, 0)
  max most last

/-- The kinds of counts, in the order in which they are shown. -/
def counts : List (Char × (Bytes → Nat)) :=
  [('l', fun bytes => bytes.count 10), ('w', wordCount), ('m', List.length), ('c', List.length), ('L', widest)]

def wcUsage : Usage where
  name := "wc"
  options := [flag 'c' "bytes", flag 'm' "chars", flag 'l' "lines", flag 'w' "words", flag 'L' "max-line-length"]

/-- The size of a regular file, where an operand is one. -/
def regularSize? (operand : String) : Act (Option Nat) := do
  let s ← get
  let node? := if operand == "-" then
      match (s.scope.descriptors.lookup 0).bind fun n => s.world.channels[n]? with
      | some (.file node ..) => s.world.disk.node? node
      | _ => none
    else s.world.disk.find? (Latin.toName operand)
  return match node? with
    | some (.file content) => some content.length
    | _ => none

def wc (args : List String) : Act Nat :=
  withOptions wcUsage args fun found operands => do
    let chosen := if found.isEmpty then ['l', 'w', 'c'] else found.map Prod.fst
    let kinds := counts.filter fun kind => chosen.contains kind.1
    let s ← get
    let asked := sources operands
    let sizes ← asked.mapM fun operand => do
      let size? ← regularSize? operand
      let known := if operand == "-" then (s.scope.descriptors.lookup 0).isSome
        else s.world.disk.exists? (Latin.toName operand)
      return if known then some size? else none
    let isAlone := kinds.length == 1 && asked.length == 1
    let minimum := if sizes.any fun size => size == some none then 7 else 1
    let total := sizes.foldl (fun total size => total + (size.getD none).getD 0) 0
    let width := if isAlone || sizes.head? == some none then 1 else max minimum (toString total).length
    let row (name : Option String) (counts : List Nat) : String :=
      " ".intercalate (counts.map fun n => padLeft width (toString n)) ++ name.elim "" (" " ++ ·) ++ "\n"
    let named (name : String) := if operands.isEmpty then none else some name
    let rec each (sums : List Nat) : List String → Act (Nat × List Nat)
      | [] => return (0, sums)
      | operand :: rest => do
        let (status, bytes?) ← match ← content operand with
          | .ok bytes => pure (0, some bytes)
          | .error e => do
            complain "wc" (cannotRead (if operands.isEmpty then "standard input" else operand) e)
            pure (1, if e == .isFolder || e == .badHandle then some [] else none)
        let (written, sums) ← match bytes? with
          | none => pure (0, sums)
          | some bytes => do
            let own := kinds.map fun kind => kind.2 bytes
            let written ← putText (row (named operand) own)
            pure (written, (sums.zip (own.zip kinds)).map fun (a, b, kind) => if kind.1 == 'L' then max a b else a + b)
        let (later, sums) ← each sums rest
        return (max status (max written later), sums)
    let (status, sums) ← each (kinds.map fun _ => 0) asked
    let status := max status (← closedInput "wc" "-" operands)
    let written ← if 1 < asked.length then putText (row (some "total") sums) else pure 0
    return max status written

end ScriptCache.Shell.Utility
