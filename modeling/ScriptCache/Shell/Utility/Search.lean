import ScriptCache.Shell.Regex
import ScriptCache.Shell.Utility.Call
import ScriptCache.Shell.Utility.Tree

/-! Searching lines for patterns.

A line is selected if a pattern matches some of it, or all of it, or some words of it; or, the
other way round, if none does. -/
namespace ScriptCache.Shell.Utility

/-! ### Patterns -/

/-- What is searched for. -/
structure Searcher where
  dialect : Regex.Dialect
  patterns : List Regex
  /-- Whether matches have to be words, or whole lines. -/
  words : Bool := false
  whole : Bool := false

namespace Searcher

/-- Whether a match may stand where it does. -/
def admits (s : Searcher) (text : Array UInt8) (start stop : Nat) : Bool :=
  if s.whole then start == 0 && stop == text.size
  else if s.words then
    !(start != 0 && Regex.isWordByte (text.getD (start - 1) 0)) &&
      !(stop < text.size && Regex.isWordByte (text.getD stop 0))
  else true

/-- Where the longest match ends that starts at a place. -/
def matchAt? (s : Searcher) (text : Array UInt8) (place : Nat) : Option Nat :=
  let stops := s.patterns.filterMap fun e =>
    ((Regex.ends s.dialect text e { place }).find? fun spot => s.admits text place spot.place).map (·.place)
  stops.max?

/-- The first match from a place on. -/
def find? (s : Searcher) (text : Array UInt8) (from_ : Nat) : Option (Nat × Nat) :=
  let starters := s.patterns.map Regex.firstBytes?
  let holds : Option (UInt8 → Bool) :=
    if starters.all (·.isSome) then some fun b => starters.any fun f => f.any fun f => f b else none
  let find (place : Nat) : Option (Nat × Nat) := (s.matchAt? text place).map fun stop => (place, stop)
  let find : Nat → Option (Nat × Nat) := match holds with
    | none => find
    | some holds => fun place =>
      if h : place < text.size then if holds text[place] then find place else none else none
  Regex.firstPlace find (text.size + 1 - from_) from_

/-- All matches that are not empty, one after the other. -/
def findAll (s : Searcher) (text : Array UInt8) : Nat → Nat → List (Nat × Nat)
  | 0, _ => []
  | fuel + 1, from_ =>
    match s.find? text from_ with
    | none => []
    | some (start, stop) =>
      if start == stop then
        if start < text.size then findAll s text fuel (start + 1) else []
      else (start, stop) :: findAll s text fuel stop

end Searcher

/-- The repetitions with nothing to repeat, as warnings say it. `first` says that nothing stands
before in the branch. -/
def patternWarnings : Nat → (first : Bool) → List Char → List String
  | 0, _, _ => []
  | _, _, [] => []
  | fuel + 1, _, '\\' :: _ :: rest => patternWarnings fuel false rest
  | fuel + 1, _, '[' :: rest =>
    let (negated, inner) := match rest with
      | '^' :: more => (['^'], more)
      | more => ([], more)
    let head := inner.takeWhile (· == ']') |>.take 1
    let body := bracketBody fuel (inner.drop head.length)
    patternWarnings fuel false (rest.drop (negated.length + head.length + body))
  | fuel + 1, first, c :: rest =>
    let after := patternWarnings fuel
    if c == '(' || c == '|' then after true rest
    else if c == '^' then after first rest
    else if first && (c == '*' || c == '+' || c == '?') then
      (String.singleton c ++ " at start of expression") :: after false rest
    else if first && c == '\x7b' && (Regex.bounds? rest).any (fun b => b.2.head? == some '\x7d') then
      "\x7b...\x7d at start of expression" :: after false rest
    else after false rest
where
  /-- How many characters a bracket takes up to its end. -/
  bracketBody : Nat → List Char → Nat
    | 0, _ => 0
    | _, [] => 0
    | _, ']' :: _ => 1
    | fuel + 1, '[' :: mark :: rest =>
      if mark == ':' || mark == '.' || mark == '=' then
        match Regex.named? mark [] rest with
        | some (name, after) => 4 + name.length + bracketBody fuel after
        | none => 2 + rest.length
      else 1 + bracketBody fuel (mark :: rest)
    | fuel + 1, _ :: rest => 1 + bracketBody fuel rest

/-- Whether a whole pattern is a class name without the brackets around it. -/
def isBareClass (text : String) : Bool :=
  (text.startsWith "[:" && text.endsWith ":]" && 4 < text.length) ||
    (text.startsWith "[=" && text.endsWith "=]" && 4 < text.length) ||
    (text.startsWith "[." && text.endsWith ".]" && 4 < text.length)

/-- A pattern that is matched as it is. -/
def fixedPattern (d : Regex.Dialect) (text : String) : Regex :=
  text.toList.foldr (fun c e => .seq (Regex.one d c) e) .empty

/-! ### Searching -/

/-- A line of what is searched: its number, where it starts, and whether it is selected. -/
structure SearchedLine where
  number : Nat
  offset : Nat
  bytes : Bytes
  selected : Bool

/-- What is shown, and how. -/
structure SearchStyle where
  searcher : Searcher
  inverted : Bool := false
  counts : Bool := false
  /-- Whether only the names of files are shown, of those with selected lines or of the
  others. -/
  names : Option Bool := none
  quiet : Bool := false
  silent : Bool := false
  onlyMatching : Bool := false
  lineNumbers : Bool := false
  offsets : Bool := false
  tabbed : Bool := false
  nulAfterName : Bool := false
  /-- What ends a line. -/
  mark : UInt8 := 10
  binaryAsText : Bool := false
  binaryUnmatched : Bool := false
  before : Option Nat := none
  after : Option Nat := none
  most : Option Nat := none
  label : String := "(standard input)"
  colored : Bool := false
  /-- What stands between groups of lines. -/
  separator : Option String := some "--"

namespace SearchStyle

/-- A text in a color. -/
def painted (style : SearchStyle) (color text : String) : String :=
  if style.colored && !text.isEmpty then
    "\x1b[" ++ color ++ "m\x1b[K" ++ text ++ "\x1b[m\x1b[K"
  else text

/-- What stands before a line or a match. -/
def head (style : SearchStyle) (name : Option String) (separator : String) (number offset : Nat) : String :=
  let separator := style.painted "36" separator
  let width := if style.tabbed then 19 else 0
  let numeric (n : Nat) : String := style.painted "32" (padLeft width (toString n)) ++ separator
  let name := name.elim "" fun name =>
    style.painted "35" name ++ if style.nulAfterName then "\x00" else separator
  let number := if style.lineNumbers then numeric number else ""
  let offset := if style.offsets then numeric offset else ""
  let all := name ++ number ++ offset
  if style.tabbed && !all.isEmpty then all ++ "\t" else all

/-- A match as it is shown. -/
def match_ (style : SearchStyle) (text : Array UInt8) : Bytes :=
  Latin.toBytes (style.painted "01;31" (Latin.ofBytes text.toList))

/-- A line with its matches in color. -/
def marked (style : SearchStyle) (line : Bytes) : Bytes :=
  let text := line.toArray
  let (last, seen) := (style.searcher.findAll text (text.size + 1) 0).foldl (fun (last, seen) (start, stop) =>
    (stop, seen ++ (text.extract last start).toList ++ style.match_ (text.extract start stop))) (0, ([] : Bytes))
  seen ++ (text.extract last text.size).toList

/-- One line as it is shown. -/
def shownLine (style : SearchStyle) (name : Option String) (line : SearchedLine) : Bytes :=
  if style.onlyMatching then
    if style.inverted || !line.selected then []
    else
      let text := line.bytes.toArray
      ((style.searcher.findAll text (text.size + 1) 0).map fun (start, stop) =>
        Latin.toBytes (style.head name ":" line.number (line.offset + start)) ++
          style.match_ (text.extract start stop) ++ [style.mark]).flatten
  else
    Latin.toBytes (style.head name (if line.selected then ":" else "-") line.number line.offset) ++
      (if style.colored && line.selected && !style.inverted then style.marked line.bytes else line.bytes) ++ [style.mark]

/-- What stands between a line that is shown and the one that was shown last, if that is not the one
before. `used` says that lines were shown at all. -/
def between (style : SearchStyle) (used : Bool) (last : Option Nat) (number : Nat) : Bytes :=
  let grouped := style.before.isSome || style.after.isSome
  match grouped && used && last != some (number - 1), style.separator with
  | true, some text => Latin.toBytes (style.painted "36" text ++ "\n")
  | _, _ => []

end SearchStyle

/-- How far the search of one file is. -/
structure SearchProgress where
  /-- The number and the offset of the next line. -/
  number : Nat := 1
  offset : Nat := 0
  /-- How many lines were selected, and where the last one of them ends. -/
  chosen : Nat := 0
  lastEnd : Nat := 0
  /-- The lines before that may be shown yet, the latest first, and how many are to be shown after. -/
  before : List SearchedLine := []
  after : Nat := 0
  /-- The number of the line that was shown last, and whether any was. -/
  last : Option Nat := none
  used : Bool
  isBinary : Bool := false
  isOver : Bool := false

namespace SearchStyle

/-- Whether lines are not shown. -/
def isMute (style : SearchStyle) : Bool :=
  style.quiet || style.counts || style.names.isSome

/-- Whether the first line that is selected is enough. -/
def isSettled (style : SearchStyle) (isBinary : Bool) : Bool :=
  style.quiet || style.names.isSome || (isBinary && !style.counts)

/-- Shows a line. -/
def showing (style : SearchStyle) (name : Option String) (st : SearchProgress) (line : SearchedLine) :
    SearchProgress × Bytes :=
  ({ st with last := some line.number, used := true },
    style.between st.used st.last line.number ++ style.shownLine name line)

/-- The next line of a file. Once as many lines were selected as are wanted, only those after them
are shown. -/
def advance (style : SearchStyle) (name : Option String) (st : SearchProgress) (piece : Bytes) :
    SearchProgress × Bytes :=
  let body := withoutMark style.mark piece
  let matched := (style.searcher.find? body.toArray 0).isSome
  let line : SearchedLine := ⟨st.number, st.offset, body, matched != style.inverted⟩
  let isFull := style.most.any (· ≤ st.chosen)
  let next := { st with number := st.number + 1, offset := st.offset + piece.length }
  if isFull && (line.selected || st.after == 0) then ({ next with isOver := true }, [])
  else if line.selected then
    let next := { next with
      chosen := st.chosen + 1, lastEnd := next.offset
      isOver := style.isSettled st.isBinary || (style.after.getD 0 == 0 && style.most.any (· ≤ st.chosen + 1)) }
    if style.isMute || st.isBinary then (next, [])
    else
      let (next, shown) := (line :: next.before).foldr (fun line (next, shown) =>
        let (next, out) := style.showing name next line
        (next, out :: shown)) (next, ([] : List Bytes))
      ({ next with before := [], after := style.after.getD 0 }, shown.reverse.flatten)
  else if style.isMute || st.isBinary then (next, [])
  else if st.after != 0 then
    let (next, out) := style.showing name { next with after := st.after - 1 } line
    (next, out)
  else ({ next with before := (line :: st.before).take (style.before.getD 0) }, [])

/-- The next lines of a file, for as long as the search is not over. -/
def advanceAll (style : SearchStyle) (name : Option String) :
    SearchProgress → List Bytes → List Bytes → SearchProgress × Bytes
  | st, shown, [] => (st, shown.reverse.flatten)
  | st, shown, piece :: rest =>
    if st.isOver then (st, shown.reverse.flatten)
    else
      let (st, out) := style.advance name st piece
      style.advanceAll name st (if out.isEmpty then shown else out :: shown) rest

end SearchStyle

/-- Searches what a channel has to read. A file with a zero in it is a binary one, of which no lines
are shown; zeros end lines there. -/
def searchChannel (style : SearchStyle) (name : Option String) (used : Bool) (channel : Nat) :
    Act (Except SysError SearchProgress) := do
  let work (state : SearchProgress × Bytes) (bytes : Bytes) : Act ((SearchProgress × Bytes) × Bool) := do
    let (st, under) := state
    let isBinary := st.isBinary || (style.mark != 0 && !style.binaryAsText && bytes.contains 0)
    let bytes := if isBinary then bytes.map fun b => if b == 0 then style.mark else b else bytes
    let (pieces, under) := piecesAfter style.mark under bytes
    if isBinary && style.binaryUnmatched then return (({ st with isBinary, isOver := true, chosen := 0 }, []), false)
    else
      let (st, out) := style.advanceAll name { st with isBinary } [] pieces
      let _ ← put out
      return ((st, under), !st.isOver)
  match ← eachBlock channel work ({ used }, ([] : Bytes)) with
  | .error e => return .error e
  | .ok (st, under) =>
    if st.isOver || under.isEmpty then return .ok st
    else
      let (st, out) := style.advance name st under.reverse
      let _ ← put out
      return .ok st

/-- What is shown of a file after its lines. -/
def concludeSearch (style : SearchStyle) (name : Option String) (display : String) (st : SearchProgress) : Act Unit := do
  let selected := st.chosen != 0
  let head := name.elim "" fun name =>
    style.painted "35" name ++ if style.nulAfterName then "\x00" else style.painted "36" ":"
  if style.quiet || (st.isBinary && style.binaryUnmatched) then return ()
  if style.counts then
    let _ ← putText (head ++ toString st.chosen ++ "\n")
  match style.names with
  | some wanted =>
    if wanted == selected then
      let _ ← putText (style.painted "35" display ++ if style.nulAfterName then "\x00" else "\n")
  | none =>
    if st.isBinary && selected && !style.counts && !style.silent then
      complain "grep" (display ++ ": binary file matches")

/-- Which files below a folder are searched. -/
structure SearchedFiles where
  recursive : Bool := false
  /-- Whether folders are passed over. -/
  skipsFolders : Bool := false
  included : List (List Glyph) := []
  excluded : List (List Glyph) := []
  excludedFolders : List (List Glyph) := []

/-- Whether the name of a file is one of those that are searched. -/
def SearchedFiles.admits (files : SearchedFiles) (name : String) : Bool :=
  (files.included.isEmpty || files.included.any fun pattern => Pattern.holds pattern name.toList) &&
    !files.excluded.any fun pattern => Pattern.holds pattern name.toList

/-- The paths of the files below a folder, in order. -/
def filesBelow (disk : Disk) (files : SearchedFiles) : Nat → String → NodeId → List String
  | 0, _, _ => []
  | depth + 1, path, id =>
    (Tree.names disk id).flatMap fun (name, id) =>
      let name := Latin.ofName name
      let path := if path.isEmpty then name else if path.endsWith "/" then path ++ name else path ++ "/" ++ name
      match disk.node? id with
      | some (.folder _) =>
        if files.excludedFolders.any fun pattern => Pattern.holds pattern name.toList then []
        else filesBelow disk files depth path id
      | some (.file _) => if files.admits name then [path] else []
      | _ => []

/-- How a search ended: whether lines were selected, whether something could not be searched,
and whether lines were shown. -/
structure SearchState where
  selected : Bool := false
  failed : Bool := false
  used : Bool := false
  /-- Whether nothing more is searched. -/
  ended : Bool := false

/-- Where a channel stands in its file. -/
def isAt (channel : Nat) : Act Nat := do
  return match (← Act.world).channels[channel]? with
    | some (.file _ offset _) => offset
    | _ => 0

/-- Goes back to a place in a file, if it is one. -/
def goBack (channel offset : Nat) : Act Unit := do
  match (← Act.world).channels[channel]? with
  | some (.file node _ appends) => Act.setChannel channel (.file node offset appends)
  | _ => return ()

/-- Searches one file. -/
def searchFile (style : SearchStyle) (named : Bool) (operand : String) (state : SearchState) : Act SearchState := do
  let failed (e : String) : Act SearchState := do
    if !style.silent then complain "grep" e
    return { state with failed := true }
  let display := if operand == "-" then style.label else operand
  let target? ← (match ← Act.channel? 1 with
    | some (_, .file node ..) => return some node
    | _ => return none : Act (Option NodeId))
  let shows := !style.quiet && style.names.isNone && !style.counts && style.most != some 1
  let disk ← Act.disk
  let own? := if operand == "-" then none else (disk.existing (Latin.toName operand) false).toOption
  match own?, target? with
  | some own, some target =>
    if shows && own == target && (match disk.node? own with | some (.file _) => true | _ => false) then
      return ← failed (display ++ ": input file is also the output")
  | _, _ => pure ()
  let name := if named then some display else none
  let found ← match ← openInput operand with
    | .error e => pure (Except.error e)
    | .ok n => do
      let start ← isAt n
      let found ← searchChannel style name state.used n
      match found with
      | .ok st => if operand == "-" && !style.isSettled false && st.isOver then goBack n (start + st.lastEnd)
      | .error _ => pure ()
      pure found
  match found with
  | .error e => failed (display ++ ": " ++ e.text)
  | .ok st =>
    concludeSearch style name display st
    let selected := st.chosen != 0
    return { state with selected := state.selected || selected, used := st.used, ended := style.quiet && selected }

/-- Searches files one after the other. -/
def searchFiles (style : SearchStyle) : List (String × Bool) → SearchState → Act SearchState
  | [], state => return state
  | (operand, named) :: rest, state => do
    let state ← searchFile style named operand state
    if state.ended then return state else searchFiles style rest state

/-! ### Calls -/

def grepUsage : Usage where
  name := "grep"
  failure := 2
  synopsis := "Usage: grep [OPTION]... PATTERNS [FILE]...\n"
  options :=
    [flag 'E' "extended-regexp", flag 'F' "fixed-strings", flag 'F' "fixed-regexp", flag 'G' "basic-regexp",
      flag 'P' "perl-regexp", valued 'e' "regexp", valued 'f' "file", flag 'i' "ignore-case", flag 'y' "",
      wordFlag '\x01' "no-ignore-case", flag 'w' "word-regexp", flag 'x' "line-regexp", flag 'z' "null-data",
      flag 's' "no-messages", flag 'v' "invert-match", flag 'V' "version", valued 'm' "max-count",
      flag 'b' "byte-offset", flag 'n' "line-number", wordFlag '\x02' "line-buffered", flag 'H' "with-filename",
      flag 'h' "no-filename", wordValued '\x03' "label", flag 'o' "only-matching", flag 'q' "quiet",
      flag 'q' "silent", wordValued '\x04' "binary-files", flag 'a' "text", flag 'I' "", valued 'd' "directories",
      valued 'D' "devices", flag 'r' "recursive", flag 'R' "dereference-recursive", wordValued '\x05' "include",
      wordValued '\x06' "exclude", wordValued '\x0e' "exclude-from", wordValued '\x0f' "exclude-dir",
      flag 'L' "files-without-match", flag 'l' "files-with-matches", flag 'c' "count", flag 'T' "initial-tab",
      flag 'Z' "null", valued 'B' "before-context", valued 'A' "after-context", valued 'C' "context",
      { key := '\x10', isLetter := false, word := "color", takes := .attached },
      { key := '\x10', isLetter := false, word := "colour", takes := .attached },
      wordValued '\x11' "group-separator", wordFlag '\x12' "no-group-separator", flag 'U' "binary", flag 'u' ""] ++
    "0123456789".toList.map fun c => flag c ""

/-- The patterns of a search: the texts of options and of files, one to a line. -/
def patternTexts (found : List (Char × String)) : Act (Except String (List String)) := do
  let rec each : List (Char × String) → Act (Except String (List String))
    | [] => return .ok []
    | (c, text) :: rest => do
      let more ← each rest
      let own : Except String (List String) ← (match c with
        | 'e' => return .ok (text.splitOn "\n")
        | 'f' => do
          match ← content text with
          | .error e => return .error (text ++ ": " ++ e.text)
          | .ok bytes => return .ok (textLines bytes)
        | _ => return .ok [] : Act (Except String (List String)))
      return do return (← own) ++ (← more)
  each found

/-- The kind of patterns that options ask for. -/
def patternKind (kind : Char) (found : List (Char × String)) : Char :=
  (lastOf? found ['E', 'F', 'G', 'P']).getD kind

/-- A glob of a search for files. -/
def globOf (text : String) : List Glyph := text.toList.map fun c => (c, false)

def searchStyle (kind : Char) (found : List (Char × String)) (texts : List String) : Except String SearchStyle := do
  let kind := patternKind kind found
  let folds := (lastOf? found ['i', 'y', '\x01']).any (· != '\x01')
  let dialect : Regex.Dialect := { extended := kind == 'E' || kind == 'P', foldCase := folds }
  let number (problem : String) (text : String) : Except String Nat :=
    match decimal? text with
    | some n => .ok n
    | none => .error problem
  let context (c : Char) : Except String (Option Nat) :=
    match valueOf? found c with
    | none => .ok none
    | some text => (number (text ++ ": invalid context length argument") text).map some
  let digits := String.ofList ((found.filter fun o => o.1.isDigit).map Prod.fst)
  let around ← context 'C'
  let around := around.orElse fun () => decimal? digits
  let before := (← context 'B').orElse fun () => around
  let after := (← context 'A').orElse fun () => around
  let most ← match valueOf? found 'm' with
    | none => .ok none
    | some text =>
      if text.startsWith "-" && (decimal? (text.drop 1).toString).isSome then .ok none
      else (number "invalid max count" text).map some
  let binary := (valueOf? found '\x04').getD ""
  let patterns ← texts.mapM fun text =>
    if kind == 'F' then .ok (fixedPattern dialect text) else (Regex.read dialect text).map Prod.fst
  return {
    searcher := { dialect, patterns, words := has found 'w', whole := has found 'x' }
    inverted := has found 'v', counts := has found 'c'
    names := (lastOf? found ['l', 'L']).map (· == 'l')
    quiet := has found 'q', silent := has found 's', onlyMatching := has found 'o'
    lineNumbers := has found 'n', offsets := has found 'b', tabbed := has found 'T'
    nulAfterName := has found 'Z', mark := if has found 'z' then 0 else 10
    binaryAsText := has found 'a' || binary == "text"
    binaryUnmatched := has found 'I' || binary == "without-match"
    before, after, most
    label := (valueOf? found '\x03').getD "(standard input)"
    colored := valueOf? found '\x10' == some "always"
    separator := match lastOf? found ['\x11', '\x12'] with
      | some '\x11' => valueOf? found '\x11'
      | some _ => none
      | none => some "--" }

/-- The files that operands stand for, each with whether its name is shown. -/
def searchedOperands (files : SearchedFiles) (named : Option Bool) (operands : List String) :
    Act (List (String × Bool)) := do
  let disk ← Act.disk
  let here := (← Act.scope).folder.headD Disk.root
  let several := 1 < operands.length
  let below (path : String) (id : NodeId) : List (String × Bool) :=
    (filesBelow disk files (disk.nodes.length + 1) path id).map fun path => (path, named.getD true)
  let ofOperand (operand : String) : List (String × Bool) :=
    let plain := (operand, named.getD several)
    match (if operand == "-" then none else (disk.existing (Latin.toName operand) false).toOption) with
    | none => [plain]
    | some id =>
      if !Tree.isFolder disk id then
        if operand == "-" || files.admits ((operand.splitOn "/").getLastD operand) then [plain] else []
      else if files.recursive then below operand id
      else if files.skipsFolders then []
      else [plain]
  return if operands.isEmpty && files.recursive then below "" here else (sources operands).flatMap ofOperand

def grepAs (kind : Char) (args : List String) : Act Nat :=
  withOptions grepUsage args fun found operands => do
    let badly (problem : String) : Act Nat := do
      complain "grep" problem
      return 2
    if has found 'V' then putText "grep (GNU grep) 3.8\n"
    else
      let given := has found 'e' || has found 'f'
      match given, operands with
      | false, [] =>
        Act.say 2 grepUsage.synopsis
        hinted 2 "grep"
      | _, _ =>
        let (patterns, operands) : Except String (List String) × List String ←
          if given then do pure ((← patternTexts found), operands)
          else pure (.ok ((operands.headD "").splitOn "\n"), operands.tail)
        match patterns with
        | .error problem => badly problem
        | .ok texts =>
          let regular := patternKind kind found != 'F'
          if regular && texts.any isBareClass then
            badly "character class syntax is [[:space:]], not [:space:]"
          else
            match searchStyle kind found texts with
            | .error problem => badly problem
            | .ok style =>
              if patternKind kind found == 'E' then
                (texts.flatMap fun text => patternWarnings (text.length + 1) true text.toList).forM fun text =>
                  complain "grep" ("warning: " ++ text)
              if style.most == some 0 && !style.quiet then return 1
              let globs (c : Char) : List (List Glyph) := (found.filter (·.1 == c)).map fun o => globOf o.2
              let files : SearchedFiles := {
                recursive := has found 'r' || has found 'R' || valueOf? found 'd' == some "recurse"
                skipsFolders := valueOf? found 'd' == some "skip"
                included := globs '\x05', excluded := globs '\x06', excludedFolders := globs '\x0f' }
              let named := (lastOf? found ['H', 'h']).map (· == 'H')
              let all ← searchedOperands files named operands
              let state ← searchFiles style all {}
              return if state.ended then 0 else if state.failed then 2 else if state.selected then 0 else 1

end ScriptCache.Shell.Utility
