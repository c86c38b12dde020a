import ScriptCache.Shell.Format
import ScriptCache.Shell.Pattern
import ScriptCache.Shell.Utility.Files
import ScriptCache.Shell.Utility.Sort

/-! Utilities that show names and what has them. -/
namespace ScriptCache.Shell.Utility

/-! ### Parts of paths -/

def basename (args : List String) : Act Nat :=
  withOptions { name := "basename", options := [flag 'a' "multiple", valued 's' "suffix", flag 'z' "zero"], permutes := false }
    args fun found operands => do
      let ending := if has found 'z' then "\x00" else "\n"
      let named (suffix path : String) : String :=
        let name := baseName path
        if !suffix.isEmpty && name.endsWith suffix && name != suffix then (name.dropEnd suffix.length).toString else name
      if operands.isEmpty then misused "basename" "missing operand"
      else if has found 'a' || has found 's' then
        putText (String.join (operands.map fun path => named ((valueOf? found 's').getD "") path ++ ending))
      else
        match operands with
        | [path] => putText (named "" path ++ ending)
        | [path, suffix] => putText (named suffix path ++ ending)
        | operands => extraOperand "basename" (operands.getD 2 "")

/-- The folder that the last part of a path stands in. -/
def folderName (path : String) : String :=
  let cs := withoutSlashes path
  let folder := cs.reverse.dropWhile (· != '/')
  let folder := String.ofList (folder.dropWhile (· == '/')).reverse
  if !folder.isEmpty then folder else if path.startsWith "/" then "/" else "."

def dirname (args : List String) : Act Nat :=
  withOptions { name := "dirname", options := [flag 'z' "zero"] } args fun found operands => do
    if operands.isEmpty then misused "dirname" "missing operand"
    else putText (String.join (operands.map fun path => folderName path ++ if has found 'z' then "\x00" else "\n"))

/-- What a path leads to from the root, no part of it a link; how many parts may be missing at
its end is up to `missing`. -/
def realPath (disk : Disk) (missing : Nat) : Nat → List NodeId → List String → Except SysError String
  | 0, _, _ => .error .tooManyLinks
  | _, here, [] =>
    let path := Tree.pathFrom disk here
    .ok (if path.isEmpty then "/" else path)
  | fuel + 1, here, part :: rest =>
    let current := here.headD Disk.root
    if part == "." then realPath disk missing fuel here rest
    else if part == ".." then realPath disk missing fuel (if here.length < 2 then here else here.tail) rest
    else
      match disk.node? current with
      | some (.folder entries) =>
        match entries.lookup part with
        | some id =>
          match disk.node? id with
          | some (.link target) =>
            let here := if Path.isAbsolute target then [Disk.root] else here
            realPath disk missing fuel here (Path.parts target ++ rest)
          | some (.folder _) => realPath disk missing fuel (id :: here) rest
          | _ =>
            if rest.isEmpty then
              let path := Tree.pathFrom disk here
              .ok (path ++ "/" ++ Latin.ofName part)
            else .error .notFolder
        | none =>
          if rest.length < missing then
            .ok (Tree.pathFrom disk here ++ String.join ((part :: rest).map fun p => "/" ++ Latin.ofName p))
          else .error .notFound
      | _ => .error .notFolder

/-- A path from the root. -/
def resolved (path : String) (missing : Nat) : Act (Except SysError String) := do
  let s ← get
  if path.isEmpty then return .error .notFound
  else
    let text := Latin.toName path
    let start := if Path.isAbsolute text then [Disk.root] else s.scope.folder
    return realPath s.world.disk missing 1000 start (Path.parts text)

def readlink (args : List String) : Act Nat :=
  withOptions { name := "readlink", options := [flag 'f' "canonicalize", flag 'e' "canonicalize-existing",
      flag 'm' "canonicalize-missing", flag 'n' "no-newline", flag 'q' "quiet", flag 's' "silent", flag 'v' "verbose",
      flag 'z' "zero"] } args fun found operands => do
    if operands.isEmpty then misused "readlink" "missing operand"
    else
      let ending := if has found 'n' && operands.length == 1 then "" else if has found 'z' then "\x00" else "\n"
      worst (operands.map fun path => do
        let disk ← Act.disk
        let answer ← match lastOf? found ['f', 'e', 'm'] with
          | some 'e' => resolved path 0
          | some 'm' => resolved path 1000
          | some _ => resolved path 1
          | none => pure (match Tree.at? disk (Latin.toName path) with
            | .ok (id, _) => match disk.node? id with
              | some (.link target) => .ok (Latin.ofName target)
              | _ => .error .invalid
            | .error e => .error e)
        match answer with
        | .ok text => putText (text ++ ending)
        | .error e =>
          if has found 'v' then complain "readlink" (plainPath path ++ ": " ++ e.text)
          return 1)

def realpath (args : List String) : Act Nat :=
  withOptions { name := "realpath", options := [flag 'e' "canonicalize-existing", flag 'm' "canonicalize-missing",
      flag 'L' "logical", flag 'P' "physical", flag 'q' "quiet", flag 's' "strip", flag 's' "no-symlinks", flag 'z' "zero"] }
    args fun found operands => do
      if operands.isEmpty then misused "realpath" "missing operand"
      else
        worst (operands.map fun path => do
          match ← resolved path (if has found 'm' then 1000 else if has found 'e' then 0 else 1) with
          | .ok text => putText (text ++ if has found 'z' then "\x00" else "\n")
          | .error e =>
            if !has found 'q' then complain "realpath" (plainPath path ++ ": " ++ e.text)
            return 1)

/-- The path of the working folder: the one that it was entered by, if that is asked for and
still right, or the one without links. -/
def pwd (args : List String) : Act Nat :=
  withOptions { name := "pwd", options := [flag 'L' "logical", flag 'P' "physical"] } args fun found operands => do
    if !operands.isEmpty then complain "pwd" "ignoring non-option arguments"
    let s ← get
    let named := ((s.scope.bindings.lookup "PWD").bind (·.value)).getD ""
    let isRight := named.startsWith "/" && !(Path.parts named).any (fun part => part == "." || part == "..") &&
      (s.world.disk.existing (Latin.toName named) false).toOption == s.scope.folder.head?
    let path := Tree.pathFrom s.world.disk s.scope.folder
    putText ((if has found 'L' && lastOf? found ['L', 'P'] == some 'L' && isRight then named
      else if path.isEmpty then "/" else path) ++ "\n")

/-! ### Listings -/

/-- What a listing shows of one name. -/
structure Item where
  name : String
  id : NodeId

/-- The letter of what a node is. -/
def kindLetter (disk : Disk) (id : NodeId) : Char :=
  match disk.node? id with
  | some (.folder _) => 'd'
  | some (.link _) => 'l'
  | some (.device _) => 'c'
  | _ => '-'

/-- The size that a node is shown with. -/
def shownSize (disk : Disk) (id : NodeId) : Nat :=
  match disk.node? id with
  | some (.file content) => content.length
  | some (.folder _) => 4096
  | some (.link target) => Name.size target
  | _ => 0

/-- How many blocks of a thousand bytes a node takes. -/
def blocksOf (disk : Disk) (id : NodeId) : Nat :=
  match disk.node? id with
  | some (.file content) => (content.length + 4095) / 4096 * 4
  | some (.folder _) => 4
  | _ => 0

/-- The mark after a name that says what it is. -/
def typeMark (disk : Disk) (found : List (Char × String)) (id : NodeId) : String :=
  match disk.node? id with
  | some (.folder _) => if has found 'F' || has found 'p' then "/" else ""
  | some (.link _) => if has found 'F' then "@" else ""
  | some (.file _) => if has found 'F' && disk.mode id &&& 0o111 != 0 then "*" else ""
  | _ => ""

/-- What a link leads to, as a long listing shows it. -/
def linkText (disk : Disk) (id : NodeId) : String :=
  match disk.node? id with
  | some (.link target) => " -> " ++ Latin.ofName target
  | _ => ""

/-- A size in a unit that keeps it short. -/
def humanSize (n : Nat) : String :=
  if n < 1024 then toString n
  else
    let units := ["K", "M", "G", "T"]
    let power := if n < Nat.pow 1024 2 then 1 else if n < Nat.pow 1024 3 then 2 else if n < Nat.pow 1024 4 then 3 else 4
    let unit := Nat.pow 1024 power
    let tenths := (n * 10 + unit - 1) / unit
    (if tenths < 100 then toString (tenths / 10) ++ "." ++ toString (tenths % 10)
      else toString ((n + unit - 1) / unit)) ++ units.getD (power - 1) ""

/-- The formats of a time that is not long ago, and of any other one. -/
def timeFormats (found : List (Char × String)) : String × String :=
  let plain := ("%b %e %H:%M", "%b %e  %Y")
  let style := if has found '!' then "full-iso" else (valueOf? found '8').getD "locale"
  match (style : String) with
  | "full-iso" => ("%Y-%m-%d %H:%M:%S.%N %z", "%Y-%m-%d %H:%M:%S.%N %z")
  | "long-iso" => ("%Y-%m-%d %H:%M", "%Y-%m-%d %H:%M")
  | "iso" => ("%m-%d %H:%M", "%Y-%m-%d ")
  | style =>
    match style.toList with
    | '+' :: format =>
      match (String.ofList format).splitOn "\n" with
      | [old, recent] => (recent, old)
      | _ => (String.ofList format, String.ofList format)
    | _ => plain

/-- How long ago a time may be to be shown with its hour: half a year. -/
def recentTime : Int := 15778476000000000

/-- A time as a long listing shows it. -/
def shownTime (formats : String × String) (now time : Int) : String :=
  Calendar.text (if now - recentTime < time && time ≤ now then formats.1 else formats.2) time

/-- Items one to a line, or in the long form. -/
def itemLines (disk : Disk) (now : Int) (found : List (Char × String)) (items : List Item) : List String :=
  let long := ['l', 'n', 'o', 'g', '!'].any (has found)
  let formats := timeFormats found
  let size (id : NodeId) : String := if has found 'h' then humanSize (shownSize disk id) else toString (shownSize disk id)
  let widest (text : Item → String) : Nat := (items.map fun item => (text item).length).foldl max 0
  let links (item : Item) : String := toString (Tree.linkCount disk item.id)
  let owner := if has found 'n' then "0" else "root"
  let owners := (if has found 'g' then "" else owner ++ " ") ++ (if has found 'o' || has found 'G' then "" else owner ++ " ")
  let linkWidth := widest links
  let sizeWidth := widest fun item => size item.id
  let number (item : Item) : String := if has found 'i' then toString (item.id + 2) ++ " " else ""
  let blockText (item : Item) : String := toString (blocksOf disk item.id)
  let blockWidth := widest blockText
  let blocks (item : Item) : String := if has found 's' then padLeft blockWidth (blockText item) ++ " " else ""
  items.map fun item =>
    let name := (if has found 'Q' then "\"" ++ item.name ++ "\"" else item.name)
    let shown := number item ++ blocks item
    if long then
      shown ++ String.singleton (kindLetter disk item.id) ++ modeText (disk.mode item.id) ++ " " ++
        padLeft linkWidth (links item) ++ " " ++ owners ++ padLeft sizeWidth (size item.id) ++ " " ++
        shownTime formats now (disk.time item.id) ++ " " ++
        name ++ (if kindLetter disk item.id == 'l' then linkText disk item.id else typeMark disk found item.id)
    else shown ++ name ++ typeMark disk found item.id

/-- The order that options ask for. -/
def itemOrder (disk : Disk) (found : List (Char × String)) (items : List Item) : List Item :=
  let byName := items.mergeSort fun a b => decide (a.name ≤ b.name)
  let extension (item : Item) : String := match (item.name.splitOn ".").getLast? with
    | some ending => if item.name.contains '.' then ending else ""
    | none => ""
  let sorted := match lastOf? found ['S', 'v', 'X', 'U', 'f', 't'] with
    | some 'S' => byName.mergeSort fun a b => shownSize disk b.id ≤ shownSize disk a.id
    | some 'v' => byName.mergeSort fun a b => compareVersions (Latin.toBytes a.name) (Latin.toBytes b.name) != .gt
    | some 'X' => byName.mergeSort fun a b => decide (extension a ≤ extension b)
    | some 't' => byName.mergeSort fun a b => disk.time b.id ≤ disk.time a.id
    | some 'U' | some 'f' => items
    | _ => byName
  let sorted := if has found 'r' then sorted.reverse else sorted
  if has found '2' then
    let (folders, others) := sorted.partition fun item => match disk.node? item.id with
      | some (.link target) => disk.isFolder target
      | _ => Tree.isFolder disk item.id
    folders ++ others
  else sorted

/-- How lines are put together: each on its own, or in a row. -/
def itemText (found : List (Char × String)) (lines : List String) : String :=
  if lines.isEmpty then ""
  else
    match lastOf? found ['m', 'C', 'x', '1', 'l'] with
    | some 'm' => ", ".intercalate lines ++ "\n"
    | some 'C' | some 'x' =>
      let row := "  ".intercalate lines
      if row.length < 80 then row ++ "\n" else String.join (lines.map (· ++ "\n"))
    | _ => String.join (lines.map (· ++ "\n"))

def lsUsage : Usage where
  name := "ls"
  failure := 2
  options := ("aAbBcCdfFgGhHiIklLmnNopqQrRsStTuUvwxXZ1".toList.filter fun c => !"IwT".toList.contains c).map
      (fun c => flag c (([('a', "all"), ('A', "almost-all"), ('b', "escape"), ('B', "ignore-backups"), ('d', "directory"),
        ('h', "human-readable"), ('i', "inode"), ('n', "numeric-uid-gid"), ('N', "literal"), ('Q', "quote-name"),
        ('r', "reverse"), ('R', "recursive"), ('s', "size"), ('L', "dereference"), ('G', "no-group")].lookup c).getD "")) ++
    [valued 'I' "ignore", valued 'w' "width", valued 'T' "tabsize", wordFlag '2' "group-directories-first",
      { key := '3', isLetter := false, word := "color", takes := .attached },
      { key := 'F', isLetter := false, word := "classify", takes := .attached },
      wordFlag '!' "full-time", wordValued '4' "sort", wordValued '5' "time", wordValued '6' "format", wordValued '7' "indicator-style",
      wordValued '8' "time-style", wordValued '9' "quoting-style"]

/-- The items of a folder that are shown. -/
def folderItems (disk : Disk) (found : List (Char × String)) (id : NodeId) : List Item :=
  let all := has found 'a' || has found 'f'
  let own := if all then [⟨".", id⟩, ⟨"..", id⟩] else []
  let entries := (Tree.entries disk id).map fun (name, id) => (⟨Latin.ofName name, id⟩ : Item)
  let ignored := (found.filter (·.1 == 'I')).map fun o => o.2.toList.map fun c => ((c, false) : Glyph)
  own ++ entries.filter fun item =>
    (all || has found 'A' || !item.name.startsWith ".") &&
      !(has found 'B' && item.name.endsWith "~") && !ignored.any fun pattern => Pattern.holds pattern item.name.toList

/-- The listing of a folder's content, and of the folders in it if that is asked for. -/
def folderText (disk : Disk) (now : Int) (found : List (Char × String)) : Nat → (headed : Bool) → String → NodeId → List String
  | 0, _, _, _ => []
  | depth + 1, headed, path, id =>
    let items := itemOrder disk found (folderItems disk found id)
    let total := items.foldl (fun n item => n + blocksOf disk item.id) 0
    let summed := ['l', 'n', 'o', 'g', 's', '!'].any (has found)
    let head := (if headed then path ++ ":\n" else "") ++
      (if summed then "total " ++ (if has found 'h' && 0 < total then humanSize (total * 1024) else toString total) ++ "\n" else "")
    let own := head ++ itemText found (itemLines disk now found items)
    own :: if has found 'R' then
      items.flatMap fun item =>
        if Tree.isFolder disk item.id && item.name != "." && item.name != ".." then
          folderText disk now found depth true (below path item.name) item.id
        else []
    else []

/-- The options with those that others stand for. -/
def lsOptions (found : List (Char × String)) : List (Char × String) :=
  found.flatMap fun o => match o with
    | ('4', value) => match [("size", 'S'), ("version", 'v'), ("extension", 'X'), ("none", 'U'), ("time", 't')].lookup value with
      | some c => [(c, "")]
      | none => []
    | ('6', value) => match [("long", 'l'), ("verbose", 'l'), ("commas", 'm'), ("horizontal", 'x'), ("across", 'x'),
        ("vertical", 'C'), ("single-column", '1')].lookup value with
      | some c => [(c, "")]
      | none => []
    | o => [o]

def ls (args : List String) : Act Nat :=
  withOptions lsUsage args fun found operands => do
    let found := lsOptions found
    let w ← Act.world
    let disk := w.disk
    let now := w.now
    let asked := if operands.isEmpty then ["."] else operands
    let long := ['l', 'n', 'o', 'g', '!'].any (has found)
    let follows (operand : String) : Bool := has found 'L' || has found 'H' || !(long || has found 'd' || has found 'F') || operand.endsWith "/"
    let answers := asked.map fun operand =>
      let path := Latin.toName operand
      let own := Tree.at? disk path
      (operand, match follows operand, disk.locate true path, own with
        | true, .ok (.taken id _), _ => Except.ok (id, (own.toOption.map Prod.fst).getD id)
        | _, _, .ok (id, _) => .ok (id, id)
        | _, .error e, .error _ => .error e
        | _, _, .error e => .error e)
    let statuses ← answers.mapM fun (operand, answer) => do
      match answer with
      | .ok _ => return 0
      | .error e =>
        complain "ls" ("cannot access " ++ quotedPath operand ++ ": " ++ e.text)
        return 2
    let items := answers.filterMap fun (operand, answer) => match answer with
      | .ok ids => some (({ name := operand, id := ids.1 } : Item), ids.2)
      | .error _ => none
    let (folders, files) := (items.map Prod.fst).partition fun item => Tree.isFolder disk item.id && !has found 'd'
    let fileText := itemText found (itemLines disk now found (itemOrder disk found files))
    let headed := 1 < asked.length || has found 'R'
    let sections := (if files.isEmpty then [] else [fileText]) ++
      (itemOrder disk found folders).flatMap fun item =>
        folderText disk now found (disk.nodes.length + 1) headed item.name item.id
    let written ← putText ("\n".intercalate sections)
    return max (if written == 0 then 0 else 2) (statuses.foldl max 0)

/-! ### Properties -/

/-- What a node is, in words. -/
def kindText (disk : Disk) (id : NodeId) : String :=
  match disk.node? id with
  | some (.folder _) => "directory"
  | some (.link _) => "symbolic link"
  | some (.device _) => "character special file"
  | some (.file []) => "regular empty file"
  | _ => "regular file"

/-- One property of a node. -/
def property (disk : Disk) (name : String) (id : NodeId) (c : Char) : String :=
  let kindBits := match kindLetter disk id with
    | 'd' => 0o040000
    | 'l' => 0o120000
    | 'c' => 0o020000
    | _ => 0o100000
  match c with
  | 'a' => String.ofList (Nat.toDigits 8 (disk.mode id))
  | 'A' => String.singleton (kindLetter disk id) ++ modeText (disk.mode id)
  | 'b' => toString (blocksOf disk id * 2)
  | 'B' => "512"
  | 'f' => String.ofList (Nat.toDigits 16 (kindBits + disk.mode id))
  | 'F' => kindText disk id
  | 'g' | 'u' => "0"
  | 'G' | 'U' => "root"
  | 'h' => toString (Tree.linkCount disk id)
  | 'i' => toString (id + 2)
  | 'n' => name
  | 'N' => quotedPath name ++ (match disk.node? id with
    | some (.link target) => " -> " ++ quotedPath (Latin.ofName target)
    | _ => "")
  | 'o' => "4096"
  | 's' => toString (shownSize disk id)
  | 'x' | 'y' | 'z' => Calendar.text "%Y-%m-%d %H:%M:%S.%N %z" (disk.time id)
  | 'X' | 'Y' | 'Z' => Calendar.text "%s" (disk.time id)
  | 'w' => "-"
  | 'W' => "0"
  | '%' => "%"
  | _ => "?"

/-- A format with the properties of a node in it. -/
def formatted (disk : Disk) (name : String) (id : NodeId) : Nat → List Char → List Char
  | 0, _ => []
  | _, [] => []
  | fuel + 1, '%' :: rest =>
    let (d, more) := Printf.flags {} rest
    let (width, more) := Arithmetic.digits 10 more
    match more with
    | [] => ['%']
    | c :: after => Printf.padded { d with width } (property disk name id c).toList ++ formatted disk name id fuel after
  | fuel + 1, c :: rest => c :: formatted disk name id fuel rest

def stat (args : List String) : Act Nat :=
  withOptions { name := "stat", options := [flag 'L' "dereference", flag 'f' "file-system", valued 'c' "format",
      flag 't' "terse", wordValued '1' "printf", wordValued '2' "cached"] } args fun found operands => do
    if operands.isEmpty then misused "stat" "missing operand"
    else
      worst (operands.map fun operand => do
        let disk ← Act.disk
        let path := Latin.toName operand
        let node := if has found 'L' then disk.existing path false else (Tree.at? disk path).map Prod.fst
        match node with
        | .error e =>
          complain "stat" ("cannot statx " ++ quotedPath operand ++ ": " ++ e.text)
          return 1
        | .ok id =>
          let shown (format : List Char) : String := String.ofList (formatted disk operand id (format.length + 1) format)
          match valueOf? found '1', valueOf? found 'c' with
          | some format, _ => putText (shown (unescaped format.length format.toList).1)
          | none, some format => putText (shown format.toList ++ "\n")
          | none, none => putText (shown "  File: %N\n  Size: %s".toList ++ "\n"))

end ScriptCache.Shell.Utility
