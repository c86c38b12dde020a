import ScriptCache.Shell.State
import ScriptCache.Shell.Utility.Quoting

/-! How utilities are called.

A utility has options, each a letter or a word or both, which may stand among its operands.
It reads its operands, or the standard input where it has none, writes, complains about
what it cannot do, and ends with a status. -/
namespace ScriptCache.Shell.Utility

/-! ### Complaints -/

/-- What a utility is called: its name, or the path that it was started by. -/
def calledName (name : String) : Act String := do
  let called := (← Act.scope).name
  return if called.endsWith ("/" ++ name) then called else name

/-! ### Output that is kept back -/

/-- How much output is kept back at most. -/
def outputBlock : Nat := 4096

/-- Writes some of what was kept back, and keeps the rest. That this cannot be done shows once all
else is done. -/
def release (kept : Bytes) (keptSize : Nat) (written : Bytes) (writtenSize : Nat) : Act Unit := do
  Act.changeScope fun s => { s with
    pending := if keptSize == 0 then [] else [kept], pendingSize := keptSize
    writtenSize := s.writtenSize + writtenSize }
  match ← Act.write 1 written with
  | .ok () => pure ()
  | .error e => Act.changeScope fun s => { s with unwritten := some e }

/-- Writes what was kept back. -/
def flush : Act Unit := do
  let s ← Act.scope
  if s.pendingSize != 0 then release [] 0 s.pending.reverse.flatten s.pendingSize

/-- Writes whole blocks of what was kept back, if it is more than one. Into a file as much is
written at once as was written before. -/
def flushBlocks : Act Unit := do
  let s ← Act.scope
  let limit := match ← Act.channel? 1 with
    | some (_, .file ..) => max outputBlock s.writtenSize
    | _ => outputBlock
  if limit < s.pendingSize then
    let all := s.pending.reverse.flatten
    let size := s.pendingSize / outputBlock * outputBlock
    release (all.drop size) (s.pendingSize - size) (all.take size) size

/-- Complains in the name of a utility. What was kept back of the output comes first. -/
def complain (name text : String) : Act Unit := do
  flush
  Act.say 2 ((← calledName name) ++ ": " ++ text ++ "\n")

/-- Says where to read how a utility is called, and ends with a status. -/
def hinted (status : Nat) (name : String) : Act Nat := do
  Act.say 2 ("Try '" ++ (← calledName name) ++ " --help' for more information.\n")
  return status

/-- Complains about how a utility was called, and ends with a status. -/
def misusedWith (status : Nat) (name text : String) : Act Nat := do
  complain name text
  hinted status name

def misused (name text : String) : Act Nat :=
  misusedWith 1 name text

/-! ### Options -/

inductive Takes where
  | nothing
  | value
  /-- A value, if it is written together with the option. -/
  | attached
  deriving DecidableEq

/-- An option. What has no letter of its own is known by another one that is no letter. -/
structure Opt where
  key : Char
  isLetter : Bool := true
  word : String := ""
  takes : Takes := .nothing

def flag (key : Char) (word : String) : Opt where
  key := key
  word := word

def valued (key : Char) (word : String) : Opt where
  key := key
  word := word
  takes := .value

/-- An option that is a word only. -/
def wordFlag (key : Char) (word : String) : Opt where
  key := key
  isLetter := false
  word := word

def wordValued (key : Char) (word : String) : Opt where
  key := key
  isLetter := false
  word := word
  takes := .value

/-- How a utility is to be called. -/
structure Usage where
  name : String
  options : List Opt
  /-- The status after a wrong call. -/
  failure : Nat := 1
  /-- Whether options may come after operands. -/
  permutes : Bool := true
  /-- What a complaint about a wrong call shows before it says where to read more. -/
  synopsis : String := ""

/-- The options that an argument after a dash spells, and whether the next argument is the
value of the last one; or what is wrong with it. -/
def letters (known : List Opt) (next : Option String) :
    List Char → Except String (List (Char × String) × Bool)
  | [] => .ok ([], false)
  | c :: more =>
    match known.find? fun o => o.isLetter && o.key == c with
    | none => .error ("invalid option -- " ++ inQuotes (String.singleton c))
    | some o =>
      match o.takes, more, next with
      | .nothing, _, _ => (letters known next more).map fun (found, used) => ((c, "") :: found, used)
      | .attached, _, _ => .ok ([(c, String.ofList more)], false)
      | .value, [], some value => .ok ([(c, value)], true)
      | .value, [], none => .error ("option requires an argument -- " ++ inQuotes (String.singleton c))
      | .value, value, _ => .ok ([(c, String.ofList value)], false)

/-- The option that a word after two dashes is, and whether the next argument is its value;
or what is wrong with it. A word may be cut short. -/
def wordOption (known : List Opt) (next : Option String) (text : String) :
    Except String ((Char × String) × Bool) :=
  let word := String.ofList (text.toList.takeWhile (· != '='))
  let value? := match text.toList.drop word.length with
    | [] => none
    | _ :: value => some (String.ofList value)
  let candidates := known.filter fun o => !o.word.isEmpty && o.word.startsWith word
  let found : Except String Opt := match candidates.find? (·.word == word), candidates with
    | some o, _ | none, [o] => .ok o
    | none, [] => .error ("unrecognized option " ++ inQuotes ("--" ++ word))
    | none, first :: others =>
      if others.all (·.key == first.key) then .ok first
      else .error ("option " ++ inQuotes ("--" ++ word) ++ " is ambiguous; possibilities:" ++
        String.join (candidates.map fun o => " " ++ inQuotes ("--" ++ o.word)))
  match found with
  | .error problem => .error problem
  | .ok o =>
    match o.takes, value?, next with
    | .nothing, some _, _ => .error ("option " ++ inQuotes ("--" ++ o.word) ++ " doesn't allow an argument")
    | .nothing, none, _ => .ok ((o.key, ""), false)
    | _, some value, _ => .ok ((o.key, value), false)
    | .attached, none, _ => .ok ((o.key, ""), false)
    | .value, none, some value => .ok ((o.key, value), true)
    | .value, none, none => .error ("option " ++ inQuotes ("--" ++ o.word) ++ " requires an argument")

/-- The options among the arguments, each with its value if it takes one, and the operands;
or what is wrong with an option. -/
def options (usage : Usage) : Nat → List String → Except String (List (Char × String) × List String)
  | 0, args => .ok ([], args)
  | _, [] => .ok ([], [])
  | fuel + 1, arg :: rest =>
    match arg.toList with
    | ['-', '-'] => .ok ([], rest)
    | '-' :: '-' :: word => do
      let (found, used) ← wordOption usage.options rest.head? (String.ofList word)
      let (others, operands) ← options usage fuel (if used then rest.tail else rest)
      return (found :: others, operands)
    | '-' :: c :: more => do
      let (found, used) ← letters usage.options rest.head? (c :: more)
      let (others, operands) ← options usage fuel (if used then rest.tail else rest)
      return (found ++ others, operands)
    | _ =>
      if usage.permutes then
        (options usage fuel rest).map fun (found, operands) => (found, arg :: operands)
      else .ok ([], arg :: rest)

/-- Calls a utility with its options and operands. -/
def withOptions (usage : Usage) (args : List String)
    (work : List (Char × String) → List String → Act Nat) : Act Nat :=
  match options usage (args.length + 1) args with
  | .error problem => do
    complain usage.name problem
    Act.say 2 usage.synopsis
    hinted usage.failure usage.name
  | .ok (found, operands) => work found operands

def has (found : List (Char × String)) (c : Char) : Bool :=
  found.any (·.1 == c)

/-- The value of an option; the last one counts. -/
def valueOf? (found : List (Char × String)) (c : Char) : Option String :=
  found.reverse.lookup c

/-- The last of some options that was given. -/
def lastOf? (found : List (Char × String)) (cs : List Char) : Option Char :=
  (found.reverse.find? fun o => cs.contains o.1).map Prod.fst

/-- Complains about an operand too many. -/
def extraOperand (name operand : String) : Act Nat :=
  misused name ("extra operand " ++ quoted operand)

/-! ### Reading -/

/-- Opens an operand, a dash for the standard input; the number of its channel. -/
def openInput (operand : String) : Act (Except SysError Nat) := do
  if operand == "-" then
    match ← Act.channel? 0 with
    | some (n, _) => return .ok n
    | none => return .error .badHandle
  else Act.openFile operand .read

/-- The content of an operand. -/
def content (operand : String) : Act (Except SysError Bytes) := do
  match ← openInput operand with
  | .error e => return .error e
  | .ok n => Act.readWhole n

/-- The operands, or the standard input where there are none. -/
def sources (operands : List String) : List String :=
  if operands.isEmpty then ["-"] else operands

/-- Complains if the standard input was to be read and is closed. -/
def closedInput (name label : String) (operands : List String) : Act Nat := do
  if !label.isEmpty && (sources operands).contains "-" && (← Act.channel? 0).isNone then
    complain name (label ++ ": " ++ SysError.badHandle.text)
    return 1
  else return 0

/-- Works on every operand, or on the standard input. Operands that cannot be read are
complained about; at the end `closing` stands for the standard input. -/
def eachContent (name closing : String) (operands : List String) (problem : String → SysError → String)
    (work : String → Bytes → Act Unit) : Act Nat := do
  let rec each : List String → Act Nat
    | [] => return 0
    | operand :: rest => do
      let status ← match ← content operand with
        | .error e => do
          complain name (problem operand e)
          pure 1
        | .ok bytes => do
          work operand bytes
          pure 0
      return max status (← each rest)
  let status ← each (sources operands)
  return max status (← closedInput name closing operands)

def cannotRead (operand : String) (e : SysError) : String :=
  plainPath operand ++ ": " ++ e.text

/-- The operands that can be read, with their contents; the others are complained about. At the
end `closing` stands for the standard input. -/
def contentsFor (name closing : String) (operands : List String) (problem : String → SysError → String) :
    Act (Nat × List (String × Bytes)) := do
  let rec each : List String → Act (Nat × List (String × Bytes))
    | [] => return (0, [])
    | operand :: rest => do
      match ← content operand with
      | .error e =>
        complain name (problem operand e)
        let (status, more) ← each rest
        return (max 1 status, more)
      | .ok bytes =>
        let (status, more) ← each rest
        return (status, (operand, bytes) :: more)
  let (status, contents) ← each (sources operands)
  return (max status (← closedInput name closing operands), contents)

def contentsOf (name : String) : (operands : List String) → (problem : String → SysError → String) →
    Act (Nat × List (String × Bytes)) :=
  contentsFor name "-"

/-- The pieces of some bytes after others, these the last first, each with the mark that ends it;
and what comes after the last mark, the last first. -/
def piecesAfter (mark : UInt8) (under bytes : Bytes) : List Bytes × Bytes :=
  let (under, done) := bytes.foldl (fun (under, done) b =>
    if b == mark then ([], ((b :: under).reverse) :: done) else (b :: under, done))
    (under, ([] : List Bytes))
  (done.reverse, under)

/-- The pieces of some bytes, each with the mark that ends it. -/
def piecesAt (mark : UInt8) (bytes : Bytes) : List Bytes :=
  let (done, under) := piecesAfter mark [] bytes
  if under.isEmpty then done else done ++ [under.reverse]

/-- The lines of some bytes, each with its newline. -/
def lines (bytes : Bytes) : List Bytes := piecesAt 10 bytes

/-- A piece without the mark at its end. -/
def withoutMark (mark : UInt8) (piece : Bytes) : Bytes :=
  if piece.getLast? == some mark then piece.dropLast else piece

/-- The lines of some bytes as texts, without their newlines. -/
def textLines (bytes : Bytes) : List String :=
  (lines bytes).map fun line => Latin.ofBytes (withoutMark 10 line)

/-! ### Reading block after block -/

/-- How much is read at once. -/
def inputBlock : Nat := 65536

/-- Works on what a channel has to read, block after block, for as long as `work` wants more. -/
def eachBlock {σ : Type} (channel : Nat) (work : σ → Bytes → Act (σ × Bool)) (s : σ) :
    Act (Except SysError σ) :=
  let rec go : Nat → σ → Act (Except SysError σ)
    | 0, s => return .ok s
    | fuel + 1, s => do
      match ← Act.readFrom channel false fun _ => inputBlock with
      | .error e => return .error e
      | .ok [] => return .ok s
      | .ok bytes =>
        let (s, more) ← work s bytes
        if more then go fuel s else return .ok s
  go forever s

/-- Works on the pieces of what a channel has to read, for as long as `work` wants more. Each piece
has the mark that ends it, but for the last one. -/
def eachPieces {σ : Type} (mark : UInt8) (channel : Nat) (work : σ → List Bytes → Act (σ × Bool)) (s : σ) :
    Act (Except SysError σ) := do
  let read ← eachBlock channel (fun (s, under) (bytes : Bytes) => do
    let (pieces, under) := piecesAfter mark under bytes
    if pieces.isEmpty then return ((s, under), true)
    else
      let (s, more) ← work s pieces
      return ((s, if more then under else []), more)) (s, ([] : Bytes))
  match read with
  | .error e => return .error e
  | .ok (s, under) => if under.isEmpty then return .ok s else return .ok (← work s [under.reverse]).1

/-! ### Writing -/

/-- Writes on the standard output, sooner or later. -/
def put (bytes : Bytes) : Act Nat := do
  if !bytes.isEmpty then
    let count := bytes.length
    Act.changeScope fun s => { s with pending := bytes :: s.pending, pendingSize := s.pendingSize + count }
    if outputBlock < (← Act.scope).pendingSize then flushBlocks
  return 0

def putText (text : String) : Act Nat :=
  put (Latin.toBytes text)

/-- Writes lines. -/
def putLines (texts : List String) : Act Nat :=
  putText (String.join (texts.map (· ++ "\n")))

/-- Writes on the standard output, complaining at once if that cannot be done. -/
def putNow (name : String) (bytes : Bytes) : Act Nat := do
  flush
  match ← Act.write 1 bytes with
  | .ok () => return 0
  | .error e =>
    complain name ((if e == .badHandle then "standard output: " else "write error: ") ++ e.text)
    return 1

/-- Works on the pieces of every operand, or of the standard input, and writes what comes of each.
Operands that cannot be read are complained about; at the end `closing` stands for the standard
input. -/
def filtered {σ : Type} (name closing : String) (mark : UInt8) (operands : List String)
    (problem : String → SysError → String) (s : σ) (step : σ → Bytes → σ × Bytes) : Act (Nat × σ) := do
  let work (s : σ) (pieces : List Bytes) : Act (σ × Bool) := do
    let (s, shown) := pieces.foldl (fun (s, shown) piece =>
      let (s, out) := step s piece
      (s, out :: shown)) (s, ([] : List Bytes))
    let _ ← put shown.reverse.flatten
    return (s, true)
  let rec each (status : Nat) (s : σ) : List String → Act (Nat × σ)
    | [] => return (status, s)
    | operand :: rest => do
      let read ← match ← openInput operand with
        | .error e => pure (Except.error e)
        | .ok n => eachPieces mark n work s
      match read with
      | .error e => do
        complain name (problem operand e)
        each 1 s rest
      | .ok s => each status s rest
  let (status, s) ← each 0 s (sources operands)
  return (max status (← closedInput name closing operands), s)

def padLeft (width : Nat) (text : String) : String :=
  String.ofList (List.replicate (width - text.length) ' ') ++ text

def padRight (width : Nat) (text : String) : String :=
  text ++ String.ofList (List.replicate (width - text.length) ' ')

/-- The worst status of some actions. -/
def worst : List (Act Nat) → Act Nat
  | [] => return 0
  | a :: rest => do
    let status ← a
    return max status (← worst rest)

/-! ### Numbers -/

/-- The number that decimal digits spell. -/
def decimal? (text : String) : Option Nat :=
  if !text.isEmpty && text.toList.all Char.isDigit then text.toNat? else none

/-- What the letters of a unit multiply a number by. -/
def unit? (text : String) : Option Nat :=
  let powers := ['K', 'M', 'G', 'T', 'P', 'E', 'Z', 'Y', 'R', 'Q']
  match text.toList with
  | [] | ['c'] => some 1
  | ['b'] => some 512
  | 'k' :: rest | 'K' :: rest =>
    match rest with
    | [] | ['i', 'B'] => some 1024
    | ['B'] => some 1000
    | _ => none
  | c :: rest =>
    (powers.findIdx? (· == c)).bind fun n =>
      match rest with
      | [] | ['i', 'B'] => some (Nat.pow 1024 (n + 1))
      | ['B'] => some (Nat.pow 1000 (n + 1))
      | _ => none

/-- A number with a unit behind it. -/
def quantity? (text : String) : Option Nat :=
  let digits := text.toList.takeWhile Char.isDigit
  if digits.isEmpty then none
  else do
    let n ← (String.ofList digits).toNat?
    let unit ← unit? (String.ofList (text.toList.drop digits.length))
    return n * unit

end ScriptCache.Shell.Utility
