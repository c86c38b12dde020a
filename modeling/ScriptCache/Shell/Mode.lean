/-! Permission bits, as they are written.

A change is an octal number, or clauses with commas between them. A clause says whose bits
are changed, and how: some are added, taken away, or set and the others cleared. What
nobody is named for leaves the bits of the mask alone. -/
namespace ScriptCache.Shell.Mode

/-- The bits that belong to the owner, the group, others or all. -/
def who? (c : Char) : Option Nat :=
  match c with
  | 'u' => some 0o4700
  | 'g' => some 0o2070
  | 'o' => some 0o1007
  | 'a' => some 0o7777
  | _ => none

/-- The bits that a letter stands for. A capital X is for what is a folder or can be run by
somebody already. -/
def letter? (folder : Bool) (mode : Nat) (c : Char) : Option Nat :=
  match c with
  | 'r' => some 0o444
  | 'w' => some 0o222
  | 'x' => some 0o111
  | 'X' => some (if folder || mode &&& 0o111 != 0 then 0o111 else 0)
  | 's' => some 0o6000
  | 't' => some 0o1000
  | _ => none

/-- The bits of the owner, the group or others, given to all of them. -/
def copied? (mode : Nat) (c : Char) : Option Nat :=
  let spread (n : Nat) := some ((n % 8) * 0o111)
  match c with
  | 'u' => spread (mode / 0o100)
  | 'g' => spread (mode / 0o10)
  | 'o' => spread mode
  | _ => none

/-- The bits that some letters stand for, and what comes after them. -/
def value (folder : Bool) (mode : Nat) (cs : List Char) : Nat × List Char :=
  match cs.head?.bind (copied? mode) with
  | some bits => (bits, cs.tail)
  | none =>
    let letters := cs.takeWhile fun c => (letter? folder mode c).isSome
    (letters.foldl (fun bits c => bits ||| (letter? folder mode c).getD 0) 0, cs.drop letters.length)

/-- The bits of one number that another does not have. -/
def without (a b : Nat) : Nat := a ^^^ (a &&& b)

/-- Carries the operations of one clause out; `who` is empty if nobody is named. -/
def operations (umask : Nat) (folder : Bool) (who : Nat) : Nat → List Char → Nat → Option Nat
  | 0, _, mode => some mode
  | _, [], mode => some mode
  | fuel + 1, op :: rest, mode =>
    let (bits, rest) := value folder mode rest
    let bits := if who == 0 then without bits umask else bits &&& who
    let cleared := if who == 0 then 0o7777 else who
    match op with
    | '+' => operations umask folder who fuel rest (mode ||| bits)
    | '-' => operations umask folder who fuel rest (without mode bits)
    | '=' => operations umask folder who fuel rest (without mode cleared ||| bits)
    | _ => none

/-- Some bits after one clause. -/
def clause (umask : Nat) (folder : Bool) (cs : List Char) (mode : Nat) : Option Nat :=
  let named := cs.takeWhile fun c => (who? c).isSome
  let who := named.foldl (fun bits c => bits ||| (who? c).getD 0) 0
  let rest := cs.drop named.length
  if rest.isEmpty then none else operations umask folder who rest.length rest mode

/-- The clauses of a change. -/
def clauses (text : String) : List (List Char) :=
  (text.splitOn ",").map String.toList

/-- Some bits after a change that is written with letters. -/
def symbolic (umask : Nat) (folder : Bool) (text : String) (mode : Nat) : Option Nat :=
  (clauses text).foldlM (fun mode cs => clause umask folder cs mode) mode

/-- The number that octal digits spell. -/
def octal? (text : String) : Option Nat :=
  if !text.isEmpty && text.toList.all fun c => '0' ≤ c && c ≤ '7' then
    some (text.toList.foldl (fun n c => 8 * n + (c.toNat - 48)) 0)
  else none

/-- Some bits after a change. -/
def changed (umask : Nat) (folder : Bool) (text : String) (mode : Nat) : Option Nat :=
  match octal? text with
  | some n => if n ≤ 0o7777 then some n else none
  | none => symbolic umask folder text mode

/-- One class of permission bits as letters. -/
def letters (n : Nat) : String :=
  String.ofList ([(4, 'r'), (2, 'w'), (1, 'x')].filterMap fun (bit, c) =>
    if n &&& bit != 0 then some c else none)

end ScriptCache.Shell.Mode
