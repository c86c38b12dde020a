import ScriptCache.Shell.Numeric

/-! What `echo` and `printf` write.

Both know characters by what follows a backslash. `printf` writes its format as often as
it takes to use its arguments up, and fills missing ones in; an argument that is no
number counts as far as it is one and is complained about. -/
namespace ScriptCache.Shell

/-- The character that a letter after a backslash names. -/
def escapeLetter? (c : Char) : Option Char :=
  match c with
  | 'a' => some '\x07'
  | 'b' => some '\x08'
  | 'e' => some '\x1b'
  | 'f' => some '\x0c'
  | 'n' => some '\n'
  | 'r' => some '\r'
  | 't' => some '\t'
  | 'v' => some '\x0b'
  | '\\' => some '\\'
  | _ => none

def isOctal (c : Char) : Bool := '0' ≤ c && c ≤ '7'

/-- The byte that up to three octal digits spell, and what comes after. -/
def octal (cs : List Char) : Char × List Char :=
  let ds := (cs.take 3).takeWhile isOctal
  (Char.ofNat (ds.foldl (fun n c => 8 * n + (c.toNat - 48)) 0 % 256), cs.drop ds.length)

/-- The character that stands after a backslash, and what comes after. -/
def escape? (cs : List Char) : Option (Char × List Char) :=
  match cs with
  | [] => none
  | c :: rest =>
    if isOctal c then some (octal cs)
    else (escapeLetter? c).map fun c => (c, rest)

/-- A text with its escapes replaced, and whether one of them ends all output. An octal
number may have a zero before its three digits. -/
def unescaped : Nat → List Char → List Char × Bool
  | 0, _ => ([], false)
  | _, [] => ([], false)
  | fuel + 1, '\\' :: cs =>
    let after (c : Char) (rest : List Char) :=
      let (more, ended) := unescaped fuel rest
      (c :: more, ended)
    match cs with
    | 'c' :: _ => ([], true)
    | '0' :: rest =>
      let (c, rest) := octal rest
      after c rest
    | cs =>
      match escape? cs with
      | some (c, rest) => after c rest
      | none => after '\\' cs
  | fuel + 1, c :: cs =>
    let (more, ended) := unescaped fuel cs
    (c :: more, ended)

/-- What `echo` writes. -/
def echoed (args : List String) : String :=
  let (args, ending) := match args with
    | "-n" :: rest => (rest, "")
    | args => (args, "\n")
  let text := " ".intercalate args
  let (out, ended) := unescaped text.length text.toList
  String.ofList out ++ if ended then "" else ending

namespace Printf

/-- How one argument is to be written. -/
structure Directive where
  left : Bool := false
  plus : Bool := false
  blank : Bool := false
  alternate : Bool := false
  zero : Bool := false
  width : Nat := 0
  precision : Option Nat := none

/-- Who writes: the shell itself, or the program of that name. They complain in different
words, and calculate with numbers of different widths. -/
inductive Writer where
  | shell
  | program
  deriving DecidableEq

namespace Writer

def width : Writer → NumberWidth
  | shell => .double
  | program => .extended

def notNumeric : Writer → String → String
  | shell, text => text ++ ": expected numeric value"
  | program, text => "'" ++ text ++ "': expected a numeric value"

def notConverted : Writer → String → String
  | shell, text => text ++ ": not completely converted"
  | program, text => "'" ++ text ++ "': value not completely converted"

def notInRange : Writer → String → String
  | shell, text => text ++ ": Numerical result out of range"
  | program, text => "'" ++ text ++ "': Numerical result out of range"

def unknown : Writer → String → String
  | shell, directive => directive ++ ": invalid directive"
  | program, directive => directive ++ ": invalid conversion specification"

end Writer

/-- What is written so far. -/
structure State where
  writer : Writer
  args : List String
  /-- Last first. -/
  written : List Char := []
  complaints : List String := []
  status : Nat := 0

/-- How writing ends before the format does. -/
inductive Stop where
  | ended
  | refused (problem : String)

abbrev Print := ExceptT Stop (StateM State)

def put (cs : List Char) : Print Unit :=
  modify fun s => { s with written := cs.reverse ++ s.written }

/-- The next argument, if there is one. -/
def argument? : Print (Option String) := do
  let s ← get
  set { s with args := s.args.tail }
  return s.args.head?

/-- A text in a field of the width that is asked for. -/
def padded (d : Directive) (cs : List Char) : List Char :=
  let pad := List.replicate (d.width - cs.length) ' '
  if d.left then cs ++ pad else pad ++ cs

/-- The digits of a number, with as many zeros before them as are asked for. -/
def digits (d : Directive) (base : Nat) (upper : Bool) (n : Nat) : List Char :=
  let ds := if n = 0 then ['0'] else Nat.toDigits base n
  let ds := if upper then ds.map Char.toUpper else ds
  match d.precision with
  | none => ds
  | some p =>
    let ds := if n = 0 && p = 0 then [] else ds
    List.replicate (p - ds.length) '0' ++ ds

/-- A number in its field, zeros after its sign where they fill the field. -/
def number (d : Directive) (mark : List Char) (digits : List Char) : List Char :=
  let zeros :=
    if d.zero && !d.left && d.precision.isNone then
      List.replicate (d.width - (mark.length + digits.length)) '0'
    else []
  padded d (mark ++ zeros ++ digits)

/-- Complains about an argument. -/
def complain (problem : Writer → String → String) (text : String) : Print Unit :=
  modify fun s => { s with complaints := s.complaints ++ [problem s.writer text], status := 1 }

/-- The number that an argument starts with. -/
def numeric (text : String) : Print Int := do
  match text.toList with
  | [] => return 0
  | q :: rest =>
    if q == '"' || q == '\x27' then return (rest.head?.map fun c => Int.ofNat c.toNat).getD 0
    else
      let cs := text.toList.dropWhile Arithmetic.isBlank
      let (negative, signless) := match cs with
        | '-' :: rest => (true, rest)
        | '+' :: rest => (false, rest)
        | cs => (false, cs)
      let (n, rest) := Arithmetic.numeral signless
      if rest.length == signless.length then complain Writer.notNumeric text
      else if !rest.isEmpty then complain Writer.notConverted text
      return if rest.length == signless.length then 0 else if negative then -n else n

def outOfRange (text : String) : Print Unit :=
  complain Writer.notInRange text

def signedArgument : Print Int := do
  let text := (← argument?).getD ""
  let n ← numeric text
  if Arithmetic.clamp n != n then outOfRange text
  return Arithmetic.clamp n

def unsignedArgument : Print Nat := do
  let text := (← argument?).getD ""
  let n ← numeric text
  if Arithmetic.wordSize ≤ n || n < -Arithmetic.wordSize then
    outOfRange text
    return Arithmetic.wordSize - 1
  else return (n % Arithmetic.wordSize).toNat

/-- The number with a fraction that an argument starts with. -/
def fractionArgument : Print Numeric := do
  let text := (← argument?).getD ""
  let width := (← get).writer.width
  match text.toList with
  | [] => return .zero
  | q :: rest =>
    if q == '"' || q == '\x27' then
      return (rest.head?.map fun c => Numeric.ofInt width c.toNat).getD .zero
    else
      match Numeric.read? width text.toList with
      | none =>
        complain Writer.notNumeric text
        return .zero
      | some found =>
        if !found.rest.isEmpty then complain Writer.notConverted text
        else if found.outOfRange then outOfRange text
        return found.value

/-- A number with a fraction, without its sign. -/
def fractionText (width : NumberWidth) (d : Directive) (c : Char) (n : Numeric) : List Char :=
  let text := match n with
    | .infinite _ => ['i', 'n', 'f']
    | .undefined _ => ['n', 'a', 'n']
    | .finite _ mantissa exponent =>
      let value := Numeric.fraction mantissa exponent
      let places := d.precision.getD 6
      match c.toLower with
      | 'f' => Numeric.fixed d.alternate places value
      | 'e' => Numeric.scientific d.alternate places value
      | 'g' => Numeric.shortest d.alternate places value
      | _ => Numeric.hexadecimal width d.alternate d.precision mantissa exponent
  if c.isUpper then text.map Char.toUpper else text

/-- A number with a fraction in its field. -/
def fractionField (width : NumberWidth) (d : Directive) (c : Char) (n : Numeric) : List Char :=
  let mark := if n.isNegative then ['-'] else if d.plus then ['+'] else if d.blank then [' '] else []
  let text := fractionText width d c n
  let isFinite := match n with
    | .finite .. => true
    | _ => false
  let (mark, text) := match c.toLower, isFinite with
    | 'a', true => (mark ++ text.take 2, text.drop 2)
    | _, _ => (mark, text)
  number { d with precision := none, zero := d.zero && isFinite } mark text

/-- The parts of a directive after its percent sign, and what comes after them. -/
def flags (d : Directive) : List Char → Directive × List Char
  | '#' :: cs => flags { d with alternate := true } cs
  | '-' :: cs => flags { d with left := true } cs
  | '+' :: cs => flags { d with plus := true } cs
  | ' ' :: cs => flags { d with blank := true } cs
  | '0' :: cs => flags { d with zero := true } cs
  | cs => (d, cs)

/-- A count that is written out or given as an argument. -/
def count (cs : List Char) : Print (Int × List Char) := do
  match cs with
  | '*' :: rest => return (← signedArgument, rest)
  | cs =>
    let (n, rest) := Arithmetic.digits 10 cs
    return (n, rest)

def directive (cs : List Char) : Print (Directive × List Char) := do
  let (d, cs) := flags {} cs
  let (width, cs) ← count cs
  let d := { d with width := width.natAbs, left := d.left || width < 0 }
  match cs with
  | '.' :: cs =>
    let (precision, cs) ← count cs
    return ({ d with precision := if precision < 0 then none else some precision.toNat }, cs)
  | cs => return (d, cs)

/-- What stands before a number for its sign. -/
def signMark (d : Directive) (n : Int) : List Char :=
  if n < 0 then ['-'] else if d.plus then ['+'] else if d.blank then [' '] else []

def cutText (d : Directive) (cs : List Char) : List Char :=
  match d.precision with
  | none => cs
  | some p => cs.take p

/-- Writes the next argument as a directive says. -/
def convert (start : List Char) (d : Directive) (c : Char) : Print Unit := do
  match c with
  | 's' => put (padded d (cutText d ((← argument?).getD "").toList))
  | 'b' =>
    let text := (← argument?).getD ""
    let (cs, ended) := unescaped text.length text.toList
    put (padded d (cutText d cs))
    if ended then throw .ended
  | 'c' =>
    put (padded d [((← argument?).bind (·.toList.head?)).getD '\x00'])
  | 'd' | 'i' =>
    let n ← signedArgument
    put (number d (signMark d n) (digits d 10 false n.natAbs))
  | 'u' => put (number d [] (digits d 10 false (← unsignedArgument)))
  | 'o' =>
    let n ← unsignedArgument
    let ds := digits d 8 false n
    put (number d [] (if d.alternate && ds.head? != some '0' then '0' :: ds else ds))
  | 'x' | 'X' =>
    let n ← unsignedArgument
    let mark := if d.alternate && n != 0 then ['0', c] else []
    put (number d mark (digits d 16 (c == 'X') n))
  | 'a' | 'A' | 'e' | 'E' | 'f' | 'F' | 'g' | 'G' =>
    let n ← fractionArgument
    put (fractionField (← get).writer.width d c n)
  | _ => throw (.refused ((← get).writer.unknown (String.ofList (start ++ [c]))))

/-- Writes the format once. -/
def pass : Nat → List Char → Print Unit
  | 0, _ => return ()
  | _, [] => return ()
  | fuel + 1, '\\' :: cs => do
    match escape? cs with
    | some (c, rest) =>
      put [c]
      pass fuel rest
    | none =>
      put ['\\']
      pass fuel cs
  | fuel + 1, '%' :: '%' :: cs => do
    put ['%']
    pass fuel cs
  | fuel + 1, '%' :: cs => do
    let (d, rest) ← directive cs
    match rest with
    | [] => throw (.refused "missing format character")
    | c :: rest =>
      convert ('%' :: cs.take (cs.length - rest.length - 1)) d c
      pass fuel rest
  | fuel + 1, c :: cs => do
    put [c]
    pass fuel cs

/-- Writes the format until the arguments are used up. -/
def passes (format : List Char) : Nat → Print Unit
  | 0 => return ()
  | fuel + 1 => do
    let before := (← get).args.length
    pass (format.length + 1) format
    let left := (← get).args.length
    if 0 < left && left < before then passes format fuel

/-- What `printf` writes, what it complains about and how it ends; the last is why it
was broken off. -/
def run (writer : Writer) (format : String) (args : List String) : State × Option String :=
  let (result, s) := (passes format.toList (args.length + 1)).run.run { writer, args }
  (s, match result with
    | .error (.refused problem) => some problem
    | _ => none)

/-- The text of a state. -/
def State.text (s : State) : String := String.ofList s.written.reverse

end Printf

end ScriptCache.Shell
