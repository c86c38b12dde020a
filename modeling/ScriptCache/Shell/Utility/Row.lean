import ScriptCache.Shell.Format
import ScriptCache.Shell.Utility.Call

/-! Rows of numbers.

A row goes from one number in equal steps as far as another, or on and on. Whole numbers are
counted exactly; others are rounded at each step, and a number that is past the last one only by
rounding still belongs to the row. -/
namespace ScriptCache.Shell.Utility

/-- The numbers of a row are calculated with this width. -/
abbrev RowNumber.width : NumberWidth := .extended

/-- A number of a row as it was written. -/
structure RowNumber where
  value : Numeric
  /-- How many characters it has in plain digits. -/
  size : Int := 0
  /-- How many digits stand after the point; nothing if it is not written in plain digits. -/
  places : Option Int := none

namespace RowNumber

def one : RowNumber where
  value := .finite false 1 0
  size := 1
  places := some 0

/-- Whether a number is whole as it is written. -/
def isWhole (n : RowNumber) : Bool := n.places == some 0

def isFinite (n : RowNumber) : Bool :=
  match n.value with
  | .finite .. => true
  | _ => false

/-- The whole number that decimal digits and an exponent after them spell, as far as it counts. -/
def exponentAfter (cs : List Char) : Int :=
  (Numeric.exponentOf 'e' ('e' :: cs)).1

/-- What plain digits with an exponent take in size, and their places. -/
def measured (cs : List Char) : Int × Option Int :=
  let e := cs.takeWhile fun c => c != 'e' && c != 'E'
  let hasExponent := e.length < cs.length
  let whole := e.takeWhile (· != '.')
  let hasPoint := whole.length < e.length
  let part : Int := (e.length - whole.length - 1 : Nat)
  let endsInDigit := whole.getLast?.any Char.isDigit
  let pointSize : Int := if !hasPoint then 0 else if part == 0 then -1 else if endsInDigit then 0 else 1
  let places := if hasPoint then part else 0
  let size := (e.length : Int) + pointSize
  if !hasExponent then (size, some places)
  else
    let exponent := exponentAfter (cs.drop (e.length + 1))
    if exponent < 0 then
      let more : Int := if hasPoint then (if part == 0 then 1 else 0) else 1
      (size + more - exponent, some (places - exponent))
    else
      let left := places - min places exponent
      let less : Int := if hasPoint && left == 0 && part != 0 then 1 else 0
      (size - less + (exponent - min part exponent), some left)

/-- The number that an argument is; or what is wrong with it. -/
def ofText (text : String) : Except String RowNumber :=
  match Numeric.read? width text.toList with
  | some ⟨.undefined _, [], _⟩ => .error ("invalid 'not-a-number' argument: " ++ quoted text)
  | some ⟨value, [], _⟩ =>
    let cs := text.toList.dropWhile fun c => Arithmetic.isBlank c || c == '+'
    let isPlain := !cs.any fun c => c == 'x' || c == 'X'
    match value with
    | .finite .. =>
      if isPlain then
        let (size, places) := measured cs
        .ok { value, size, places }
      else .ok { value, places := if cs.any fun c => c == '.' || c == 'p' then none else some 0 }
    | _ => .ok { value, places := some 0 }
  | _ => .error ("invalid floating point argument: " ++ quoted text)

end RowNumber

/-! ### Rows of whole numbers -/

/-- How many numbers are written at once. -/
def rowBlock : Nat := 256

/-- The decimal digits of a number in front of some bytes. -/
def digitsBefore (n : Nat) (after : Bytes) : Bytes :=
  if n < 10 then UInt8.ofNat (48 + n) :: after
  else digitsBefore (n / 10) (UInt8.ofNat (48 + n % 10) :: after)

/-- Some numbers of a row from one on, with a mark between them. -/
def countedBlock (mark : UInt8) (first step : Nat) : Nat → Bytes → Bytes
  | 0, after => after
  | count + 1, after => countedBlock mark first step count (digitsBefore (first + count * step) (mark :: after))

/-- Writes a row of whole numbers, with a mark between two and a newline at the end. -/
def countUp (mark : UInt8) (step : Nat) (last : Option Nat) (first : Nat) : Act Nat :=
  let rec go : Nat → Nat → Act Nat
    | 0, _ => return 0
    | fuel + 1, n => do
      match last.map fun last => (last - n) / step with
      | none =>
        let _ ← put (countedBlock mark n step rowBlock [])
        go fuel (n + rowBlock * step)
      | some left =>
        if left < rowBlock then put (countedBlock mark n step left (digitsBefore (n + left * step) [10]))
        else
          let _ ← put (countedBlock mark n step rowBlock [])
          go fuel (n + rowBlock * step)
  go forever first

/-! ### Rows of any numbers -/

/-- How the numbers of a row are written. -/
structure RowFormat where
  before : List Char := []
  directive : Printf.Directive
  letter : Char
  after : List Char := []

namespace RowFormat

/-- A number without what stands around it. -/
def plain (f : RowFormat) (n : Numeric) : List Char :=
  Printf.fractionField RowNumber.width f.directive f.letter n

def text (f : RowFormat) (n : Numeric) : String :=
  String.ofList (f.before ++ f.plain n ++ f.after)

/-- The format that a text spells; or what is wrong with it. -/
def ofText (format : String) : Except String RowFormat :=
  let rec plain : List Char → List Char → Except String (List Char × List Char)
    | _, [] => .error ("format " ++ quoted format ++ " has no % directive")
    | seen, '%' :: '%' :: rest => plain ('%' :: seen) rest
    | seen, '%' :: rest => .ok (seen.reverse, rest)
    | seen, c :: rest => plain (c :: seen) rest
  let rec ending : List Char → List Char → Except String (List Char)
    | seen, [] => .ok seen.reverse
    | seen, '%' :: '%' :: rest => ending ('%' :: seen) rest
    | _, '%' :: _ => .error ("format " ++ quoted format ++ " has too many % directives")
    | seen, c :: rest => ending (c :: seen) rest
  do
    let (before, rest) ← plain [] format.toList
    let run := rest.takeWhile fun c => "-+#0 \x27".toList.contains c
    let (d, _) := Printf.flags {} (run.filter (· != '\x27'))
    let rest := rest.drop run.length
    let (width, rest) := Arithmetic.digits 10 rest
    let (precision, rest) := match rest with
      | '.' :: more =>
        let (n, more) := Arithmetic.digits 10 more
        (some n, more)
      | rest => (none, rest)
    let rest := match rest with
      | 'L' :: more => more
      | rest => rest
    match rest with
    | [] => .error ("format " ++ quoted format ++ " ends in %")
    | c :: rest =>
      if "aAeEfFgG".toList.contains c then
        return { before, directive := { d with width, precision }, letter := c, after := ← ending [] rest }
      else .error ("format " ++ quoted format ++ " has unknown %" ++ String.singleton c ++ " directive")

/-- The format that shows as many places as the first number and the step have, in fields as wide
as the widest number if they are to be equal. -/
def ofNumbers (equal : Bool) (first step last : RowNumber) : RowFormat :=
  match first.places, step.places, last.places with
  | some a, some b, some c =>
    let places := max a b
    let directive : Printf.Directive := { precision := some places.toNat }
    if !equal then { directive, letter := 'f' }
    else
      let point (had : Int) : Int := if had == 0 && places != 0 then 1 else 0
      let firstSize := first.size + (places - a) + point a
      let lastSize := last.size + (places - c) + point c - (if c != 0 && places == 0 then 1 else 0)
      { directive := { directive with width := (max firstSize lastSize).toNat, zero := true }, letter := 'f' }
  | _, _, _ => { directive := {}, letter := 'g' }

end RowFormat

/-- Writes a row of any numbers. The one after the last that is in reach is written, too, if it
reads as the last one and not as the one before it. -/
def stepUp (f : RowFormat) (mark : String) (first step last : Numeric) : Act Nat :=
  let w := RowNumber.width
  let isPast (x : Numeric) : Bool :=
    if Numeric.isLess step .zero then Numeric.isLess x last else Numeric.isLess last x
  let rec go : Nat → Nat → Numeric → Act Nat
    | 0, _, _ => return 0
    | fuel + 1, i, x => do
      let _ ← putText (f.text x)
      let next := Numeric.plus w first (Numeric.times w (Numeric.ofInt w i) step)
      let readsAsLast : Bool := match Numeric.read? w (f.plain next) with
        | some ⟨value, [], _⟩ => Numeric.isSame value last
        | _ => false
      if !isPast next then
        let _ ← putText mark
        go fuel (i + 1) next
      else if readsAsLast && f.plain next != f.plain x then putText (mark ++ f.text next ++ "\n")
      else putText "\n"
  if isPast first then return 0 else go forever 1 first

/-! ### Calling -/

def seqUsage : Usage where
  name := "seq"
  options := [flag 'w' "equal-width", valued 'f' "format", valued 's' "separator"]
  permutes := false

/-- The options of `seq` and its operands, of which a negative number may be the first. -/
def seqOptions : List String → List String → List String × List String
  | seen, [] => (seen.reverse, [])
  | seen, arg :: rest =>
    match arg.toList with
    | '-' :: c :: more =>
      let takesNext := (c :: more).dropLast.all (· == 'w') && ((c :: more).getLast?.any fun c => c == 's' || c == 'f')
      if c.isDigit || c == '.' then (seen.reverse, arg :: rest)
      else if arg == "--" then (seen.reverse, rest)
      else if takesNext || "--separator".startsWith arg || "--format".startsWith arg then
        match rest with
        | value :: rest => seqOptions (value :: arg :: seen) rest
        | [] => ((arg :: seen).reverse, [])
      else seqOptions (arg :: seen) rest
    | _ => (seen.reverse, arg :: rest)

/-- The largest step by which whole numbers are counted exactly. -/
def countedStep : Nat := 200

/-- The first number, the step and the last number of a row; or what is wrong with them. -/
def rowBounds (operands : List String) : Except String (RowNumber × RowNumber × RowNumber) := do
  match operands with
  | [last] => return (.one, .one, ← RowNumber.ofText last)
  | [first, last] => return (← RowNumber.ofText first, .one, ← RowNumber.ofText last)
  | first :: step :: last :: _ =>
    let first ← RowNumber.ofText first
    let size ← RowNumber.ofText step
    if size.value.isZero then throw ("invalid Zero increment value: " ++ quoted step)
    return (first, size, ← RowNumber.ofText last)
  | [] => throw "missing operand"

/-- A row of whole numbers that is written in digits: its start, step and end. -/
def plainRow? (operands : List String) : Option (Nat × Nat × Nat) := do
  let numbers ← operands.mapM decimal?
  match numbers with
  | [last] => return (1, 1, last)
  | [first, last] => return (first, 1, last)
  | [first, step, last] => if 0 < step && step ≤ countedStep then return (first, step, last) else none
  | _ => none

/-- The natural number next to a finite number that is not negative. -/
def naturalOf? : Numeric → Option Nat
  | .finite negative mantissa exponent =>
    if negative then none else some (Numeric.nearest (Numeric.fraction mantissa exponent))
  | _ => none

def seq (args : List String) : Act Nat :=
  let (flags, operands) := seqOptions [] args
  withOptions seqUsage flags fun found _ => do
    let mark := (valueOf? found 's').getD "\n"
    let isPlain := !has found 'w' && !has found 'f' && mark.length == 1
    let markByte := (Latin.toBytes mark).headD 10
    match operands with
    | _ :: _ :: _ :: extra :: _ => extraOperand "seq" extra
    | [] => misused "seq" "missing operand"
    | operands =>
      match (valueOf? found 'f').mapM RowFormat.ofText with
      | .error problem =>
        complain "seq" problem
        return 1
      | .ok format =>
        if format.isSome && has found 'w' then
          misused "seq" "format string may not be specified when printing equal width strings"
        else
          let counted := plainRow? operands
          match isPlain && counted.any (fun (first, _, last) => first ≤ last), counted with
          | true, some (first, step, last) => countUp markByte step (some last) first
          | _, _ =>
            match rowBounds operands with
            | .error problem => misused "seq" problem
            | .ok (first, step, last) =>
              let general := stepUp (format.getD (.ofNumbers (has found 'w') first step last)) mark
                first.value step.value last.value
              let isCounted := isPlain && first.isWhole && step.isWhole && last.isWhole &&
                !Numeric.isLess last.value .zero
              match isCounted, naturalOf? first.value, naturalOf? step.value, naturalOf? last.value with
              | true, some start, some size, goal =>
                let isInReach := goal.all fun goal => start ≤ goal
                if 0 < size && size ≤ countedStep && isInReach then
                  countUp markByte size goal start
                else general
              | _, _, _, _ => general

end ScriptCache.Shell.Utility
