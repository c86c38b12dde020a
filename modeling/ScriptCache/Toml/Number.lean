import ScriptCache.Toml.Scalar

/-! Numbers, dates and times of TOML.

Digits may be separated by single underscores. A decimal number has no leading zeros; an
integer fits 64 bits with sign; a float that is too large is refused unless it is
negative. Dates and times are those of the calendar and the clock, a leap second
included. A number is read as a date or a time if it can be, else as a float, else as an
integer. -/
namespace ScriptCache.Toml

/-- A nonempty run of digits, single underscores between them left out. -/
def digitRun (ok : Char → Bool) : List Char → List Char × List Char
  | [] => ([], [])
  | '_' :: d :: rest =>
    if ok d then
      let (digits, rest) := digitRun ok rest
      (d :: digits, rest)
    else ([], '_' :: d :: rest)
  | d :: rest =>
    if ok d then
      let (digits, rest) := digitRun ok rest
      (d :: digits, rest)
    else ([], d :: rest)

/-- Digits of which the first is no underscore. -/
def digits (ok : Char → Bool) : Parser (List Char)
  | d :: rest => if ok d then some (digitRun ok (d :: rest)) else none
  | [] => none

/-- The number that digits of a base denote. -/
def valueOf (base : Nat) (ds : List Char) : Nat :=
  ds.foldl (fun n d => base * n + (hexDigit? d).getD 0) 0

/-- Whether a text starts with a minus, and what follows the sign if there is one. -/
def signed : List Char → Bool × List Char
  | '-' :: rest => (true, rest)
  | '+' :: rest => (false, rest)
  | cs => (false, cs)

/-- The digits of a decimal number: a lone zero, or no zero at the front. -/
def decimal : Parser (List Char)
  | '0' :: rest => some (['0'], rest)
  | cs => digits Char.isDigit cs

/-- Whether an integer has 64 bits with sign. -/
def fits64 (n : Int) : Bool :=
  Int64.minValue.toInt ≤ n && n ≤ Int64.maxValue.toInt

/-- The number with a sign that digits of a base denote, if it has 64 bits. -/
def integerOf (negative : Bool) (base : Nat) (ds : List Char) : Option Value :=
  if 64 < (ds.dropWhile (· == '0')).length then none
  else
    let n : Int := if negative then -(valueOf base ds : Int) else valueOf base ds
    if fits64 n then some (.integer n) else none

/-- The digits of a base behind a mark such as `0x`. -/
def based (mark : List Char) (base : Nat) : Parser Value := fun cs => do
  let rest ← token? mark cs
  let (ds, rest) ← digits (fun c => (hexDigit? c).any (· < base)) rest
  (integerOf false base ds).map (·, rest)

def integer : Parser Value := fun cs =>
  match cs with
  | '0' :: 'x' :: _ => based ['0', 'x'] 16 cs
  | '0' :: 'o' :: _ => based ['0', 'o'] 8 cs
  | '0' :: 'b' :: _ => based ['0', 'b'] 2 cs
  | _ => do
    let (negative, rest) := signed cs
    let (ds, rest) ← decimal rest
    (integerOf negative 10 ds).map (·, rest)

/-- The least number that rounds to infinity as a float of 64 bits. -/
def floatLimit : Nat := 1 <<< 1024 - 1 <<< 970

/-- Whether digits times a power of ten reach `floatLimit`. That is an integer, so what stands
before the point decides. -/
def overflows (ds : List Char) (exponent : Int) : Bool :=
  let ds := ds.dropWhile (· == '0')
  let magnitude := ds.length + exponent
  if ds.isEmpty || magnitude < 300 then false
  else if 320 < magnitude then true
  else
    let whole := ds.take magnitude.toNat
    floatLimit ≤ valueOf 10 whole * Nat.pow 10 (magnitude.toNat - whole.length)

/-- The size of an exponent that digits denote. Digits after the first few are left out: what
they could add is of no account. -/
def exponentSize (ds : List Char) : Nat :=
  ds.foldl (fun n d => if n < 0x10000 then 10 * n + (hexDigit? d).getD 0 else n) 0

/-- The exponent of a float. -/
def exponent : Parser Int := fun cs =>
  match cs with
  | e :: rest =>
    if e == 'e' || e == 'E' then do
      let (negative, rest) := signed rest
      let (ds, rest) ← digits Char.isDigit rest
      some (if negative then -(exponentSize ds : Int) else exponentSize ds, rest)
    else none
  | [] => none

/-- A float with digits: a fraction, an exponent or both. -/
def numericFloat : Parser Value := fun cs => do
  let (negative, rest) := signed cs
  let (whole, rest) ← decimal rest
  let (fraction, rest) ← match rest with
    | '.' :: rest => digits Char.isDigit rest
    | _ => some ([], rest)
  let (power, rest) ← match exponent rest with
    | some (n, rest) => some (n, rest)
    | none => if fraction.isEmpty then none else some (0, rest)
  if !negative && overflows (whole ++ fraction) (power - fraction.length) then none
  else some (.float, rest)

/-- Infinity and the value that is no number. -/
def specialFloat : Parser Value := fun cs => do
  let (_, rest) := signed cs
  let rest ← (token? ['i', 'n', 'f'] rest).or (token? ['n', 'a', 'n'] rest)
  some (.float, rest)

/-! ### Dates and times -/

/-- So many digits, their number within bounds. -/
def fixedDigits (count low high : Nat) : Parser Nat := fun cs =>
  let ds := cs.take count
  if ds.length = count && ds.all Char.isDigit then
    let n := valueOf 10 ds
    if low ≤ n && n ≤ high then some (n, cs.drop count) else none
  else none

def daysIn (year month : Nat) : Nat :=
  if month = 2 then
    if year % 4 = 0 && (year % 100 ≠ 0 || year % 400 = 0) then 29 else 28
  else if month = 4 || month = 6 || month = 9 || month = 11 then 30
  else 31

/-- A date, and what follows it. -/
def date (cs : List Char) : Option (List Char) := do
  let (year, rest) ← fixedDigits 4 0 9999 cs
  let rest ← token? ['-'] rest
  let (month, rest) ← fixedDigits 2 1 12 rest
  let rest ← token? ['-'] rest
  let (_, rest) ← fixedDigits 2 1 (daysIn year month) rest
  some rest

/-- A time of day, and what follows it. -/
def time (cs : List Char) : Option (List Char) := do
  let (_, rest) ← fixedDigits 2 0 23 cs
  let rest ← token? [':'] rest
  let (_, rest) ← fixedDigits 2 0 59 rest
  let rest ← token? [':'] rest
  let (_, rest) ← fixedDigits 2 0 60 rest
  match rest with
  | '.' :: d :: more => if d.isDigit then some (more.dropWhile Char.isDigit) else none
  | '.' :: [] => none
  | _ => some rest

/-- The offset of a time from the prime meridian, and what follows it. -/
def offset (cs : List Char) : Option (List Char) :=
  match cs with
  | 'Z' :: rest => some rest
  | 'z' :: rest => some rest
  | sign :: rest =>
    if sign == '+' || sign == '-' then do
      let (_, rest) ← fixedDigits 2 0 23 rest
      let rest ← token? [':'] rest
      let (_, rest) ← fixedDigits 2 0 59 rest
      some rest
    else none
  | [] => none

/-- A date with a time and an offset where they follow, or a time alone. -/
def moment : Parser Value := fun cs =>
  match date cs with
  | some rest =>
    let rest := match rest with
      | c :: more =>
        if c == 'T' || c == 't' || c == ' ' then
          match time more with
          | some rest => (offset rest).getD rest
          | none => rest
        else rest
      | [] => rest
    some (.moment, rest)
  | none => (time cs).map fun rest => (.moment, rest)

/-- A number of any kind. -/
def number : Parser Value := fun cs =>
  moment cs <|> numericFloat cs <|> specialFloat cs <|> integer cs

/-- Whether a text is read as a number up to its end, for the examples. -/
def isNumber (s : String) : Bool :=
  match number s.toList with
  | some (_, []) => true
  | _ => false

example : ["1_000", "0xFf", "-0", "1.5e-3", "-1e400", "+inf", "1979-05-27 07:32:00.5Z",
    "2024-02-29", "07:32:60"].all isNumber = true := by decide +kernel
example : ["1__0", "007", "0XFF", "1.", ".5", "1e400", "25:00:00", "2023-02-29",
    "9223372036854775808"].any isNumber = false := by decide +kernel

end ScriptCache.Toml
