import ScriptCache.Shell.Arithmetic

/-! Numbers with a binary mantissa of limited size.

A number is read exactly and then rounded once, to the nearest that its width has and to
the even one of two that are as near. It is written exactly, too: rounding to a number of
digits starts from the value itself. -/
namespace ScriptCache.Shell

/-- What numbers there are: how many bits a mantissa has, the least exponent of its last bit,
and the exponent that no number reaches. -/
structure NumberWidth where
  bits : Nat
  least : Int
  limit : Nat
  deriving DecidableEq

namespace NumberWidth

def single : NumberWidth := ⟨24, -149, 128⟩

def double : NumberWidth := ⟨53, -1074, 1024⟩

def extended : NumberWidth := ⟨64, -16445, 16384⟩

end NumberWidth

inductive Numeric where
  /-- The mantissa times a power of two. -/
  | finite (negative : Bool) (mantissa : Nat) (exponent : Int)
  | infinite (negative : Bool)
  | undefined (negative : Bool)
  deriving DecidableEq

namespace Numeric

def zero : Numeric := finite false 0 0

def powerOf (base n : Nat) : Nat := Nat.pow base n

/-- A fraction times a power of a base, as a fraction. -/
def scaled (base : Nat) (exponent : Int) (fraction : Nat × Nat) : Nat × Nat :=
  if 0 ≤ exponent then (fraction.1 * powerOf base exponent.toNat, fraction.2)
  else (fraction.1, fraction.2 * powerOf base (-exponent).toNat)

/-- The natural number next to a fraction, the even one of two. -/
def nearest (fraction : Nat × Nat) : Nat :=
  let q := fraction.1 / fraction.2
  let twice := 2 * (fraction.1 % fraction.2)
  if fraction.2 < twice || (twice == fraction.2 && q % 2 == 1) then q + 1 else q

/-- The number next to a fraction. -/
def ofFraction (w : NumberWidth) (negative : Bool) (fraction : Nat × Nat) : Numeric :=
  if fraction.1 = 0 then finite negative 0 0
  else
    let estimate : Int := (Nat.log2 fraction.1 : Int) - (Nat.log2 fraction.2 : Int) - w.bits + 1
    let tooLow (e : Int) : Bool :=
      let (n, d) := scaled 2 (-e) fraction
      n < d * powerOf 2 (w.bits - 1)
    let e := if tooLow estimate then estimate - 1 else estimate
    let e := max e w.least
    let mantissa := nearest (scaled 2 (-e) fraction)
    if (w.limit : Int) ≤ (Nat.log2 mantissa : Int) + e && mantissa != 0 then infinite negative
    else finite negative mantissa e

/-- A number as a fraction, its sign aside. -/
def fraction (mantissa : Nat) (exponent : Int) : Nat × Nat :=
  scaled 2 exponent (mantissa, 1)

def ofInt (w : NumberWidth) (n : Int) : Numeric :=
  ofFraction w (n < 0) (n.natAbs, 1)

def isNegative : Numeric → Bool
  | finite negative .. | infinite negative | undefined negative => negative

def isZero : Numeric → Bool
  | finite _ mantissa _ => mantissa == 0
  | _ => false

def negate : Numeric → Numeric
  | finite negative m e => finite (!negative) m e
  | infinite negative => infinite !negative
  | undefined negative => undefined !negative

/-! ### Calculating -/

/-- A finite number as a fraction with its sign. -/
def signedFraction (negative : Bool) (mantissa : Nat) (exponent : Int) : Int × Nat :=
  let (n, d) := fraction mantissa exponent
  (if negative then -(n : Int) else n, d)

/-- The number next to a fraction with a sign. What is zero has the sign that is given. -/
def ofSigned (w : NumberWidth) (isNegativeZero : Bool) (value : Int × Nat) : Numeric :=
  if value.1 = 0 then finite isNegativeZero 0 0
  else ofFraction w (value.1 < 0) (value.1.natAbs, value.2)

def plus (w : NumberWidth) : Numeric → Numeric → Numeric
  | undefined negative, _ | _, undefined negative => undefined negative
  | infinite a, infinite b => if a = b then infinite a else undefined true
  | infinite a, finite .. | finite .., infinite a => infinite a
  | finite a m e, finite b n f =>
    let (x, d) := signedFraction a m e
    let (y, c) := signedFraction b n f
    ofSigned w (a && b) (x * c + y * d, d * c)

def times (w : NumberWidth) : Numeric → Numeric → Numeric
  | undefined negative, _ | _, undefined negative => undefined negative
  | infinite a, infinite b => infinite (a != b)
  | infinite a, finite b n _ | finite b n _, infinite a =>
    if n = 0 then undefined true else infinite (a != b)
  | finite a m e, finite b n f =>
    let (x, d) := signedFraction a m e
    let (y, c) := signedFraction b n f
    ofSigned w (a != b) (x * y, d * c)

/-- Whether one number is less than another. What is undefined is not. -/
def isLess : Numeric → Numeric → Bool
  | undefined _, _ | _, undefined _ => false
  | infinite a, infinite b => a && !b
  | infinite a, finite .. => a
  | finite .., infinite b => !b
  | finite a m e, finite b n f =>
    let (x, d) := signedFraction a m e
    let (y, c) := signedFraction b n f
    decide (x * c < y * d)

/-- Whether two numbers are the same, whatever the sign of a zero. -/
def isSame : Numeric → Numeric → Bool
  | undefined _, _ | _, undefined _ => false
  | x, y => !isLess x y && !isLess y x

/-! ### Reading -/

/-- What was read: the value, what comes after it, and whether it is out of range. -/
structure Reading where
  value : Numeric
  rest : List Char
  outOfRange : Bool := false

/-- The digits of a fraction: those before a point and those after it, and what comes then;
nothing if there are none. -/
def digitsOf (base : Nat) (cs : List Char) : Option (List Char × List Char × List Char) :=
  let isDigit (c : Char) := (Arithmetic.digit? base c).isSome
  let whole := cs.takeWhile isDigit
  let (part, rest) := match cs.drop whole.length with
    | '.' :: more =>
      let part := more.takeWhile isDigit
      (part, if whole.isEmpty && part.isEmpty then '.' :: more else more.drop part.length)
    | rest => ([], rest)
  if whole.isEmpty && part.isEmpty then none else some (whole, part, rest)

/-- The exponent after a mark, with what comes after it. -/
def exponentOf (mark : Char) (cs : List Char) : Int × List Char :=
  match cs with
  | c :: rest =>
    if c.toLower != mark then (0, cs)
    else
      let (negative, digits) := match rest with
        | '-' :: more => (true, more)
        | '+' :: more => (false, more)
        | more => (false, more)
      let (n, after) := Arithmetic.digits 10 digits
      if after.length == digits.length then (0, cs) else (if negative then -n else n, after)
  | [] => (0, [])

/-- A text without a word that it starts with, in letters of either case. -/
def afterWord? (word : String) (cs : List Char) : Option (List Char) :=
  if (cs.take word.length).map Char.toLower == word.toList then some (cs.drop word.length) else none

/-- How great the power of ten of an exponent can be without its being certain that the
number is zero or infinite. -/
def exponentLimit (digits : Nat) : Int := 6000 + digits

/-- The number that digits with an exponent are. -/
def ofDigits (w : NumberWidth) (negative : Bool) (base : Nat) (step : Nat)
    (whole part : List Char) (exponent : Int) : Numeric × Bool :=
  let (n, _) := Arithmetic.digits base (whole ++ part)
  let power : Int := exponent - part.length * (if base == 16 then 4 else 1)
  let bound := exponentLimit (whole.length + part.length) * (if base == 16 then 4 else 1)
  let power := max (min power bound) (-bound)
  if n = 0 then (finite negative 0 0, false)
  else
    let exact := scaled step power (n, 1)
    let value := ofFraction w negative exact
    match value with
    | finite _ m e =>
      let isSubnormal := m < powerOf 2 (w.bits - 1)
      let (a, b) := fraction m e
      (value, isSubnormal && a * exact.2 != exact.1 * b)
    | _ => (value, true)

/-- The number that a text starts with; nothing if it starts with none. -/
def read? (w : NumberWidth) (text : List Char) : Option Reading :=
  let cs := text.dropWhile Arithmetic.isBlank
  let (negative, cs) := match cs with
    | '-' :: rest => (true, rest)
    | '+' :: rest => (false, rest)
    | cs => (false, cs)
  let plain : Option Reading :=
    (digitsOf 10 cs).map fun (whole, part, rest) =>
      let (exponent, rest) := exponentOf 'e' rest
      let (value, outOfRange) := ofDigits w negative 10 10 whole part exponent
      { value, rest, outOfRange }
  match cs with
  | '0' :: x :: more =>
    if x == 'x' || x == 'X' then
      match digitsOf 16 more with
      | some (whole, part, rest) =>
        let (exponent, rest) := exponentOf 'p' rest
        let (value, outOfRange) := ofDigits w negative 16 2 whole part exponent
        some { value, rest, outOfRange }
      | none => plain
    else plain
  | _ =>
    match afterWord? "infinity" cs, afterWord? "inf" cs, afterWord? "nan" cs with
    | some rest, _, _ | none, some rest, _ => some { value := infinite negative, rest }
    | none, none, some rest => some { value := undefined negative, rest }
    | none, none, none => plain

/-! ### Writing -/

/-- A number's digits before and after the point, rounded to so many after it. -/
def fixedDigits (places : Nat) (value : Nat × Nat) : List Char × List Char :=
  let digits := Nat.toDigits 10 (nearest (scaled 10 places value))
  let digits := List.replicate (places + 1 - digits.length) '0' ++ digits
  (digits.take (digits.length - places), digits.drop (digits.length - places))

/-- The power of ten of a fraction's first digit. -/
def decimalExponent (value : Nat × Nat) : Int :=
  if value.1 = 0 then 0
  else
    let estimate : Int := ((Nat.toDigits 10 value.1).length : Int) - (Nat.toDigits 10 value.2).length
    let (n, d) := scaled 10 (-estimate) value
    if n < d then estimate - 1 else estimate

/-- A number's first digit, so many digits after it, and its power of ten. -/
def scientificDigits (places : Nat) (value : Nat × Nat) : List Char × List Char × Int :=
  let exponent := decimalExponent value
  let rounded := Nat.toDigits 10 (nearest (scaled 10 (places - exponent) value))
  let (rounded, exponent) :=
    if places + 1 < rounded.length then (rounded.dropLast, exponent + 1) else (rounded, exponent)
  let rounded := if value.1 = 0 then List.replicate (places + 1) '0' else rounded
  (rounded.take 1, rounded.drop 1, exponent)

/-- An exponent with its sign, two digits at least if it is one of ten. -/
def exponentText (mark : Char) (least : Nat) (exponent : Int) : List Char :=
  let digits := Nat.toDigits 10 exponent.natAbs
  mark :: (if exponent < 0 then '-' else '+') :: (List.replicate (least - digits.length) '0' ++ digits)

/-- Digits with a point between them where there are any after it, or where it is wanted. -/
def joined (point : Bool) (whole part : List Char) : List Char :=
  whole ++ (if part.isEmpty && !point then [] else '.' :: part)

def fixed (point : Bool) (places : Nat) (value : Nat × Nat) : List Char :=
  let (whole, part) := fixedDigits places value
  joined point whole part

def scientific (point : Bool) (places : Nat) (value : Nat × Nat) : List Char :=
  let (whole, part, exponent) := scientificDigits places value
  joined point whole part ++ exponentText 'e' 2 exponent

/-- The shorter of the two ways for so many digits, without zeros at the end unless they are
wanted. -/
def shortest (keepZeros : Bool) (digits : Nat) (value : Nat × Nat) : List Char :=
  let digits := max digits 1
  let (first, part, exponent) := scientificDigits (digits - 1) value
  let trimmed (part : List Char) :=
    if keepZeros then part else (part.reverse.dropWhile (· == '0')).reverse
  if -4 ≤ exponent && exponent < digits then
    let (whole, part) := fixedDigits ((digits : Int) - 1 - exponent).toNat value
    joined keepZeros whole (trimmed part)
  else joined keepZeros first (trimmed part) ++ exponentText 'e' 2 exponent

/-- A number in hexadecimal digits with a power of two. The first digit has as many bits as
are left when the others have four each. -/
def hexadecimal (w : NumberWidth) (point : Bool) (places : Option Nat) (mantissa : Nat)
    (exponent : Int) : List Char :=
  let first := (w.bits - 1) % 4 + 1
  let size := (w.bits - first) / 4
  let normal := if mantissa = 0 then 0 else max (w.bits - 1 - Nat.log2 mantissa) 0
  let shift := if mantissa = 0 then 0 else min (normal : Int) (exponent - w.least)
  let mantissa := mantissa <<< shift.toNat
  let exponent := if mantissa = 0 then 0 else exponent - shift + size * 4
  let (mantissa, size, exact) := match places with
    | some p => if p < size then (nearest (mantissa, powerOf 16 (size - p)), p, true) else (mantissa, size, false)
    | none => (mantissa, size, false)
  let digits := Nat.toDigits 16 mantissa
  let digits := List.replicate (size + 1 - digits.length) '0' ++ digits
  let whole := digits.take (digits.length - size)
  let part := digits.drop (digits.length - size)
  let part := match places with
    | none => (part.reverse.dropWhile (· == '0')).reverse
    | some p => if exact then part else part ++ List.replicate (p - part.length) '0'
  ['0', 'x'] ++ joined point whole part ++ exponentText 'p' 1 exponent

end Numeric

end ScriptCache.Shell
