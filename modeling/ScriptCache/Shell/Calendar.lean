import ScriptCache.Shell.Arithmetic

/-! Points of time and how they are written.

A point of time is a number of nanoseconds since 1970. `Calendar.text` shows one after a
format; `Calendar.read?` reads one that is described by a date, a time of day, a weekday and
steps from there, in any order. There is one zone, and texts may name others. -/
namespace ScriptCache.Shell.Calendar

def nanosecondsPerSecond : Int := 1000000000
def secondsPerDay : Int := 86400

/-- The year, the month and the day of the month of a number of days since 1970. -/
def civil (days : Int) : Int × Nat × Nat :=
  let z := days + 719468
  let era := z.fdiv 146097
  let day := (z - era * 146097).toNat
  let yearOfEra := (day - day / 1460 + day / 36524 - day / 146096) / 365
  let dayOfYear := day - (365 * yearOfEra + yearOfEra / 4 - yearOfEra / 100)
  let shifted := (5 * dayOfYear + 2) / 153
  let month := if shifted < 10 then shifted + 3 else shifted - 9
  let year := (yearOfEra : Int) + era * 400 + (if month ≤ 2 then 1 else 0)
  (year, month, dayOfYear - (153 * shifted + 2) / 5 + 1)

/-- The days since 1970 of a year, a month and a day. Months and days may run over. -/
def daysOf (year month day : Int) : Int :=
  let year := year + (month - 1).fdiv 12
  let month := (month - 1).fmod 12 + 1
  let y := if month ≤ 2 then year - 1 else year
  let era := y.fdiv 400
  let yearOfEra := y - era * 400
  let shifted := if 2 < month then month - 3 else month + 9
  let dayOfYear := (153 * shifted + 2) / 5 + day - 1
  era * 146097 + (yearOfEra * 365 + yearOfEra / 4 - yearOfEra / 100 + dayOfYear) - 719468

def isLeap (year : Int) : Bool :=
  year.fmod 4 == 0 && (year.fmod 100 != 0 || year.fmod 400 == 0)

def daysInMonth (year : Int) (month : Nat) : Nat :=
  if month == 2 then (if isLeap year then 29 else 28) else if [4, 6, 9, 11].contains month then 30 else 31

def dayNames : List String := ["Sunday", "Monday", "Tuesday", "Wednesday", "Thursday", "Friday", "Saturday"]

def monthNames : List String :=
  ["January", "February", "March", "April", "May", "June", "July", "August", "September", "October", "November",
    "December"]

/-- A point of time as clocks and calendars have it. -/
structure Moment where
  seconds : Int
  nanosecond : Nat
  year : Int
  month : Nat
  day : Nat
  second : Nat
  weekday : Nat
  /-- How many days of the year are over. -/
  dayOfYear : Nat

def moment (time : Int) : Moment :=
  let seconds := time.fdiv nanosecondsPerSecond
  let days := seconds.fdiv secondsPerDay
  let (year, month, day) := civil days
  { seconds, nanosecond := (time.fmod nanosecondsPerSecond).toNat, year, month, day
    second := (seconds.fmod secondsPerDay).toNat, weekday := ((days + 4).fmod 7).toNat
    dayOfYear := (days - daysOf year 1 1).toNat }

/-- The year that a week starting on Monday belongs to, and its number there. -/
def weekOf (m : Moment) : Int × Int :=
  let monday : Int := ((m.weekday + 6) % 7 : Nat)
  let thursday : Int := m.dayOfYear - monday + 3
  let size : Int := if isLeap m.year then 366 else 365
  if thursday < 0 then
    let before : Int := if isLeap (m.year - 1) then 366 else 365
    (m.year - 1, (thursday + before) / 7 + 1)
  else if size ≤ thursday then (m.year + 1, 1)
  else (m.year, thursday / 7 + 1)

/-! ### Writing -/

/-- How one part of a format is written. -/
structure Field where
  /-- What fills a part up: zeros, blanks or nothing. -/
  fill : Option Char := none
  upper : Bool := false
  opposite : Bool := false
  width : Option Nat := none
  colons : Nat := 0
  /-- The letter that asks for another way of writing. There is none, but not every part may have
  it. -/
  other : Option Char := none

namespace Field

/-- A text in a field. -/
def word (f : Field) (opposite : String → String) (text : String) : String :=
  let text := if f.opposite then opposite text else if f.upper then text.toUpper else text
  let fill := if f.fill == some '0' || f.fill == some '+' then '0' else ' '
  let missing := if f.fill == some '-' then 0 else f.width.getD 0 - text.length
  String.ofList (List.replicate missing fill) ++ text

/-- A number in a field that has so many digits, filled up with a character, unless it says
otherwise. -/
def number (f : Field) (digits : Nat) (fill : Char) (n : Int) : String :=
  let fill := match f.fill with
    | some '+' => '0'
    | some c => c
    | none => fill
  let plain := toString n.natAbs
  let sign := if n < 0 then "-" else ""
  let width := f.width.getD digits
  let width := if fill == '-' then 0 else max width (if f.fill == some '_' && f.width.isNone then digits else 0)
  let missing := width - plain.length - sign.length
  if fill == '0' then sign ++ String.ofList (List.replicate missing '0') ++ plain
  else String.ofList (List.replicate missing ' ') ++ sign ++ plain

end Field

/-- Reads the marks and the width of a field. -/
def fieldOf (f : Field) : List Char → Field × List Char
  | '-' :: cs => fieldOf { f with fill := some '-' } cs
  | '_' :: cs => fieldOf { f with fill := some '_' } cs
  | '0' :: cs => fieldOf { f with fill := some '0' } cs
  | '+' :: cs => fieldOf { f with fill := some '+' } cs
  | '^' :: cs => fieldOf { f with upper := true } cs
  | '#' :: cs => fieldOf { f with opposite := true } cs
  | cs =>
    let digits := cs.takeWhile Char.isDigit
    let cs := cs.drop digits.length
    let f := if digits.isEmpty then f else { f with width := (String.ofList digits).toNat? }
    match cs with
    | 'E' :: more => ({ f with other := some 'E' }, more)
    | 'O' :: more => ({ f with other := some 'O' }, more)
    | more =>
      let colons := more.takeWhile (· == ':')
      ({ f with colons := colons.length }, more.drop colons.length)

/-- The formats that stand for others. -/
def longer? (c : Char) : Option String :=
  match c with
  | 'c' => some "%a %b %e %H:%M:%S %Y"
  | 'D' | 'x' => some "%m/%d/%y"
  | 'F' => some "%Y-%m-%d"
  | 'T' | 'X' => some "%H:%M:%S"
  | 'R' => some "%H:%M"
  | 'r' => some "%I:%M:%S %p"
  | _ => none

/-- The digits of a part of a second. -/
def fractionText (f : Field) (nanosecond : Nat) : String :=
  let width := match f.width with
    | some 0 | none => 9
    | some n => n
  let digits := Nat.toDigits 10 nanosecond
  let digits := List.replicate (9 - digits.length) '0' ++ digits
  let kept := ((digits.take width).reverse.dropWhile (· == '0')).reverse
  let kept := if kept.isEmpty then ['0'] else kept
  let fill := if f.fill == some '_' then ' ' else '0'
  String.ofList (kept ++ List.replicate (width - kept.length) fill)

/-- One part of a format, if it is one that stands for itself. -/
def part? (m : Moment) (f : Field) (c : Char) : Option String :=
  let hour := m.second / 3600
  let hour12 : Nat := if hour % 12 == 0 then 12 else hour % 12
  let upper (text : String) : Option String := some (f.word String.toUpper text)
  match c with
  | 'Y' => some (f.number 4 '0' m.year)
  | 'C' => some (f.number 2 '0' (m.year.fdiv 100))
  | 'y' => some (f.number 2 '0' (m.year.fmod 100))
  | 'G' => some (f.number 4 '0' (weekOf m).1)
  | 'g' => some (f.number 2 '0' ((weekOf m).1.fmod 100))
  | 'V' => some (f.number 2 '0' (weekOf m).2)
  | 'm' => some (f.number 2 '0' m.month)
  | 'd' => some (f.number 2 '0' m.day)
  | 'e' => some (f.number 2 '_' m.day)
  | 'H' => some (f.number 2 '0' hour)
  | 'I' => some (f.number 2 '0' hour12)
  | 'k' => some (f.number 2 '_' hour)
  | 'l' => some (f.number 2 '_' hour12)
  | 'M' => some (f.number 2 '0' (m.second / 60 % 60 : Nat))
  | 'S' => some (f.number 2 '0' (m.second % 60 : Nat))
  | 'N' => some (fractionText f m.nanosecond)
  | 's' => some (f.number 1 '0' m.seconds)
  | 'j' => some (f.number 3 '0' (m.dayOfYear + 1 : Nat))
  | 'q' => some (f.number 1 '0' ((m.month - 1) / 3 + 1 : Nat))
  | 'U' => some (f.number 2 '0' ((m.dayOfYear + 7 - m.weekday) / 7 : Nat))
  | 'W' => some (f.number 2 '0' ((m.dayOfYear + 7 - (m.weekday + 6) % 7) / 7 : Nat))
  | 'u' => some (f.number 1 '0' (if m.weekday == 0 then 7 else m.weekday : Nat))
  | 'w' => some (f.number 1 '0' m.weekday)
  | 'p' => some (f.word String.toLower (if hour < 12 then "AM" else "PM"))
  | 'P' => some (f.word id (if hour < 12 then "am" else "pm"))
  | 'a' => upper ((dayNames.getD m.weekday "").take 3).toString
  | 'A' => upper (dayNames.getD m.weekday "")
  | 'b' | 'h' => upper ((monthNames.getD (m.month - 1) "").take 3).toString
  | 'B' => upper (monthNames.getD (m.month - 1) "")
  | 'Z' => some (f.word String.toLower "UTC")
  | 'z' => some (if f.colons == 0 then "+0000" else if f.colons == 1 then "+00:00"
      else if f.colons == 2 then "+00:00:00" else "+00")
  | 'n' => some (f.word id "\n")
  | 't' => some (f.word id "\t")
  | '%' => some (f.word id "%")
  | _ => none

/-- Whether a part may be written as a field says. -/
def isAllowed (f : Field) (isBare : Bool) (c : Char) : Bool :=
  match f.other with
  | some 'E' => "cCxXyY".toList.contains c
  | some _ => "bBdeghGHIjklmMNqSuUVwWyY".toList.contains c
  | none => c != '%' || isBare

/-- A point of time after a format whose formats for others nest no deeper than a number. -/
def expanded (m : Moment) : Nat → Nat → List Char → String
  | 0, _, _ => ""
  | _, 0, _ => ""
  | _, _, [] => ""
  | depth + 1, fuel + 1, '%' :: rest =>
    let (f, more) := fieldOf {} rest
    match more with
    | [] => String.ofList ('%' :: rest)
    | c :: after =>
      let after := if c == '%' && rest.length != more.length then more else after
      let isKnown := isAllowed f (rest.length == more.length) c
      let text := match if isKnown then part? m f c else none, if isKnown then longer? c else none with
        | some text, _ => text
        | none, some format => f.word id (expanded m depth (4 * format.length) format.toList)
        | none, none => String.ofList ('%' :: rest.take (rest.length - after.length))
      text ++ expanded m (depth + 1) fuel after
  | depth + 1, fuel + 1, c :: rest => String.singleton c ++ expanded m (depth + 1) fuel rest

/-- A point of time after a format. -/
def text (format : String) (time : Int) : String :=
  expanded (moment time) 2 (format.length + 1) format.toList

/-! ### Reading -/

inductive Token where
  /-- A number: its sign, its digits and those after a point. -/
  | number (sign : Option Char) (digits : List Char) (part : Option (List Char))
  /-- A word in small letters. -/
  | word (text : String)
  | mark (c : Char)
  deriving DecidableEq

/-- The tokens of a text. -/
def tokens : Nat → List Char → List Token
  | 0, _ => []
  | _, [] => []
  | fuel + 1, c :: rest =>
    if Arithmetic.isBlank c then tokens fuel rest
    else if c == '(' then tokens fuel ((rest.dropWhile (· != ')')).drop 1)
    else
      let signed := (c == '+' || c == '-') && (rest.dropWhile Arithmetic.isBlank).head?.any Char.isDigit
      let (sign, cs) := if signed then (some c, rest.dropWhile Arithmetic.isBlank) else (none, c :: rest)
      let digits := cs.takeWhile Char.isDigit
      if !digits.isEmpty then
        let cs := cs.drop digits.length
        match cs with
        | point :: d :: more =>
          if (point == '.' || point == ',') && d.isDigit then
            let part := (d :: more).takeWhile Char.isDigit
            .number sign digits (some part) :: tokens fuel ((d :: more).drop part.length)
          else .number sign digits none :: tokens fuel cs
        | cs => .number sign digits none :: tokens fuel cs
      else if c.isAlpha then
        let letters := (c :: rest).takeWhile fun c => c.isAlpha || c == '.'
        let word := String.ofList ((letters.filter (· != '.')).map Char.toLower)
        .word word :: tokens fuel (rest.drop (letters.length - 1))
      else .mark c :: tokens fuel rest

/-- The number that digits spell. -/
def value (digits : List Char) : Int := ((String.ofList digits).toNat?.getD 0 : Nat)

def signedValue (sign : Option Char) (digits : List Char) : Int :=
  if sign == some '-' then -value digits else value digits

/-- The nanoseconds of the digits after a point. -/
def nanoseconds (part : Option (List Char)) : Int :=
  value (((part.getD []) ++ List.replicate 9 '0').take 9)

/-- The month that a word names. -/
def month? (word : String) : Option Nat :=
  (monthNames.findIdx? fun name =>
    name.toLower == word || (name.toLower.take 3).toString == word || (word == "sept" && name == "September")).map (· + 1)

/-- The weekday that a word names. -/
def weekday? (word : String) : Option Nat :=
  let others := [("tues", 2), ("wednes", 3), ("thur", 4), ("thurs", 4)]
  match dayNames.findIdx? fun name => name.toLower == word || (name.toLower.take 3).toString == word with
  | some n => some n
  | none => others.lookup word

/-- The count that a word is. -/
def ordinal? (word : String) : Option Int :=
  [("last", -1), ("this", 0), ("next", 1), ("first", 1), ("third", 3), ("fourth", 4), ("fifth", 5), ("sixth", 6),
    ("seventh", 7), ("eighth", 8), ("ninth", 9), ("tenth", 10), ("eleventh", 11), ("twelfth", 12)].lookup word

/-- How far a step goes. -/
structure Step where
  months : Int := 0
  days : Int := 0
  seconds : Int := 0
  nanoseconds : Int := 0

namespace Step

def times (n : Int) (s : Step) : Step :=
  ⟨n * s.months, n * s.days, n * s.seconds, n * s.nanoseconds⟩

def plus (a b : Step) : Step :=
  ⟨a.months + b.months, a.days + b.days, a.seconds + b.seconds, a.nanoseconds + b.nanoseconds⟩

end Step

/-- The step that a unit is. -/
def unit? (word : String) : Option Step :=
  let word := if word.endsWith "s" && 3 < word.length then (word.dropEnd 1).toString else word
  match word with
  | "year" => some { months := 12 }
  | "month" => some { months := 1 }
  | "fortnight" => some { days := 14 }
  | "week" => some { days := 7 }
  | "day" => some { days := 1 }
  | "hour" => some { seconds := 3600 }
  | "minute" | "min" => some { seconds := 60 }
  | "second" | "sec" => some { seconds := 1 }
  | _ => none

/-- Minutes by which zones are ahead. -/
def zone? (word : String) : Option Int :=
  match word.toList with
  | [c] =>
    if c == 'z' then some 0
    else if c < 'j' then some (60 * (c.toNat - 96))
    else if 'k' ≤ c && c ≤ 'm' then some (60 * (c.toNat - 97))
    else if 'n' ≤ c && c ≤ 'y' then some (-60 * (c.toNat - 109))
    else none
  | _ =>
  [("utc", 0), ("gmt", 0), ("ut", 0), ("wet", 0), ("cet", 60), ("met", 60), ("eet", 120), ("msk", 180),
    ("est", -300), ("edt", -240), ("cst", -360), ("cdt", -300), ("mst", -420), ("mdt", -360), ("pst", -480),
    ("pdt", -420), ("bst", 60), ("cest", 120), ("mest", 120), ("eest", 180), ("jst", 540), ("ist", 330)].lookup word

/-- What was read so far of a description. -/
structure Draft where
  date : Option (Int × Int × Int) := none
  /-- The second of the day, with its nanoseconds. -/
  time : Option (Int × Int) := none
  /-- Minutes by which the zone is ahead. -/
  zone : Option Int := none
  weekday : Option (Int × Nat) := none
  step : Step := {}
  hasStep : Bool := false
  /-- Whether the year of the date was named. -/
  hasYear : Bool := false

/-- The year that so many digits mean. -/
def yearOf (digits : List Char) : Int :=
  let n := value digits
  if digits.length == 2 then (if n < 69 then n + 2000 else n + 1900) else n

def Draft.withDate (d : Draft) (year month day : Int) (hasYear : Bool) : Option Draft :=
  if d.date.isSome then none else some { d with date := some (year, month, day), hasYear }

def Draft.withTime (d : Draft) (hour minute : Int) (second : Int × Int) : Option Draft :=
  if d.time.isSome then none
  else if hour < 24 && minute < 60 && second.1 < 60 then
    some { d with time := some (hour * 3600 + minute * 60 + second.1, second.2) }
  else none

def Draft.withStep (d : Draft) (s : Step) : Draft :=
  { d with step := d.step.plus s, hasStep := true }

/-- Reads the zone after a time. -/
def afterTime (d : Draft) : List Token → Option (Draft × List Token)
  | .number (some sign) digits none :: rest =>
    let (minutes, rest) := match rest with
      | .mark ':' :: .number none more none :: rest => (value digits * 60 + value more, rest)
      | rest => if digits.length ≤ 2 then (value digits * 60, rest)
        else (value digits / 100 * 60 + value digits % 100, rest)
    if d.zone.isSome || 24 * 60 < minutes then none
    else some ({ d with zone := some (if sign == '-' then -minutes else minutes) }, rest)
  | rest => some (d, rest)

/-- The hour of twelve that a word turns into one of the day. -/
def meridian? (word : String) (hour : Int) : Option Int :=
  if hour < 1 || 12 < hour then none
  else if word == "am" then some (hour % 12)
  else if word == "pm" then some (hour % 12 + 12)
  else none

/-- A time of day after its hour and minute. -/
def clock (d : Draft) (hour minute : Int) (second : Int × Int) : List Token → Option (Draft × List Token)
  | .word w :: rest =>
    match meridian? w hour with
    | some hour => (d.withTime hour minute second).map (·, rest)
    | none =>
      if w == "am" || w == "pm" then none
      else (d.withTime hour minute second).map (·, .word w :: rest)
  | rest => (d.withTime hour minute second).bind fun d => afterTime d rest

/-- A number that stands alone: a date or a time without marks between its parts, or a year. -/
def pureNumber (d : Draft) (digits : List Char) : Option Draft :=
  let n := value digits
  match d.date with
  | some (_, month, day) =>
    if !d.hasYear && !d.hasStep && (d.time.isSome || 2 < digits.length) then
      some { d with date := some (n, month, day), hasYear := true }
    else if 4 < digits.length then none
    else if digits.length ≤ 2 then d.withTime n 0 (0, 0)
    else d.withTime (n / 100) (n % 100) (0, 0)
  | none =>
    if 4 < digits.length then
      d.withDate (yearOf (digits.take (digits.length - 4))) (n / 100 % 100) (n % 100) true
    else if digits.length ≤ 2 then d.withTime n 0 (0, 0)
    else d.withTime (n / 100) (n % 100) (0, 0)

/-- A step with a sign in front of it, which the word after it may turn around. -/
def stepped (d : Draft) (n : Int) (s : Step) : List Token → Draft × List Token
  | .word "ago" :: rest => (d.withStep (s.times (-n)), rest)
  | rest => (d.withStep (s.times n), rest)

/-- Reads one item of a description; the year of today stands in where none is named. -/
def item (year : Int) (d : Draft) : List Token → Option (Draft × List Token)
  | .number none y none :: .number (some '-') m none :: .number (some '-') n none :: rest => do
    let d ← d.withDate (yearOf y) (value m) (value n) true
    match rest with
    | .word "t" :: .number none h none :: rest => return (d, .number none h none :: rest)
    | rest => return (d, rest)
  | .number none h none :: .mark ':' :: .number none m none :: .mark ':' :: .number none s part :: rest =>
    clock d (value h) (value m) (value s, nanoseconds part) rest
  | .number none h none :: .mark ':' :: .number none m none :: rest => clock d (value h) (value m) (0, 0) rest
  | .number none a none :: .mark '/' :: .number none b none :: .mark '/' :: .number none c none :: rest =>
    if 4 ≤ a.length then (d.withDate (value a) (value b) (value c) true).map (·, rest)
    else (d.withDate (yearOf c) (value a) (value b) true).map (·, rest)
  | .number none a none :: .mark '/' :: .number none b none :: rest =>
    (d.withDate year (value a) (value b) false).map (·, rest)
  | .number none n none :: .mark '-' :: .word w :: .number (some '-') y none :: rest => do
    let month ← month? w
    return (← d.withDate (yearOf y) month (value n) true, rest)
  | .number sign n part :: .word w :: rest =>
    match unit? w, month? w, sign, part with
    | some s, _, _, part =>
      if part.isSome && s.seconds != 1 then none
      else
        let n := signedValue sign n
        let more : Step := { nanoseconds := if sign == some '-' then -nanoseconds part else nanoseconds part }
        let back := rest.head? == some (.word "ago")
        let (d, rest) := stepped d n s rest
        some (if part.isSome then d.withStep (more.times (if back then -1 else 1)) else d, rest)
    | none, some month, none, none =>
      match rest with
      | .number none y none :: more =>
        match more with
        | .mark ':' :: _ => (d.withDate year month (value n) false).map (·, rest)
        | _ =>
          if 2 < y.length then (d.withDate (yearOf y) month (value n) true).map (·, more)
          else (d.withDate year month (value n) false).map (·, rest)
      | rest => (d.withDate year month (value n) false).map (·, rest)
    | none, none, none, none =>
      if w == "am" || w == "pm" then clock d (value n) 0 (0, 0) (.word w :: rest)
      else if (weekday? w).isSome && rest.head? != some (.mark ',') then
        some ({ d with weekday := (weekday? w).map (value n, ·) }, rest)
      else (pureNumber d n).map (·, .word w :: rest)
    | _, _, _, _ => none
  | .number none n none :: rest => (pureNumber d n).map (·, rest)
  | .word w :: rest =>
    match month? w, weekday? w, unit? w, ordinal? w with
    | some month, _, _, _ =>
      match rest with
      | .number none n none :: .mark ',' :: .number none y none :: rest =>
        (d.withDate (yearOf y) month (value n) true).map (·, rest)
      | .number none n none :: rest => (d.withDate year month (value n) false).map (·, rest)
      | .number (some '-') n none :: .number (some '-') y none :: rest =>
        (d.withDate (yearOf y) month (value n) true).map (·, rest)
      | _ => none
    | none, some day, _, _ =>
      if d.weekday.isSome then none
      else some ({ d with weekday := some (0, day) }, if rest.head? == some (.mark ',') then rest.tail else rest)
    | none, none, some s, _ => some (stepped d 1 s rest)
    | none, none, none, some n =>
      match rest with
      | .word w :: rest =>
        match unit? w, weekday? w with
        | some s, _ => some (stepped d n s rest)
        | none, some day => if d.weekday.isSome then none else some ({ d with weekday := some (n, day) }, rest)
        | none, none => none
      | _ => none
    | none, none, none, none =>
      match w, zone? w with
      | "now", _ | "today", _ => some (d.withStep {}, rest)
      | "tomorrow", _ => some (stepped d 1 { days := 1 } rest)
      | "yesterday", _ => some (stepped d (-1) { days := 1 } rest)
      | _, some minutes => if d.zone.isSome then none else some ({ d with zone := some minutes }, rest)
      | _, none => none
  | _ => none

/-- Reads all items of a description. -/
def items (year : Int) : Nat → Draft → List Token → Option Draft
  | _, d, [] => some d
  | 0, _, _ => none
  | fuel + 1, d, tokens => (item year d tokens).bind fun (d, rest) => items year fuel d rest

/-- The point of time that a description means, at another one. -/
def Draft.time? (d : Draft) (now : Int) : Option Int := do
  let m := moment now
  let (year, month, day) := d.date.getD (m.year, (m.month : Int), (m.day : Int))
  if d.date.isSome && (month < 1 || 12 < month || day < 1 || daysInMonth year month.toNat < day.toNat) then none
  else
    let keepsTime := d.time.isSome || (d.hasStep && d.date.isNone && d.weekday.isNone)
    let (second, nanosecond) := if keepsTime then d.time.getD ((m.second : Int), (m.nanosecond : Int)) else (0, 0)
    let days := daysOf year month day
    let days := match d.weekday, d.date with
      | some (count, weekday), none =>
        let today := ((days + 4).fmod 7)
        let ahead := ((weekday : Int) - today).fmod 7
        let count := if 0 < count && today != weekday then count - 1 else count
        days + ahead + 7 * count
      | _, _ => days
    let (year, month, day) := civil days
    let days := daysOf year ((month : Int) + d.step.months) day + d.step.days
    let seconds := days * secondsPerDay + second + d.step.seconds - d.zone.getD 0 * 60
    return seconds * nanosecondsPerSecond + nanosecond + d.step.nanoseconds

/-- The point of time that a text describes, at another one. -/
def read? (now : Int) (text : String) : Option Int :=
  match (text.toList.dropWhile Arithmetic.isBlank) with
  | '@' :: cs =>
    let cs := cs.dropWhile Arithmetic.isBlank
    match tokens (cs.length + 1) cs with
    | [.number sign digits part] =>
      let size := value digits * nanosecondsPerSecond + nanoseconds part
      some (if sign == some '-' then -size else size)
    | _ => none
  | cs => do
    let m := moment now
    let found := tokens (cs.length + 1) cs
    let d ← items m.year (found.length + 1) {} found
    let d := if found.isEmpty then { d with time := some (0, 0) } else d
    d.time? now

/-- The point of time that digits without marks spell: a month, a day, an hour and a minute, with
a year before them and seconds after them if they are there. -/
def stamp? (now : Int) (text : String) : Option Int := do
  let (digits, second) ← match text.splitOn "." with
    | [digits] => some (digits.toList, some 0)
    | [digits, second] => some (digits.toList, if second.length == 2 then second.toNat? else none)
    | _ => none
  let second ← second
  if digits.length % 2 == 1 || digits.length < 8 || 12 < digits.length || !digits.all Char.isDigit then none
  else
    let pair (n : Nat) : Int := value ((digits.reverse.drop (2 * n)).take 2).reverse
    let year := match digits.length with
      | 12 => value (digits.take 4)
      | 10 => yearOf (digits.take 2)
      | _ => (moment now).year
    let d : Draft := { date := some (year, pair 3, pair 2) }
    let d ← d.withTime (pair 1) (pair 0) (second, 0)
    d.time? now

end ScriptCache.Shell.Calendar
