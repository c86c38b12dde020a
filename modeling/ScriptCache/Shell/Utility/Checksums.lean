import ScriptCache.Shell.Arithmetic
import ScriptCache.Shell.Checksum.Blake
import ScriptCache.Shell.Checksum.Md5
import ScriptCache.Shell.Checksum.Sha
import ScriptCache.Shell.Checksum.Sm3
import ScriptCache.Shell.Checksum.Sum
import ScriptCache.Shell.Utility.Call

/-! Utilities that compute and verify checksums. -/
namespace ScriptCache.Shell.Utility

/-- A checksum that is written in hexadecimal digits: its name, how many bits it has, and
whether it may have fewer. -/
structure Checksum where
  label : String
  bits : Nat
  cuttable : Bool := false
  compute : Nat → Bytes → Bytes

def checksums : List (String × Checksum) :=
  [("md5", { label := "MD5", bits := 128, compute := fun _ => Checksum.md5 }),
    ("sha1", { label := "SHA1", bits := 160, compute := fun _ => Checksum.sha1 }),
    ("sha224", { label := "SHA224", bits := 224, compute := fun _ => Checksum.sha224 }),
    ("sha256", { label := "SHA256", bits := 256, compute := fun _ => Checksum.sha256 }),
    ("sha384", { label := "SHA384", bits := 384, compute := fun _ => Checksum.sha384 }),
    ("sha512", { label := "SHA512", bits := 512, compute := fun _ => Checksum.sha512 }),
    ("blake2b", { label := "BLAKE2b", bits := 512, cuttable := true, compute := Checksum.blake2b }),
    ("sm3", { label := "SM3", bits := 256, compute := fun _ => Checksum.sm3 })]

namespace Checksum

/-- The checksum of some content in so many bits. -/
def hex (c : Checksum) (bits : Nat) (content : Bytes) : String :=
  Bytes.hex (c.compute (bits / 8) content)

def tag (c : Checksum) (bits : Nat) : String :=
  if bits == c.bits then c.label else c.label ++ "-" ++ toString bits

end Checksum

/-! ### Names in lines -/

/-- A name with its backslashes and newlines escaped, and whether it has any. -/
def lineName (name : String) : Bool × String :=
  let special (c : Char) : Bool := c == '\\' || c == '\n' || c == '\r'
  (name.toList.any special, String.ofList (name.toList.flatMap fun c =>
    match c with
    | '\\' => ['\\', '\\']
    | '\n' => ['\\', 'n']
    | '\r' => ['\\', 'r']
    | c => [c]))

/-- The name that an escaped name stands for. -/
def fromLineName? : List Char → Option (List Char)
  | [] => some []
  | '\\' :: '\\' :: rest => (fromLineName? rest).map ('\\' :: ·)
  | '\\' :: 'n' :: rest => (fromLineName? rest).map ('\n' :: ·)
  | '\\' :: 'r' :: rest => (fromLineName? rest).map ('\r' :: ·)
  | '\\' :: _ => none
  | c :: rest => (fromLineName? rest).map (c :: ·)

/-! ### Verifying -/

/-- What a line says: the checksum, how many bits of it, its digits and the name of a file. -/
structure Claim where
  checksum : Checksum
  bits : Nat
  digits : String
  name : String

def isHexDigit (c : Char) : Bool := (Arithmetic.digit? 16 c).isSome

/-- What a line with the name of a checksum says. -/
def taggedClaim? (known : List Checksum) (cs : List Char) : Option Claim :=
  known.findSome? fun c =>
    if cs.take c.label.length != c.label.toList then none
    else
      let rest := cs.drop c.label.length
      let (bits, rest) := match c.cuttable, rest with
        | true, '-' :: more =>
          let digits := more.takeWhile Char.isDigit
          ((decimal? (String.ofList digits)).getD 0, more.drop digits.length)
        | _, rest => (c.bits, rest)
      let rest := match rest with
        | ' ' :: more => more
        | rest => rest
      match rest with
      | '(' :: more =>
        let after := (more.reverse.takeWhile (· != ')')).reverse
        let name := more.take (more.length - after.length - 1)
        let digits := match after.dropWhile Arithmetic.isBlank with
          | '=' :: digits => digits.dropWhile Arithmetic.isBlank
          | _ => []
        if after.length < more.length && digits.length == bits / 4 && 0 < bits && digits.all isHexDigit then
          some ⟨c, bits, String.ofList digits, String.ofList name⟩
        else none
      | _ => none

/-- What a line with digits and a name says. -/
def plainClaim? (c : Checksum) (cs : List Char) : Option Claim :=
  let digits := cs.takeWhile isHexDigit
  let size := 4 * digits.length
  let fits := if c.cuttable then size % 8 == 0 && 8 ≤ size && size ≤ c.bits
    else size == c.bits
  match fits, cs.drop digits.length with
  | true, blank :: rest =>
    if !Arithmetic.isBlank blank then none
    else
      let name := match rest with
        | ' ' :: name | '*' :: name => name
        | name => name
      if name.isEmpty then none else some ⟨c, size, String.ofList digits, String.ofList name⟩
  | _, _ => none

/-- What a line says; nothing if it is not written as one should be. -/
def claim? (tagged : List Checksum) (plain : Option Checksum) (line : String) : Option Claim := do
  let cs := line.toList.dropWhile fun c => c == ' ' || c == '\t'
  let (isEscaped, cs) := match cs with
    | '\\' :: rest => (true, rest)
    | cs => (false, cs)
  let found ← (taggedClaim? tagged cs).orElse fun () => plain.bind fun c => plainClaim? c cs
  if isEscaped then do
    let name ← fromLineName? found.name.toList
    return { found with name := String.ofList name }
  else return found

/-- How verifying is told about. -/
structure Verifying where
  name : String
  tagged : List Checksum
  plain : Option Checksum
  ignoresMissing : Bool
  silent : Bool
  quiet : Bool
  warns : Bool
  strict : Bool

/-- How many lines were what. -/
structure Verified where
  proper : Nat := 0
  improper : Nat := 0
  wrong : Nat := 0
  unread : Nat := 0
  right : Nat := 0

/-- Verifies what one line says. -/
def verifyClaim (v : Verifying) (claim : Claim) (counts : Verified) : Act Verified := do
  let counts := { counts with proper := counts.proper + 1 }
  let (isEscaped, shown) := lineName claim.name
  let show_ (text : String) : Act Unit := do
    let _ ← putText ((if isEscaped then "\\" else "") ++ shown ++ ": " ++ text ++ "\n")
  match ← content claim.name with
  | .error e =>
    if v.ignoresMissing && e == .notFound then return counts
    else
      complain v.name (cannotRead claim.name e)
      if !v.silent then show_ "FAILED open or read"
      return { counts with unread := counts.unread + 1 }
  | .ok bytes =>
    let matched := claim.checksum.hex claim.bits bytes == claim.digits.toLower
    if !v.silent && !(matched && v.quiet) then show_ (if matched then "OK" else "FAILED")
    return if matched then { counts with right := counts.right + 1 } else { counts with wrong := counts.wrong + 1 }

/-- Verifies what the lines of a file say. -/
def verifyLines (v : Verifying) (label operand display : String) : Nat → Verified → List String → Act Verified
  | _, counts, [] => return counts
  | n, counts, line :: rest => do
    let line := if line.endsWith "\r" then (line.dropEnd 1).toString else line
    let counts ←
      if line.isEmpty || line.startsWith "#" then pure counts
      else
        match (claim? v.tagged v.plain line).filter fun claim => operand != "-" || claim.name != "-" with
        | some claim => verifyClaim v claim counts
        | none => do
          if v.warns then
            complain v.name (plainPath display ++ ": " ++ toString n ++ ": improperly formatted " ++ label ++
              " checksum line")
          pure { counts with improper := counts.improper + 1 }
    verifyLines v label operand display (n + 1) counts rest

/-- Verifies what a file says. -/
def verify (v : Verifying) (label operand : String) : Act Nat := do
  let display := if operand == "-" then "standard input" else operand
  match ← content operand with
  | .error e =>
    complain v.name (cannotRead operand e)
    return 1
  | .ok bytes =>
    let counts ← verifyLines v label operand display 1 {} (textLines bytes)
    if counts.proper == 0 then
      complain v.name (plainPath display ++ ": no properly formatted checksum lines found")
      return 1
    else
      let warn (n : Nat) (one several : String) : Act Unit :=
        if n == 0 || v.silent then return ()
        else complain v.name ("WARNING: " ++ toString n ++ " " ++ if n == 1 then one else several)
      warn counts.improper "line is improperly formatted" "lines are improperly formatted"
      warn counts.unread "listed file could not be read" "listed files could not be read"
      warn counts.wrong "computed checksum did NOT match" "computed checksums did NOT match"
      let none_ := counts.right == 0
      if v.ignoresMissing && none_ && !v.silent then
        complain v.name (plainPath display ++ ": no file was verified")
      return if none_ || counts.wrong != 0 || counts.unread != 0 || (v.strict && counts.improper != 0) then 1 else 0

/-! ### Calls -/

/-- The options of all utilities for checksums. -/
def checksumOptions : List Opt :=
  [flag 'c' "check", wordFlag '\x01' "ignore-missing", wordFlag '\x02' "quiet", wordFlag '\x03' "status",
    wordFlag '\x04' "strict", flag 'w' "warn", wordFlag '\x05' "tag", flag 'z' "zero"]

/-- The length that an option asks for; or what is wrong with it. -/
def checksumBits (text : String) : Except (List String) Nat :=
  match decimal? text with
  | none => .error ["invalid length: " ++ quoted text]
  | some n =>
    if n % 8 != 0 then .error ["invalid length: " ++ quoted text, "length is not a multiple of 8"]
    else if 512 < n then
      .error ["invalid length: " ++ quoted text, "maximum digest length for 'BLAKE2b' is 512 bits"]
    else .ok (if n == 0 then 512 else n)

/-- What is wrong with options that go with verifying only, or only without it. -/
def verifyingProblem? (checks : Bool) (found : List (Char × String)) : Option String :=
  let tone := lastOf? found ['\x02', '\x03', 'w']
  let only (option : String) : Option String :=
    some ("the --" ++ option ++ " option is meaningful only when verifying checksums")
  if checks then
    if has found 'z' then some "the --zero option is not supported when verifying checksums"
    else if has found '\x05' then some "the --tag option is meaningless when verifying checksums"
    else if has found 'b' || has found 't' then
      some "the --binary and --text options are meaningless when verifying checksums"
    else none
  else if has found '\x01' then only "ignore-missing"
  else if tone == some '\x03' then only "status"
  else if tone == some 'w' then only "warn"
  else if tone == some '\x02' then only "quiet"
  else if has found '\x04' then only "strict"
  else none

def verifyingOf (name : String) (tagged : List Checksum) (plain : Option Checksum)
    (found : List (Char × String)) : Verifying :=
  let tone := lastOf? found ['\x02', '\x03', 'w']
  { name, tagged, plain, ignoresMissing := has found '\x01', silent := tone == some '\x03'
    quiet := tone == some '\x02' || tone == some '\x03', warns := tone == some 'w', strict := has found '\x04' }

/-- Writes the checksums of files. -/
def writeChecksums (name : String) (c : Checksum) (bits : Nat) (tagged binary zero : Bool) (operands : List String) :
    Act Nat :=
  eachContent name "standard input" operands cannotRead fun operand bytes => do
    let (isEscaped, shown) := if zero then (false, operand) else lineName operand
    let digits := c.hex bits bytes
    let line := if tagged then c.tag bits ++ " (" ++ shown ++ ") = " ++ digits
      else digits ++ (if binary then " *" else "  ") ++ shown
    let _ ← putText ((if isEscaped then "\\" else "") ++ line ++ if zero then "\x00" else "\n")

/-- A utility for one checksum. -/
def checksum (name kind : String) (args : List String) : Act Nat :=
  match checksums.lookup kind with
  | none => return 1
  | some c =>
    let options := checksumOptions ++ [flag 'b' "binary", flag 't' "text"] ++
      if c.cuttable then [valued 'l' "length"] else []
    withOptions { name, options } args fun found operands => do
      match (valueOf? found 'l').map checksumBits with
      | some (.error problems) =>
        problems.forM (complain name)
        return 1
      | length =>
        let bits? := match length with
          | some (.ok n) => some n
          | _ => none
        let checks := has found 'c'
        let tagged := has found '\x05'
        let binary := lastOf? found ['b', 't', '\x05']
        if tagged && binary == some 't' then misused name "--tag does not support --text mode"
        else
          match verifyingProblem? checks found with
          | some problem => misused name problem
          | none =>
            if checks then
              worst ((sources operands).map (verify (verifyingOf name [c] (some c) found) c.label))
            else writeChecksums name c (bits?.getD c.bits) tagged (binary == some 'b') (has found 'z') operands

/-! ### Short checksums -/

/-- Writes checksums of few bits. -/
def writeSums (name kind : String) (ending : String) (operands : List String) : Act Nat :=
  eachContent name "standard input" operands cannotRead fun operand bytes => do
    let blocks (size : Nat) : Nat := (bytes.length + size - 1) / size
    let sums := match kind with
      | "bsd" =>
        let digits := toString (Checksum.turningSum bytes)
        String.ofList (List.replicate (5 - digits.length) '0') ++ digits ++ " " ++ padLeft 5 (toString (blocks 1024))
      | "sysv" => toString (Checksum.plainSum bytes) ++ " " ++ toString (blocks 512)
      | _ => toString (Checksum.cyclic bytes) ++ " " ++ toString bytes.length
    let _ ← putText (sums ++ (if operands.isEmpty then "" else " " ++ operand) ++ ending)

def sum (args : List String) : Act Nat :=
  withOptions { name := "sum", options := [flag 'r' "", flag 's' "sysv"] } args fun found operands =>
    writeSums "sum" (if lastOf? found ['r', 's'] == some 's' then "sysv" else "bsd") "\n" operands

/-- The names of the checksums that one utility knows. -/
def checksumKinds : List String :=
  ["bsd", "sysv", "crc"] ++ checksums.map Prod.fst

def cksum (args : List String) : Act Nat :=
  withOptions { name := "cksum", options := checksumOptions ++ [valued 'a' "algorithm", valued 'l' "length",
      wordFlag '\x06' "untagged", flag 'b' "binary", flag 't' "text", wordFlag '\x07' "debug"] } args
    fun found operands => do
      let asked := valueOf? found 'a'
      let kind := asked.getD "crc"
      let checks := has found 'c'
      match (if checksumKinds.contains kind then some kind else none) with
      | none =>
        complain "cksum" ("invalid argument " ++ quoted kind ++ " for '--algorithm'")
        Act.say 2 ("Valid arguments are:\n" ++ String.join (checksumKinds.map fun k => "  - '" ++ k ++ "'\n"))
        hinted 1 "cksum"
      | some kind =>
        match (valueOf? found 'l').map checksumBits, checksums.lookup kind with
        | some (.error problems), _ =>
          problems.forM (complain "cksum")
          return 1
        | length, c =>
          let bits? := match length with
            | some (.ok n) => some n
            | _ => none
          if bits?.isSome && kind != "blake2b" then
            misused "cksum" "--length is only supported with --algorithm=blake2b"
          else if checks && asked.isSome && c.isNone then
            complain "cksum" "--check is not supported with --algorithm=\x7bbsd,sysv,crc\x7d"
            return 1
          else
            let untagged := lastOf? found ['\x05', '\x06'] == some '\x06'
            if !checks && has found 't' && !untagged then
              misused "cksum" "--text mode is only supported with --untagged"
            else
              match verifyingProblem? checks found, c with
              | some problem, _ => misused "cksum" problem
              | none, c =>
                if checks then
                  let tagged := match asked, c with
                    | some _, some c => [c]
                    | _, _ => checksums.map Prod.snd
                  worst ((sources operands).map
                    (verify (verifyingOf "cksum" tagged (if asked.isSome then c else none) found)
                      ((c.map (·.label)).getD "CRC")))
                else
                  match c with
                  | some c =>
                    writeChecksums "cksum" c (bits?.getD c.bits) (!untagged)
                      (lastOf? found ['b', 't'] == some 'b') (has found 'z') operands
                  | none => writeSums "cksum" kind (if has found 'z' then "\x00" else "\n") operands

end ScriptCache.Shell.Utility
