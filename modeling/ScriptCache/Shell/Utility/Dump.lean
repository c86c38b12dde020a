import ScriptCache.Shell.Dump
import ScriptCache.Shell.Utility.Call

/-! The utility that shows bytes as numbers. -/
namespace ScriptCache.Shell.Utility
open Dump (Kind Style)

def odUsage : Usage where
  name := "od"
  options :=
    [valued 'A' "address-radix", wordValued '\x01' "endian", valued 'j' "skip-bytes", valued 'N' "read-bytes",
      valued 'S' "", { key := 'S', isLetter := false, word := "strings", takes := .attached }, valued 't' "format",
      flag 'v' "output-duplicates", { key := 'w', word := "width", takes := .attached }, wordFlag '\x02' "traditional"] ++
    "abBcdDeFfhHiIlLoOsXx".toList.map fun c => flag c ""

/-- The kinds of fields that letters stand for. -/
def letterField? (c : Char) : Option Dump.Field :=
  match c with
  | 'a' => some ⟨Dump.Kind.named, 1, false⟩
  | 'b' => some ⟨Dump.Kind.unsigned 8, 1, false⟩
  | 'c' => some ⟨Dump.Kind.char, 1, false⟩
  | 'd' => some ⟨Dump.Kind.unsigned 10, 2, false⟩
  | 'D' => some ⟨Dump.Kind.unsigned 10, 4, false⟩
  | 'e' | 'F' => some ⟨Dump.Kind.float, 8, false⟩
  | 'f' => some ⟨Dump.Kind.float, 4, false⟩
  | 'h' | 'x' => some ⟨Dump.Kind.unsigned 16, 2, false⟩
  | 'H' | 'X' => some ⟨Dump.Kind.unsigned 16, 4, false⟩
  | 'i' => some ⟨Dump.Kind.signed, 4, false⟩
  | 'I' | 'l' | 'L' => some ⟨Dump.Kind.signed, 8, false⟩
  | 'o' | 'B' => some ⟨Dump.Kind.unsigned 8, 2, false⟩
  | 'O' => some ⟨Dump.Kind.unsigned 8, 4, false⟩
  | 's' => some ⟨Dump.Kind.signed, 2, false⟩
  | _ => none

/-- The size that follows the letter of a field, and what comes after it. -/
def fieldSize (letters : List (Char × Nat)) (default : Nat) (cs : List Char) : Nat × List Char :=
  let digits := cs.takeWhile Char.isDigit
  match cs with
  | c :: rest =>
    match letters.lookup c with
    | some n => (n, rest)
    | none =>
      if digits.isEmpty then (default, cs)
      else ((String.ofList digits).toNat?.getD 0, cs.drop digits.length)
  | [] => (default, [])

/-- The fields that a text asks for; or what is wrong with it. -/
def fieldsOf (whole : String) : Nat → List Char → Except String (List Dump.Field)
  | 0, _ => .ok []
  | _, [] => .ok []
  | fuel + 1, c :: cs =>
    let having (kind : Kind) (size : Nat) (rest : List Char) : Except String (List Dump.Field) :=
      let (trailing, rest) := match rest with
        | 'z' :: rest => (true, rest)
        | rest => (false, rest)
      (fieldsOf whole fuel rest).map (⟨kind, size, trailing⟩ :: ·)
    let number (kind : Kind) : Except String (List Dump.Field) :=
      let (size, rest) := fieldSize [('C', 1), ('S', 2), ('I', 4), ('L', 8)] 4 cs
      if [1, 2, 4, 8].contains size then having kind size rest
      else .error ("invalid type string " ++ quoted whole ++ ";\nthis system doesn't provide a " ++ toString size ++
        "-byte integral type")
    match c with
    | 'a' => having .named 1 cs
    | 'c' => having .char 1 cs
    | 'd' => number .signed
    | 'o' => number (.unsigned 8)
    | 'u' => number (.unsigned 10)
    | 'x' => number (.unsigned 16)
    | 'f' =>
      let (size, rest) := fieldSize [('F', 4), ('D', 8), ('L', 16)] 8 cs
      if [4, 8, 16].contains size then having .float size rest
      else .error ("invalid type string " ++ quoted whole ++ ";\nthis system doesn't provide a " ++ toString size ++
        "-byte floating point type")
    | c => .error ("invalid character " ++ quoted (String.singleton c) ++ " in type string " ++ quoted whole)

/-- The fields that options ask for. -/
def optionFields : List (Char × String) → Except String (List Dump.Field)
  | [] => .ok []
  | (c, text) :: rest => do
    let own ← match c with
      | 't' => fieldsOf text (text.length + 1) text.toList
      | c => .ok (letterField? c).toList
    return own ++ (← optionFields rest)

/-- The offset that an operand asks for. -/
def offset? (text : String) : Option Nat :=
  let cs := match text.toList with
    | '+' :: cs => cs
    | cs => cs
  let (factor, cs) := match cs.reverse with
    | 'b' :: rest | 'B' :: rest => (512, rest.reverse)
    | _ => (1, cs)
  let (base, cs) := match cs with
    | '0' :: 'x' :: rest | '0' :: 'X' :: rest => (16, rest)
    | cs => (8, cs)
  let (n, rest) := Arithmetic.digits base cs
  if cs.isEmpty || !rest.isEmpty then none else some (n * factor)

/-- The files and the offset that operands name. Without options of another kind the last operand
may be an offset. -/
def offsetOperand (free : Bool) (operands : List String) : List String × Option Nat :=
  if !free then (operands, none)
  else
    match operands with
    | [a] => if a.startsWith "+" then ((offset? a).elim ([a], none) fun n => ([], some n)) else ([a], none)
    | [a, b] =>
      if b.startsWith "+" || (b.toList.head?.any Char.isDigit) then
        (offset? b).elim ([a, b], none) fun n => ([a], some n)
      else ([a, b], none)
    | operands => (operands, none)

/-- A number that an option takes; or what is wrong with it. -/
def countOption (c : Char) (text : String) : Except String Nat :=
  match quantity? text with
  | some n => .ok n
  | none =>
    let bare := text.toList.takeWhile Char.isDigit
    .error ("invalid " ++ (if bare.isEmpty then "" else "suffix in ") ++ "-" ++ String.singleton c ++ " argument " ++
      quoted text)

/-- How addresses are written. -/
def addresses? (text : String) : Option ((Nat → String) × Nat) :=
  match text.toList.head? with
  | some 'd' => some (fun n => Dump.digitsOf 10 7 n, 7)
  | some 'o' => some (fun n => Dump.digitsOf 8 7 n, 7)
  | some 'x' => some (fun n => Dump.digitsOf 16 6 n, 6)
  | some 'n' => some (fun _ => "", 0)
  | _ => none

def od (args : List String) : Act Nat :=
  withOptions odUsage args fun found operands => do
    let failed (problem : String) : Act Nat := do
      complain "od" problem
      return 1
    let number (c : Char) : Except String (Option Nat) :=
      match valueOf? found c with
      | some text => if text.isEmpty then .ok none else (countOption c text).map some
      | none => .ok none
    let radix := (valueOf? found 'A').getD "o"
    let endian := (valueOf? found '\x01').getD "little"
    match addresses? radix, (do
        let skip ← number 'j'
        let most ← number 'N'
        let least ← number 'S'
        let width ← number 'w'
        let fields ← optionFields found
        return (skip, most, least, width, fields) : Except String _) with
    | none, _ =>
      failed ("invalid output address radix " ++ quoted radix ++ "; it must be one character from [doxn]")
    | _, .error problem => failed problem
    | some (address, addressWidth), .ok (skip, most, least, width, fields) =>
      if endian != "little" && endian != "big" then
        complain "od" ("invalid argument " ++ quoted endian ++ " for '--endian'")
        Act.say 2 "Valid arguments are:\n  - 'little'\n  - 'big'\n"
        hinted 1 "od"
      else
        let free := !(found.any fun o => ['A', 'j', 'N', 't', 'v', 'w', 'S'].contains o.1)
        let (operands, offset) := offsetOperand free operands
        let skip := (skip.orElse fun () => offset).getD 0
        let fields := if fields.isEmpty then [⟨Dump.Kind.unsigned 8, 2, false⟩] else fields
        let unit := Dump.unit fields
        let asked := if has found 'w' then some (width.getD 32) else none
        let blockSize := match asked with
          | some n => if n != 0 && n % unit == 0 then n else unit
          | none => if unit < 16 then unit * (16 / unit) else unit
        match asked with
        | some n =>
          if blockSize != n then
            complain "od" ("warning: invalid width " ++ toString n ++ "; using " ++ toString unit ++ " instead")
        | none => pure ()
        let (status, contents) ← contentsFor "od" "standard input" operands fun operand e =>
          cannotRead (if operand == "-" then "standard input" else operand) e
        let whole := contents.flatMap Prod.snd
        if whole.length < skip && status == 0 then failed "cannot skip past end of combined input"
        else
          let content := whole.drop skip
          let content := most.elim content content.take
          if has found 'S' then
            let least := least.getD 3
            let _ ← putText (String.join ((Dump.texts least skip [] content).map fun (n, bytes) =>
              (if addressWidth == 0 then "" else address n ++ " ") ++ Latin.ofBytes bytes ++ "\n"))
            return status
          else
            let style : Style := {
              fields, blockSize, address, addressWidth, bigFirst := endian == "big", all := has found 'v' }
            let _ ← putText (style.render skip content)
            return status

end ScriptCache.Shell.Utility
