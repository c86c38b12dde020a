import ScriptCache.Shell.Encoding
import ScriptCache.Shell.Utility.Call

/-! Utilities that write bytes in letters and read them back. -/
namespace ScriptCache.Shell.Utility

def encodingOptions : List Opt :=
  [flag 'd' "decode", flag 'i' "ignore-garbage", valued 'w' "wrap"]

/-- A text in lines of a width, each with its end. -/
def wrapped (width : Nat) (cs : List Char) : String :=
  if width == 0 then String.ofList cs
  else String.join ((Encoding.groups width (cs.length + 1) cs).map fun line => String.ofList line ++ "\n")

/-- Writes one operand in letters, or what its letters stand for. -/
def recoded (name : String) (encode : Bytes → Option (List Char)) (decode : Bool → List Char → Bytes × Bool)
    (found : List (Char × String)) (operands : List String) : Act Nat := do
  let width := (valueOf? found 'w').getD "76"
  match decimal? width, operands with
  | none, _ =>
    complain name ("invalid wrap size: " ++ quoted width)
    return 1
  | _, _ :: extra :: _ => extraOperand name extra
  | some width, operands =>
    let operand := operands.headD "-"
    match ← content operand with
    | .error e =>
      complain name (if e == .isFolder || e == .badHandle then "read error: " ++ e.text else cannotRead operand e)
      return 1
    | .ok bytes =>
      if has found 'd' then
        let (out, fine) := decode (has found 'i') (Latin.charsOf bytes)
        let _ ← put out
        if fine then return 0
        else
          complain name "invalid input"
          return 1
      else
        match encode bytes with
        | some letters => putText (wrapped width letters)
        | none =>
          complain name "invalid input (length must be multiple of 4 characters)"
          return 1

def recodedBy (name : String) (e : Encoding) : List (Char × String) → List String → Act Nat :=
  recoded name (fun bytes => some (e.encode bytes)) e.decode

def base64 (args : List String) : Act Nat :=
  withOptions { name := "base64", options := encodingOptions } args (recodedBy "base64" .base64)

def base32 (args : List String) : Act Nat :=
  withOptions { name := "base32", options := encodingOptions } args (recodedBy "base32" .base32)

def basenc (args : List String) : Act Nat :=
  let kinds := [('\x01', "base64"), ('\x02', "base64url"), ('\x03', "base32"), ('\x04', "base32hex"),
    ('\x05', "base16"), ('\x06', "base2msbf"), ('\x07', "base2lsbf"), ('\x08', "z85")]
  withOptions { name := "basenc", options := encodingOptions ++ kinds.map fun (c, word) => wordFlag c word } args
    fun found operands =>
      let with_ (e : Encoding) := recodedBy "basenc" e found operands
      match lastOf? found (kinds.map Prod.fst) with
      | some '\x01' => with_ .base64
      | some '\x02' => with_ .base64url
      | some '\x03' => with_ .base32
      | some '\x04' => with_ .base32hex
      | some '\x05' => with_ .base16
      | some '\x06' => with_ (.base2 false)
      | some '\x07' => with_ (.base2 true)
      | some _ => recoded "basenc" Encoding85.encode? Encoding85.decode found operands
      | none => misused "basenc" "missing encoding type"

end ScriptCache.Shell.Utility
