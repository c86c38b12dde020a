import ScriptCache.Bytes
import ScriptCache.Shell.Numeric

/-! Bytes as columns of numbers or characters.

Content is shown in blocks, each in one line for every kind of field that is asked for. The
fields of all lines of a block take up the same width together: what the fields of one line
do not need is spread between them. -/
namespace ScriptCache.Shell.Dump

inductive Kind where
  | named
  | char
  | signed
  | unsigned (base : Nat)
  | float
  deriving DecidableEq

/-- A kind of field: how many bytes it shows, and whether the characters of the block follow. -/
structure Field where
  kind : Kind
  size : Nat
  trailing : Bool := false

/-- How many characters a field takes at most. -/
def Field.width (f : Field) : Nat :=
  match f.kind with
  | .named | .char => 3
  | .signed => [4, 6, 11, 20].getD (Nat.log2 f.size) 0
  | .unsigned 8 => [3, 6, 11, 22].getD (Nat.log2 f.size) 0
  | .unsigned 10 => [3, 5, 10, 20].getD (Nat.log2 f.size) 0
  | .unsigned _ => 2 * f.size
  | .float => [0, 0, 15, 24, 29].getD (Nat.log2 f.size) 0

/-- The names of bytes that are no printable characters. -/
def byteNames : Array String :=
  #["nul", "soh", "stx", "etx", "eot", "enq", "ack", "bel", "bs", "ht", "nl", "vt", "ff", "cr", "so", "si", "dle",
    "dc1", "dc2", "dc3", "dc4", "nak", "syn", "etb", "can", "em", "sub", "esc", "fs", "gs", "rs", "us", "sp"]

def isPlain (b : UInt8) : Bool := 32 ≤ b && b < 127

def digitsOf (base width n : Nat) : String :=
  let ds := Nat.toDigits base n
  String.ofList (List.replicate (width - ds.length) '0' ++ ds)

/-- A byte by its name. -/
def nameOf (b : UInt8) : String :=
  let low := b.toNat % 128
  if low == 127 then "del" else (byteNames[low]?).getD (String.singleton (Char.ofNat low))

/-- A byte as a character. -/
def charOf (b : UInt8) : String :=
  match b.toNat with
  | 0 => "\\0"
  | 7 => "\\a"
  | 8 => "\\b"
  | 12 => "\\f"
  | 10 => "\\n"
  | 13 => "\\r"
  | 9 => "\\t"
  | 11 => "\\v"
  | n => if isPlain b then String.singleton (Char.ofNat n) else digitsOf 8 3 n

/-! ### Floating point -/

/-- The number that bits are: its width, its value, and how many digits are shown at least and
at most. -/
structure Floating where
  width : NumberWidth
  value : Numeric
  least : Nat
  most : Nat

/-- The number with a sign, an exponent of so many bits and a mantissa. A mantissa that shows its
first bit has one bit more. -/
def floatOf (w : NumberWidth) (exponentBits : Nat) (showsFirst : Bool) (least most n : Nat) : Floating :=
  let size := if showsFirst then w.bits else w.bits - 1
  let mantissa := n % Nat.pow 2 size
  let exponent := n / Nat.pow 2 size % Nat.pow 2 exponentBits
  let negative := n / Nat.pow 2 (size + exponentBits) % 2 == 1
  let value : Numeric :=
    if exponent + 1 == Nat.pow 2 exponentBits then
      if mantissa % Nat.pow 2 (w.bits - 1) == 0 then .infinite negative else .undefined negative
    else if exponent == 0 then .finite negative mantissa w.least
    else if showsFirst && mantissa < Nat.pow 2 (w.bits - 1) then .undefined negative
    else .finite negative (if showsFirst then mantissa else mantissa + Nat.pow 2 size) (w.least + exponent - 1)
  { width := w, value, least, most }

def Floating.ofBytes (bytes : Bytes) : Floating :=
  let n := Bytes.toNat bytes
  match bytes.length with
  | 4 => floatOf .single 8 false 6 9 n
  | 8 => floatOf .double 11 false 15 17 n
  | _ => floatOf .extended 15 true 18 21 (n % Nat.pow 2 80)

/-- Whether a text of digits reads back as a number. -/
def readsBack (w : NumberWidth) (mantissa : Nat) (exponent : Int) (text : List Char) : Bool :=
  match (Numeric.read? w text).map Numeric.Reading.value with
  | some (.finite _ m e) =>
    let (a, b) := Numeric.fraction m e
    let (c, d) := Numeric.fraction mantissa exponent
    a * d == c * b
  | _ => false

/-- The shortest digits that read back. -/
def Floating.text (f : Floating) : String :=
  let sign := if f.value.isNegative then "-" else ""
  match f.value with
  | .infinite _ => sign ++ "inf"
  | .undefined _ => sign ++ "nan"
  | .finite _ mantissa exponent =>
    let isSmall := mantissa < Nat.pow 2 (f.width.bits - 1)
    let start := if isSmall then 1 else f.least
    let texts := (List.range (f.most + 1 - start)).map fun i =>
      Numeric.shortest false (start + i) (Numeric.fraction mantissa exponent)
    let text := (texts.find? (readsBack f.width mantissa exponent)).getD (texts.getLast?.getD [])
    sign ++ String.ofList text

/-! ### Lines -/

/-- What a field shows of its bytes. -/
def Field.text (f : Field) (bigFirst : Bool) (bytes : Bytes) : String :=
  let bytes := if bigFirst then bytes.reverse else bytes
  let n := Bytes.toNat bytes
  match f.kind with
  | .named => nameOf (bytes.headD 0)
  | .char => charOf (bytes.headD 0)
  | .signed =>
    let limit := Nat.pow 2 (8 * f.size)
    if 2 * n < limit then toString n else "-" ++ toString (limit - n)
  | .unsigned 10 => toString n
  | .unsigned base => digitsOf base f.width n
  | .float => (Floating.ofBytes bytes).text

def padLeft (width : Nat) (text : String) : String :=
  String.ofList (List.replicate (width - text.length) ' ') ++ text

/-- The bytes of each field of a block. -/
def fieldBytes (size : Nat) : Nat → Bytes → List Bytes
  | 0, _ => []
  | n + 1, bytes => bytes.take size :: fieldBytes size n (bytes.drop size)

/-- The line of a kind of field for a block, of which `count` bytes are content; `width` is what
the widest line takes. -/
def Field.line (f : Field) (bigFirst : Bool) (blockSize width count : Nat) (block : Bytes) : String :=
  let fields := blockSize / f.size
  let blank := (blockSize - count) / f.size
  let pad := width - f.width * fields
  let shown := (fieldBytes f.size (fields - blank) block).zipIdx.map fun (bytes, i) =>
    let before := pad * (fields - i) / fields
    let after := pad * (fields - i - 1) / fields
    padLeft (before - after + f.width) (f.text bigFirst bytes)
  let trailer := if f.trailing then
      padLeft (blank * f.width + pad * blank / fields) "" ++ "  >" ++
        String.ofList ((block.take count).map fun b => if isPlain b then Char.ofNat b.toNat else '.') ++ "<"
    else ""
  String.join shown ++ trailer

/-- How content is shown. -/
structure Style where
  fields : List Field
  blockSize : Nat
  bigFirst : Bool := false
  /-- Whether blocks that are equal to the one before are shown, too. -/
  all : Bool := false
  /-- How an address is written, and how many characters it takes. -/
  address : Nat → String
  addressWidth : Nat

/-- The width of the widest line of a block. -/
def Style.width (s : Style) : Nat :=
  s.fields.foldl (fun w f => max w ((f.width + 1) * (s.blockSize / f.size))) 0

/-- The least size that is whole for all fields. -/
def unit (fields : List Field) : Nat :=
  fields.foldl (fun n f => Nat.lcm n f.size) 1

/-- The lines of a block at an address. -/
def Style.block (s : Style) (address : Nat) (content : Bytes) : String :=
  let missing := (unit s.fields - content.length % unit s.fields) % unit s.fields
  let block := content ++ List.replicate missing 0
  String.join (s.fields.zipIdx.map fun (f, i) =>
    (if i == 0 then s.address address else padLeft s.addressWidth "") ++
      f.line s.bigFirst s.blockSize s.width content.length block ++ "\n")

/-- The lines of all blocks. `before` is the block before, and whether it was left out. -/
def Style.blocks (s : Style) : Nat → Nat → Option (Bytes × Bool) → Bytes → List String
  | 0, _, _, _ => []
  | _, _, _, [] => []
  | fuel + 1, address, before, content =>
    let block := content.take s.blockSize
    let rest := content.drop s.blockSize
    let next := address + block.length
    match before with
    | some (last, skipping) =>
      if !s.all && block.length == s.blockSize && last == block then
        (if skipping then "" else "*\n") :: s.blocks fuel next (some (block, true)) rest
      else s.block address block :: s.blocks fuel next (some (block, false)) rest
    | none => s.block address block :: s.blocks fuel next (some (block, false)) rest

/-- Everything that is shown of some content that starts at an address. -/
def Style.render (s : Style) (address : Nat) (content : Bytes) : String :=
  let last := s.address (address + content.length)
  String.join (s.blocks (content.length + 1) address none content) ++ if last.isEmpty then "" else last ++ "\n"

/-! ### Texts -/

/-- The texts of so many characters at least that a zero ends, with their addresses. `start` is
where those that were seen begin, the latest first. -/
def texts (least : Nat) : Nat → Bytes → Bytes → List (Nat × Bytes)
  | _, _, [] => []
  | address, seen, b :: rest =>
    if isPlain b then texts least (address + 1) (b :: seen) rest
    else
      let more := texts least (address + 1) [] rest
      if b == 0 && least ≤ seen.length then (address - seen.length, seen.reverse) :: more else more

end ScriptCache.Shell.Dump
