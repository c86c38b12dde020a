import ScriptCache.Bytes

/-! Bytes in letters of small alphabets.

The bits of the bytes, the highest first, are taken in groups, each of which is one letter;
a text that ends within a group of letters is filled up. Reading goes on as far as the text
can be one that was written. -/
namespace ScriptCache.Shell

/-- An alphabet, and how bits and letters are grouped. -/
structure Encoding where
  letters : List Char
  /-- How many bits a letter has, and how many letters are read together. -/
  bits : Nat
  group : Nat
  /-- Whether a group that is not complete is filled up with equal signs. -/
  filled : Bool := true
  /-- Whether the lowest bits of a byte come first. -/
  lowFirst : Bool := false
  /-- Whether the bytes of a group that breaks off are shown. -/
  showsPart : Bool := false

namespace Encoding

def capitals : List Char := (List.range 26).map fun n => Char.ofNat (65 + n)
def smalls : List Char := (List.range 26).map fun n => Char.ofNat (97 + n)
def digits : List Char := (List.range 10).map fun n => Char.ofNat (48 + n)

def base64 : Encoding where
  letters := capitals ++ smalls ++ digits ++ ['+', '/']
  bits := 6
  group := 4
  showsPart := true

def base64url : Encoding where
  letters := capitals ++ smalls ++ digits ++ ['-', '_']
  bits := 6
  group := 4
  showsPart := true

def base32 : Encoding where
  letters := capitals ++ (digits.drop 2).take 6
  bits := 5
  group := 8

def base32hex : Encoding where
  letters := digits ++ capitals.take 22
  bits := 5
  group := 8

def base16 : Encoding where
  letters := digits ++ capitals.take 6
  bits := 4
  group := 2
  filled := false

def base2 (lowFirst : Bool) : Encoding where
  letters := digits.take 2
  bits := 1
  group := 8
  filled := false
  lowFirst := lowFirst

variable (e : Encoding)

/-- The bits of a byte, the highest first. -/
def bitsOf (width n : Nat) : List Bool :=
  (List.range width).map fun i => n.testBit (width - 1 - i)

/-- The number that bits are, the highest first. -/
def ofBits (bits : List Bool) : Nat :=
  bits.foldl (fun n b => 2 * n + b.toNat) 0

/-- Items in groups of so many, of which the last may be smaller. -/
def groups {α : Type} (size : Nat) : Nat → List α → List (List α)
  | 0, _ => []
  | _, [] => []
  | fuel + 1, items => items.take size :: groups size fuel (items.drop size)

def letter (n : Nat) : Char := (e.letters[n]?).getD '='

/-- The letters of some bytes. -/
def encode (bytes : Bytes) : List Char :=
  let bits := bytes.flatMap fun b =>
    let bits := bitsOf 8 b.toNat
    if e.lowFirst then bits.reverse else bits
  let letters := (groups e.bits (bits.length + 1) bits).map fun g =>
    e.letter (ofBits (g ++ List.replicate (e.bits - g.length) false))
  if e.filled then letters ++ List.replicate ((e.group - letters.length % e.group) % e.group) '=' else letters

def value? (c : Char) : Option Nat := e.letters.findIdx? (· == c)

/-- The bytes of a group of letters, and whether it is one that is written. -/
def decodeGroup (cs : List Char) : Bytes × Bool :=
  let values := (cs.map e.value?).takeWhile Option.isSome
  let rest := cs.drop values.length
  let bits := values.flatMap fun v => bitsOf e.bits (v.getD 0)
  let bytes := ((groups 8 (bits.length + 1) bits).filter (·.length == 8)).map fun g =>
    UInt8.ofNat (ofBits (if e.lowFirst then g.reverse else g))
  let isFilled := e.filled && rest.all (· == '=') && bytes.length * 8 + e.bits > values.length * e.bits && !bytes.isEmpty
  let isWhole := cs.length == e.group && (rest.isEmpty || isFilled)
  (if isWhole || cs.length == e.group || e.showsPart then bytes else [], isWhole)

/-- The bytes that groups of letters stand for up to the first that is wrong, and whether none is. -/
def decodeGroups : List (List Char) → Bytes × Bool
  | [] => ([], true)
  | g :: rest =>
    match e.decodeGroup g with
    | (bytes, false) => (bytes, false)
    | (bytes, true) =>
      let (more, fine) := decodeGroups rest
      (bytes ++ more, fine)

/-- The bytes that a text stands for, as far as it is well written, and whether all of it is.
Newlines do not count. -/
def decode (ignoresOthers : Bool) (text : List Char) : Bytes × Bool :=
  let text := text.filter fun c => c != '\n' && (!ignoresOthers || c == '=' || e.letters.contains c)
  e.decodeGroups (groups e.group (text.length + 1) text)

end Encoding

/-! ### Four bytes in five letters -/

namespace Encoding85

def letters : List Char :=
  Encoding.digits ++ Encoding.smalls ++ Encoding.capitals ++ ".-:+=^!/*?&<>()[]\x7b\x7d@%$#".toList

/-- The letters of some bytes; nothing if they are not in whole groups. -/
def encode? (bytes : Bytes) : Option (List Char) :=
  if bytes.length % 4 != 0 then none
  else some ((Encoding.groups 4 (bytes.length + 1) bytes).flatMap fun g =>
    let n := Bytes.toNat g.reverse
    [n / 52200625, n / 614125, n / 7225, n / 85, n].map fun d => (letters[d % 85]?).getD '0')

def decodeGroups : List (List Char) → Bytes × Bool
  | [] => ([], true)
  | g :: rest =>
    let values := g.filterMap fun c => letters.findIdx? (· == c)
    let n := values.foldl (fun n v => 85 * n + v) 0
    if values.length != 5 || 4294967296 ≤ n then ([], false)
    else
      let (more, fine) := decodeGroups rest
      ((Bytes.littleEndian 4 n).reverse ++ more, fine)

def decode (ignoresOthers : Bool) (text : List Char) : Bytes × Bool :=
  let text := text.filter fun c => c != '\n' && (!ignoresOthers || letters.contains c)
  decodeGroups (Encoding.groups 5 (text.length + 1) text)

end Encoding85

end ScriptCache.Shell
