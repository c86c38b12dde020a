import ScriptCache.Bytes

/-! Checksums of few bits: the remainder of a division of polynomials, and two sums. -/
namespace ScriptCache.Shell.Checksum

/-- A remainder after one more bit. -/
def remainderBit (r : UInt32) : UInt32 :=
  if r &&& 0x80000000 != 0 then (r <<< 1) ^^^ 0x04C11DB7 else r <<< 1

/-- The remainders of single bytes. -/
def byteRemainders : Array UInt32 :=
  ((List.range 256).map fun b => Nat.repeat remainderBit 8 (UInt32.ofNat b <<< 24)).toArray

/-- A remainder after one more byte. -/
def remainderByte (r : UInt32) (b : UInt8) : UInt32 :=
  (r <<< 8) ^^^ byteRemainders.getD ((r >>> 24) ^^^ b.toUInt32).toNat 0

/-- The bytes of a number, the lowest first, without zeros at its end. -/
def lengthBytes : Nat → Nat → Bytes
  | 0, _ => []
  | fuel + 1, n => if n == 0 then [] else UInt8.ofNat n :: lengthBytes fuel (n / 256)

/-- The remainder of the content with its length behind it, turned over. -/
def cyclic (content : Bytes) : Nat :=
  (~~~((content ++ lengthBytes 16 content.length).foldl remainderByte 0)).toNat

/-- A sum that is turned by one bit before every byte. -/
def turningSum (content : Bytes) : Nat :=
  (content.foldl (fun (s : UInt16) b => ((s >>> 1) ||| (s <<< 15)) + b.toUInt16) 0).toNat

/-- The sum of all bytes, folded to sixteen bits. -/
def plainSum (content : Bytes) : Nat :=
  let s := content.foldl (fun s b => s + b.toNat) 0 % 4294967296
  let r := s % 65536 + s / 65536
  r % 65536 + r / 65536

end ScriptCache.Shell.Checksum
