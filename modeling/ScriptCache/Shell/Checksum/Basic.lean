import ScriptCache.Bytes

/-! What checksums have in common.

A checksum over blocks works on the content, a mark, zeros up to a whole number of blocks
and the content's length in bits. Words have 32 or 64 bits and are read and written with
either end first. -/
namespace ScriptCache.Shell.Checksum

/-- The content in whole blocks, with its length in so many bytes at the end. -/
def padded (block lengthBytes : Nat) (bigEndian : Bool) (content : Bytes) : Bytes :=
  let used := content.length + 1 + lengthBytes
  let zeros := (block - used % block) % block
  let length := Bytes.littleEndian lengthBytes (8 * content.length)
  content ++ 0x80 :: (List.replicate zeros 0 ++ if bigEndian then length.reverse else length)

/-- Works through the content in pieces of a size, of which the last may be shorter. -/
@[specialize] def foldPieces {σ : Type} (size : Nat) (f : σ → Bytes → σ) : Nat → σ → Bytes → σ
  | 0, s, _ => s
  | _, s, [] => s
  | fuel + 1, s, content => foldPieces size f fuel (f s (content.take size)) (content.drop size)

/-- Works through the content in pieces of a size. -/
@[inline] def overPieces {σ : Type} (size : Nat) (f : σ → Bytes → σ) (s : σ) (content : Bytes) : σ :=
  foldPieces size f (content.length + 1) s content

/-! ### Words -/

/-- A word of 32 bits whose bytes are given, the highest first. -/
@[inline] def wordOf (a b c d : UInt8) : UInt32 :=
  (a.toUInt32 <<< 24) ||| (b.toUInt32 <<< 16) ||| (c.toUInt32 <<< 8) ||| d.toUInt32

/-- The words of 32 bits of a block, after others. -/
def words (bigEndian : Bool) (before : Array UInt32) : Bytes → Array UInt32
  | a :: b :: c :: d :: rest =>
    words bigEndian (before.push (if bigEndian then wordOf a b c d else wordOf d c b a)) rest
  | _ => before

/-- The words of 64 bits of a block, after others. -/
def longWords (bigEndian : Bool) (before : Array UInt64) : Bytes → Array UInt64
  | a :: b :: c :: d :: e :: f :: g :: h :: rest =>
    let (high, low) := if bigEndian then (wordOf a b c d, wordOf e f g h) else (wordOf h g f e, wordOf d c b a)
    longWords bigEndian (before.push ((high.toUInt64 <<< 32) ||| low.toUInt64)) rest
  | _ => before

/-- The bytes of numbers of so many bytes each. -/
def bytesOf (bigEndian : Bool) (size : Nat) (numbers : List Nat) : Bytes :=
  numbers.flatMap fun n =>
    let bytes := Bytes.littleEndian size n
    if bigEndian then bytes.reverse else bytes

/-- A word of 32 bits turned to the left. -/
@[inline] def turned (w distance : UInt32) : UInt32 :=
  (w <<< distance) ||| (w >>> (32 - distance))

/-- A word of 64 bits turned to the right. -/
@[inline] def turnedBack (w distance : UInt64) : UInt64 :=
  (w >>> distance) ||| (w <<< (64 - distance))

/-! ### Roots -/

/-- The greatest number whose power is not above another number; its bits are below so many. -/
def root (power n : Nat) : Nat → Nat
  | 0 => 0
  | bits + 1 =>
    let high := root power (n / Nat.pow 2 power) bits
    if Nat.pow (2 * high + 1) power ≤ n then 2 * high + 1 else 2 * high

/-- The first primes. -/
def primes (count : Nat) : List Nat :=
  ((List.range 500).filter fun n => 2 ≤ n && ((List.range n).all fun d => d < 2 || n % d != 0)).take count

/-- The first 64 bits behind the point of a root of a prime. -/
def fractionBits (power prime : Nat) : UInt64 :=
  UInt64.ofNat (root power (prime * Nat.pow 2 (64 * power)) 70)

/-- The first 64 bits behind the points of the square roots of eight primes. -/
def squareRootBits (skipped : Nat) : List UInt64 :=
  ((primes (skipped + 8)).drop skipped).map (fractionBits 2)

end ScriptCache.Shell.Checksum
