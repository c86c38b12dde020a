/-! Byte strings and fixed-width little-endian numbers.

A number of at most `8 * n` bits keeps its value when it is written in `n` bytes
(`toNat_littleEndian`), and any byte string is what its own number writes
(`littleEndian_toNat`), so the two directions determine each other. Hexadecimal is
the text form used for digests and for anything shown to a person. -/
namespace ScriptCache

/-- A byte string. -/
abbrev Bytes := List UInt8

namespace Bytes

/-- The `n` low bytes of `v`, least significant first. -/
def littleEndian : Nat → Nat → Bytes
  | 0, _ => []
  | n + 1, v => UInt8.ofNat v :: littleEndian n (v / 256)

/-- The number a byte string denotes, least significant byte first. -/
def toNat : Bytes → Nat
  | [] => 0
  | b :: rest => b.toNat + 256 * toNat rest

@[simp] theorem length_littleEndian (n v : Nat) : (littleEndian n v).length = n := by
  induction n generalizing v with
  | zero => rfl
  | succ n ih => simp [littleEndian, ih]

/-- One byte more holds 256 times as many numbers. -/
theorem bits_succ (n : Nat) : 1 <<< (8 * (n + 1)) = 256 * 1 <<< (8 * n) := by
  rw [Nat.mul_succ, Nat.shiftLeft_add, Nat.shiftLeft_eq _ 8, Nat.mul_comm]

theorem toNat_lt (bytes : Bytes) : toNat bytes < 1 <<< (8 * bytes.length) := by
  induction bytes with
  | nil => simp [toNat]
  | cons b rest ih =>
    have hb : b.toNat < 256 := b.toNat_lt
    rw [toNat, List.length_cons, bits_succ]
    omega

/-- Writing keeps a number that fits. -/
theorem toNat_littleEndian {n v : Nat} (fits : v < 1 <<< (8 * n)) :
    toNat (littleEndian n v) = v := by
  induction n generalizing v with
  | zero => simp at fits; simp [littleEndian, toNat, fits]
  | succ n ih =>
    have small : v / 256 < 1 <<< (8 * n) := by
      rw [bits_succ] at fits
      exact Nat.div_lt_of_lt_mul fits
    simp only [littleEndian, toNat, ih small, UInt8.toNat_ofNat']
    omega

/-- Every byte string is the written form of its number. -/
theorem littleEndian_toNat (bytes : Bytes) : littleEndian bytes.length (toNat bytes) = bytes := by
  induction bytes with
  | nil => rfl
  | cons b rest ih =>
    have hb : b.toNat < 256 := b.toNat_lt
    have hd : (b.toNat + 256 * toNat rest) / 256 = toNat rest := by omega
    have hm : UInt8.ofNat (b.toNat + 256 * toNat rest) = b := by
      apply UInt8.toNat_inj.mp
      simp only [UInt8.toNat_ofNat']
      omega
    simp only [List.length_cons, littleEndian, toNat, hd, hm, ih]

/-- The bytes of `bytes` from position `at_` on, `n` of them, as a number. -/
def natAt (bytes : Bytes) (at_ n : Nat) : Nat :=
  toNat ((bytes.drop at_).take n)

/-- The same for a range that lies inside the bytes. -/
def natIn (bytes : Bytes) (at_ n : Nat) (_ : at_ + n ≤ bytes.length) : Nat :=
  natAt bytes at_ n

/-- The order of two byte strings by their first difference; a beginning comes first. -/
def compare : Bytes → Bytes → Ordering
  | [], [] => .eq
  | [], _ :: _ => .lt
  | _ :: _, [] => .gt
  | a :: as, b :: bs => (Ord.compare a b).then (compare as bs)

/-- One hexadecimal digit, in lower case. -/
def hexDigit (n : Nat) : Char :=
  if n < 10 then Char.ofNat (48 + n) else Char.ofNat (87 + n)

/-- Two hexadecimal digits a byte. -/
def hex (bytes : Bytes) : String :=
  String.ofList (bytes.flatMap fun b => [hexDigit (b.toNat / 16), hexDigit (b.toNat % 16)])

/-- The value of a hexadecimal digit of either case. -/
def hexValue? (c : Char) : Option Nat :=
  if '0' ≤ c ∧ c ≤ '9' then some (c.toNat - 48)
  else if 'a' ≤ c ∧ c ≤ 'f' then some (c.toNat - 87)
  else if 'A' ≤ c ∧ c ≤ 'F' then some (c.toNat - 55)
  else none

/-- Pushes the bytes that pairs of hexadecimal digits spell onto `seen`, last first. -/
def hexOnto : Bytes → List Char → Option Bytes
  | seen, [] => some seen.reverse
  | _, [_] => none
  | seen, h :: l :: rest =>
    match hexValue? h, hexValue? l with
    | some high, some low => hexOnto (UInt8.ofNat (16 * high + low) :: seen) rest
    | _, _ => none

/-- Reads pairs of hexadecimal digits. -/
def ofHex? (text : String) : Option Bytes :=
  hexOnto [] text.toList

end Bytes

end ScriptCache
