import ScriptCache.Wire.Cursor

/-! Formats: how values of a type are written and read.

A format pairs a writer with a reader and says what reading a value claims from a
budget. Formats are built from bytes, integers and texts by `pair`, `list` and `via`.
An integer is one byte up to 250; a larger one is a marker byte and its bytes, least
significant first, the shortest width that holds it. Reading also takes a width that is
longer than needed. -/
namespace ScriptCache.Wire

/-- How values of a type are written and read. -/
structure Format (α : Type) where
  put : α → Bytes
  read : Reader α
  /-- What reading the value claims from a budget. -/
  cost : α → Nat

namespace Format

variable {α β : Type}

/-- One byte as it is. -/
def byte : Format UInt8 where
  put b := [b]
  read c := do
    let c ← c.claim 1
    match c.rest with
    | [] => .error (.unexpectedEnd 1)
    | b :: rest => .ok (b, { c with rest })
  cost _ := 1

/-- An integer in the shortest of its four widths. -/
def putInteger (n : Nat) : Bytes :=
  if n ≤ 250 then [UInt8.ofNat n]
  else if n < UInt16.size then 251 :: Bytes.littleEndian 2 n
  else if n < UInt32.size then 252 :: Bytes.littleEndian 4 n
  else 253 :: Bytes.littleEndian 8 n

/-- The bytes after a marker. -/
def readWidth (width : Nat) : Reader Nat := fun c => do
  let (bytes, c) ← c.take width
  .ok (bytes.toNat, c)

/-- A marker byte and what it announces. A kind that has no eight-byte form refuses the
marker of one, and every kind refuses the two markers above it. -/
def readInteger (expected : IntegerKind) (eight : Bool) : Reader Nat := fun c =>
  match c.rest with
  | [] => .error (.unexpectedEnd 1)
  | marker :: rest =>
    let c := { c with rest }
    let n := marker.toNat
    if n ≤ 250 then .ok (n, c)
    else if n = 251 then readWidth 2 c
    else if n = 252 then readWidth 4 c
    else if n = 253 then
      if eight then readWidth 8 c else .error (.badMarker expected .bits64)
    else if n = 254 then .error (.badMarker expected .bits128)
    else .error (.badMarker expected .reserved)

/-- A number of 32 bits. -/
def word32 : Format UInt32 where
  put v := putInteger v.toNat
  read c := do
    let c ← c.claim 4
    let (n, c) ← readInteger .bits32 false c
    .ok (UInt32.ofNat n, c)
  cost _ := 4

/-- The kind that a refused 64-bit marker is said to have been wanted for: the smaller
one where the widest form would still have fitted into the input. -/
def wanted64 (c : Cursor) : IntegerKind :=
  if (c.rest.take 9).length < 9 then .bits64 else .bits32

/-- The integer of a 64-bit field or of the length of a text. -/
def readLong : Reader Nat := fun c => do
  let c ← c.claim 8
  readInteger (wanted64 c) true c

/-- A number of 64 bits. -/
def word64 : Format UInt64 where
  put v := putInteger v.toNat
  read c := do
    let (n, c) ← readLong c
    .ok (UInt64.ofNat n, c)
  cost _ := 8

/-- The length of the shortest text that is longer than any memory. -/
def memoryBound : Nat := UInt64.size / 2

/-- A text: its length in bytes, then its bytes. Room for it is made before they are
read, and there is none for a text that reaches the bound. -/
def text (bound : Nat) : Format String where
  put s := putInteger (Utf8.encode s).length ++ Utf8.encode s
  read c := do
    let (n, c) ← readLong c
    let c ← c.claim n
    if bound ≤ n then throw .beyondMemory
    let (bytes, c) ← c.take n
    match Utf8.decode bytes with
    | .ok s => .ok (s, c)
    | .error flaw => .error (.badText flaw)
  cost s := 8 + (Utf8.encode s).length

/-- Reads `n` values one after another, the last first onto `seen`. -/
def readMany (item : Reader α) : Nat → List α → Reader (List α)
  | 0, seen, c => .ok (seen.reverse, c)
  | n + 1, seen, c =>
    match item c with
    | .ok (a, c) => readMany item n (a :: seen) c
    | .error e => .error e

/-- The length of a list. -/
def readCount : Reader Nat := fun c => do
  let c ← c.claim 8
  readInteger .count true c

/-- A list: its length, then its elements. -/
def list (item : Format α) : Format (List α) where
  put as := putInteger as.length ++ as.flatMap item.put
  read c := do
    let (n, c) ← readCount c
    readMany item.read n [] c
  cost as := as.foldr (fun a others => item.cost a + others) 8

/-- Bytes of a fixed number, without their length. -/
def readRaw : (n : Nat) → Reader { bytes : Bytes // bytes.length = n }
  | 0, c => .ok (⟨[], rfl⟩, c)
  | n + 1, c => do
    let (b, c) ← byte.read c
    let (bytes, c) ← readRaw n c
    .ok (⟨b :: bytes.val, by simp [bytes.property]⟩, c)

/-- Exactly `n` bytes. -/
def raw (n : Nat) : Format { bytes : Bytes // bytes.length = n } where
  put bytes := bytes.val
  read := readRaw n
  cost _ := n

/-- A value and then another. -/
def pair (first : Format α) (second : Format β) : Format (α × β) where
  put ab := first.put ab.1 ++ second.put ab.2
  read c := do
    let (a, c) ← first.read c
    let (b, c) ← second.read c
    .ok ((a, b), c)
  cost ab := first.cost ab.1 + second.cost ab.2

/-- The values of another type, written as what stands for them. -/
def via (item : Format α) (toItem : β → α) (ofItem : α → β) : Format β where
  put b := item.put (toItem b)
  read c := do
    let (a, c) ← item.read c
    .ok (ofItem a, c)
  cost b := item.cost (toItem b)

end Format

/-- The memory of the party that reads. -/
class Memory where
  /-- The length of the shortest text that there is no room for. -/
  bound : Nat
  bound_le : bound ≤ Format.memoryBound

/-- The memory of a process whose addresses have 47 bits. -/
@[reducible] def Memory.addressSpace : Memory where
  bound := Nat.pow 2 47
  bound_le := by decide

end ScriptCache.Wire
