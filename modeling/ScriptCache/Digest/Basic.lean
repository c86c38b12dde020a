import ScriptCache.Digest.XXH3

/-! Content digests.

A digest is the 128-bit XXH3 hash of a byte string, kept as sixteen bytes, the least
significant first. Digests are compared byte by byte from the first on. Nothing here
says that different contents have different digests: a statement that needs it says so
about the contents at hand. -/
namespace ScriptCache

/-- Sixteen bytes that stand for a content. -/
structure Digest where
  bytes : Bytes
  length_eq : bytes.length = 16
  deriving DecidableEq

namespace Digest

/-- The digest of a byte string. -/
def ofBytes (content : Bytes) : Digest :=
  let hash := XXH3.hash content
  ⟨Bytes.littleEndian 8 hash.low.toNat ++ Bytes.littleEndian 8 hash.high.toNat, by simp⟩

/-- Sixteen given bytes as a digest. -/
def ofList? (bytes : Bytes) : Option Digest :=
  if h : bytes.length = 16 then some ⟨bytes, h⟩ else none

@[simp] theorem ofList?_bytes (d : Digest) : ofList? d.bytes = some d := by
  simp [ofList?, d.length_eq]

/-- The digest in hexadecimal. -/
def display (d : Digest) : String :=
  Bytes.hex d.bytes

/-- The first two bytes, for descriptions. -/
def describe (d : Digest) : String :=
  "ContentHash(" ++ Bytes.hex (d.bytes.take 2) ++ "..)"

/-- The order of digests: byte by byte, the first byte first. -/
def compare (a b : Digest) : Ordering :=
  Bytes.compare a.bytes b.bytes

end Digest

end ScriptCache
