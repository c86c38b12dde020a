import ScriptCache.Shell.Checksum.Basic

/-! The message digest of 128 bits. -/
namespace ScriptCache.Shell.Checksum

/-- The first 32 bits behind the point of the sines of the numbers from one on, without signs. -/
def sineBits : Array UInt32 :=
  #[0xd76aa478, 0xe8c7b756, 0x242070db, 0xc1bdceee, 0xf57c0faf, 0x4787c62a, 0xa8304613, 0xfd469501,
    0x698098d8, 0x8b44f7af, 0xffff5bb1, 0x895cd7be, 0x6b901122, 0xfd987193, 0xa679438e, 0x49b40821,
    0xf61e2562, 0xc040b340, 0x265e5a51, 0xe9b6c7aa, 0xd62f105d, 0x02441453, 0xd8a1e681, 0xe7d3fbc8,
    0x21e1cde6, 0xc33707d6, 0xf4d50d87, 0x455a14ed, 0xa9e3e905, 0xfcefa3f8, 0x676f02d9, 0x8d2a4c8a,
    0xfffa3942, 0x8771f681, 0x6d9d6122, 0xfde5380c, 0xa4beea44, 0x4bdecfa9, 0xf6bb4b60, 0xbebfbc70,
    0x289b7ec6, 0xeaa127fa, 0xd4ef3085, 0x04881d05, 0xd9d4d039, 0xe6db99e5, 0x1fa27cf8, 0xc4ac5665,
    0xf4292244, 0x432aff97, 0xab9423a7, 0xfc93a039, 0x655b59c3, 0x8f0ccc92, 0xffeff47d, 0x85845dd1,
    0x6fa87e4f, 0xfe2ce6e0, 0xa3014314, 0x4e0811a1, 0xf7537e82, 0xbd3af235, 0x2ad7d2bb, 0xeb86d391]

structure Md5 where
  a : UInt32 := 0x67452301
  b : UInt32 := 0xefcdab89
  c : UInt32 := 0x98badcfe
  d : UInt32 := 0x10325476

/-- What mixes three words in a round. -/
@[inline] def md5Mix (i : Nat) (b c d : UInt32) : UInt32 :=
  if i < 16 then (b &&& c) ||| (~~~b &&& d)
  else if i < 32 then (d &&& b) ||| (~~~d &&& c)
  else if i < 48 then b ^^^ c ^^^ d
  else c ^^^ (b ||| ~~~d)

/-- Which word of the block takes part in a round. -/
@[inline] def md5Place (i : Nat) : Nat :=
  if i < 16 then i else if i < 32 then (5 * i + 1) % 16 else if i < 48 then (3 * i + 5) % 16 else 7 * i % 16

/-- How far words are turned, for each sixteen rounds. -/
def md5Distances : Array UInt32 :=
  #[7, 12, 17, 22, 5, 9, 14, 20, 4, 11, 16, 23, 6, 10, 15, 21]

namespace Md5

/-- The rounds from one on. -/
def rounds (ws : Array UInt32) : Nat → Nat → Md5 → Md5
  | 0, _, s => s
  | left + 1, i, s =>
    let sum := md5Mix i s.b s.c s.d + s.a + sineBits.getD i 0 + ws.getD (md5Place i) 0
    rounds ws left (i + 1) ⟨s.d, s.b + turned sum (md5Distances.getD (i / 16 * 4 + i % 4) 0), s.b, s.c⟩

def block (s : Md5) (block : Bytes) : Md5 :=
  let t := rounds (words false #[] block) 64 0 s
  ⟨s.a + t.a, s.b + t.b, s.c + t.c, s.d + t.d⟩

end Md5

def md5 (content : Bytes) : Bytes :=
  let s := overPieces 64 Md5.block {} (padded 64 8 false content)
  bytesOf false 4 ([s.a, s.b, s.c, s.d].map UInt32.toNat)

end ScriptCache.Shell.Checksum
