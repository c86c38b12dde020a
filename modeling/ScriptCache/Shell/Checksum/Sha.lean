import ScriptCache.Shell.Checksum.Basic

/-! The secure hash algorithms: the one of 160 bits, and the second family with words of 32
or 64 bits.

Each block is spread over a schedule of words, and every word of that takes part in one
round. -/
namespace ScriptCache.Shell.Checksum

/-! ### 160 bits -/

/-- The words of all rounds, from those of a block. -/
def sha1Schedule : Nat → Array UInt32 → Array UInt32
  | 0, ws => ws
  | left + 1, ws =>
    let at_ (back : Nat) := ws.getD (ws.size - back) 0
    sha1Schedule left (ws.push (turned (at_ 3 ^^^ at_ 8 ^^^ at_ 14 ^^^ at_ 16) 1))

/-- What mixes three words in a round. -/
@[inline] def sha1Mix (i : Nat) (b c d : UInt32) : UInt32 :=
  if i < 20 then (b &&& c) ||| (~~~b &&& d)
  else if 40 ≤ i && i < 60 then (b &&& c) ||| (b &&& d) ||| (c &&& d)
  else b ^^^ c ^^^ d

/-- The number that is added in a round. -/
@[inline] def sha1Key (i : Nat) : UInt32 :=
  if i < 20 then 0x5A827999 else if i < 40 then 0x6ED9EBA1 else if i < 60 then 0x8F1BBCDC else 0xCA62C1D6

structure Sha1 where
  a : UInt32 := 0x67452301
  b : UInt32 := 0xEFCDAB89
  c : UInt32 := 0x98BADCFE
  d : UInt32 := 0x10325476
  e : UInt32 := 0xC3D2E1F0

namespace Sha1

/-- The rounds from one on. -/
def rounds (ws : Array UInt32) : Nat → Nat → Sha1 → Sha1
  | 0, _, s => s
  | left + 1, i, s =>
    rounds ws left (i + 1)
      ⟨turned s.a 5 + sha1Mix i s.b s.c s.d + s.e + sha1Key i + ws.getD i 0, s.a, turned s.b 30, s.c, s.d⟩

def block (s : Sha1) (block : Bytes) : Sha1 :=
  let t := rounds (sha1Schedule 64 (words true #[] block)) 80 0 s
  ⟨s.a + t.a, s.b + t.b, s.c + t.c, s.d + t.d, s.e + t.e⟩

end Sha1

def sha1 (content : Bytes) : Bytes :=
  let s := overPieces 64 Sha1.block {} (padded 64 8 true content)
  bytesOf true 4 ([s.a, s.b, s.c, s.d, s.e].map UInt32.toNat)

/-! ### Words of 32 bits -/

/-- What is added in the rounds: the start of the cube roots of primes. -/
def sha256Keys : Array UInt32 :=
  ((primes 64).map fun p => (fractionBits 3 p >>> 32).toUInt32).toArray

/-- The words of all rounds, from those of a block. -/
def sha256Schedule : Nat → Array UInt32 → Array UInt32
  | 0, ws => ws
  | left + 1, ws =>
    let at_ (back : Nat) := ws.getD (ws.size - back) 0
    let early := at_ 15
    let late := at_ 2
    sha256Schedule left (ws.push (at_ 16 + (turned early 25 ^^^ turned early 14 ^^^ (early >>> 3)) + at_ 7 +
      (turned late 15 ^^^ turned late 13 ^^^ (late >>> 10))))

structure Sha256 where
  a : UInt32
  b : UInt32
  c : UInt32
  d : UInt32
  e : UInt32
  f : UInt32
  g : UInt32
  h : UInt32

namespace Sha256

/-- The rounds from one on. -/
def rounds (ws : Array UInt32) : Nat → Nat → Sha256 → Sha256
  | 0, _, s => s
  | left + 1, i, ⟨a, b, c, d, e, f, g, h⟩ =>
    let choice := (e &&& f) ^^^ (~~~e &&& g)
    let majority := (a &&& b) ^^^ (a &&& c) ^^^ (b &&& c)
    let one := h + (turned e 26 ^^^ turned e 21 ^^^ turned e 7) + choice + sha256Keys.getD i 0 + ws.getD i 0
    let two := (turned a 30 ^^^ turned a 19 ^^^ turned a 10) + majority
    rounds ws left (i + 1) ⟨one + two, a, b, c, d + one, e, f, g⟩

def block (s : Sha256) (block : Bytes) : Sha256 :=
  let t := rounds (sha256Schedule 48 (words true #[] block)) 64 0 s
  ⟨s.a + t.a, s.b + t.b, s.c + t.c, s.d + t.d, s.e + t.e, s.f + t.f, s.g + t.g, s.h + t.h⟩

def ofWords (ws : List UInt32) : Sha256 :=
  let at_ (i : Nat) := ws.getD i 0
  ⟨at_ 0, at_ 1, at_ 2, at_ 3, at_ 4, at_ 5, at_ 6, at_ 7⟩

def run (start : List UInt32) (content : Bytes) : Bytes :=
  let s := overPieces 64 block (ofWords start) (padded 64 8 true content)
  bytesOf true 4 ([s.a, s.b, s.c, s.d, s.e, s.f, s.g, s.h].map UInt32.toNat)

end Sha256

def sha256 (content : Bytes) : Bytes :=
  Sha256.run ((squareRootBits 0).map fun (w : UInt64) => (w >>> 32).toUInt32) content

def sha224 (content : Bytes) : Bytes :=
  (Sha256.run ((squareRootBits 8).map UInt64.toUInt32) content).take 28

/-! ### Words of 64 bits -/

/-- What is added in the rounds: the start of the cube roots of primes. -/
def sha512Keys : Array UInt64 :=
  ((primes 80).map (fractionBits 3)).toArray

/-- The words of all rounds, from those of a block. -/
def sha512Schedule : Nat → Array UInt64 → Array UInt64
  | 0, ws => ws
  | left + 1, ws =>
    let at_ (back : Nat) := ws.getD (ws.size - back) 0
    let early := at_ 15
    let late := at_ 2
    sha512Schedule left (ws.push (at_ 16 + (turnedBack early 1 ^^^ turnedBack early 8 ^^^ (early >>> 7)) + at_ 7 +
      (turnedBack late 19 ^^^ turnedBack late 61 ^^^ (late >>> 6))))

structure Sha512 where
  a : UInt64
  b : UInt64
  c : UInt64
  d : UInt64
  e : UInt64
  f : UInt64
  g : UInt64
  h : UInt64

namespace Sha512

/-- The rounds from one on. -/
def rounds (ws : Array UInt64) : Nat → Nat → Sha512 → Sha512
  | 0, _, s => s
  | left + 1, i, ⟨a, b, c, d, e, f, g, h⟩ =>
    let choice := (e &&& f) ^^^ (~~~e &&& g)
    let majority := (a &&& b) ^^^ (a &&& c) ^^^ (b &&& c)
    let one := h + (turnedBack e 14 ^^^ turnedBack e 18 ^^^ turnedBack e 41) + choice + sha512Keys.getD i 0 +
      ws.getD i 0
    let two := (turnedBack a 28 ^^^ turnedBack a 34 ^^^ turnedBack a 39) + majority
    rounds ws left (i + 1) ⟨one + two, a, b, c, d + one, e, f, g⟩

def block (s : Sha512) (block : Bytes) : Sha512 :=
  let t := rounds (sha512Schedule 64 (longWords true #[] block)) 80 0 s
  ⟨s.a + t.a, s.b + t.b, s.c + t.c, s.d + t.d, s.e + t.e, s.f + t.f, s.g + t.g, s.h + t.h⟩

def ofWords (ws : List UInt64) : Sha512 :=
  let at_ (i : Nat) := ws.getD i 0
  ⟨at_ 0, at_ 1, at_ 2, at_ 3, at_ 4, at_ 5, at_ 6, at_ 7⟩

def run (start : List UInt64) (content : Bytes) : Bytes :=
  let s := overPieces 128 block (ofWords start) (padded 128 16 true content)
  bytesOf true 8 ([s.a, s.b, s.c, s.d, s.e, s.f, s.g, s.h].map UInt64.toNat)

end Sha512

def sha512 (content : Bytes) : Bytes :=
  Sha512.run (squareRootBits 0) content

def sha384 (content : Bytes) : Bytes :=
  (Sha512.run (squareRootBits 8) content).take 48

end ScriptCache.Shell.Checksum
