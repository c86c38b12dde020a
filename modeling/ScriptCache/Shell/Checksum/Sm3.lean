import ScriptCache.Shell.Checksum.Basic

/-! The checksum of 256 bits whose block takes part in the rounds both plain and mixed with
itself. -/
namespace ScriptCache.Shell.Checksum

/-- A word mixed with itself turned by two distances. -/
@[inline] def spreadWord (a b w : UInt32) : UInt32 :=
  w ^^^ turned w a ^^^ turned w b

/-- The words of all rounds, from those of a block. -/
def sm3Schedule : Nat → Array UInt32 → Array UInt32
  | 0, ws => ws
  | left + 1, ws =>
    let at_ (back : Nat) := ws.getD (ws.size - back) 0
    sm3Schedule left
      (ws.push (spreadWord 15 23 (at_ 16 ^^^ at_ 9 ^^^ turned (at_ 3) 15) ^^^ turned (at_ 13) 7 ^^^ at_ 6))

structure Sm3 where
  a : UInt32 := 0x7380166f
  b : UInt32 := 0x4914b2b9
  c : UInt32 := 0x172442d7
  d : UInt32 := 0xda8a0600
  e : UInt32 := 0xa96f30bc
  f : UInt32 := 0x163138aa
  g : UInt32 := 0xe38dee4d
  h : UInt32 := 0xb0fb0e4e

namespace Sm3

/-- A number turned by the number of a round. -/
def roundKey (j : Nat) : UInt32 :=
  let key : UInt32 := if j < 16 then 0x79cc4519 else 0x7a879d8a
  if j % 32 == 0 then key else turned key (UInt32.ofNat (j % 32))

/-- The rounds from one on. -/
def rounds (ws : Array UInt32) : Nat → Nat → Sm3 → Sm3
  | 0, _, s => s
  | left + 1, j, ⟨a, b, c, d, e, f, g, h⟩ =>
    let one := turned (turned a 12 + e + roundKey j) 7
    let first := if j < 16 then a ^^^ b ^^^ c else (a &&& b) ||| (a &&& c) ||| (b &&& c)
    let second := if j < 16 then e ^^^ f ^^^ g else (e &&& f) ||| (~~~e &&& g)
    let word := ws.getD j 0
    rounds ws left (j + 1)
      ⟨first + d + (one ^^^ turned a 12) + (word ^^^ ws.getD (j + 4) 0), a, turned b 9, c,
        spreadWord 9 17 (second + h + one + word), e, turned f 19, g⟩

def block (s : Sm3) (block : Bytes) : Sm3 :=
  let t := rounds (sm3Schedule 52 (words true #[] block)) 64 0 s
  ⟨s.a ^^^ t.a, s.b ^^^ t.b, s.c ^^^ t.c, s.d ^^^ t.d, s.e ^^^ t.e, s.f ^^^ t.f, s.g ^^^ t.g, s.h ^^^ t.h⟩

end Sm3

def sm3 (content : Bytes) : Bytes :=
  let s := overPieces 64 Sm3.block {} (padded 64 8 true content)
  bytesOf true 4 ([s.a, s.b, s.c, s.d, s.e, s.f, s.g, s.h].map UInt32.toNat)

end ScriptCache.Shell.Checksum
