import ScriptCache.Shell.Checksum.Basic

/-! The checksum of up to 512 bits that mixes sixteen words of 64 bits in columns and diagonals. -/
namespace ScriptCache.Shell.Checksum

/-- The order in which the words of a block take part in the rounds. -/
def blakeOrders : Array (Array Nat) :=
  #[#[0, 1, 2, 3, 4, 5, 6, 7, 8, 9, 10, 11, 12, 13, 14, 15],
    #[14, 10, 4, 8, 9, 15, 13, 6, 1, 12, 0, 2, 11, 7, 5, 3],
    #[11, 8, 12, 0, 5, 2, 15, 13, 10, 14, 3, 6, 7, 1, 9, 4],
    #[7, 9, 3, 1, 13, 12, 11, 14, 2, 6, 5, 10, 4, 0, 15, 8],
    #[9, 0, 5, 7, 2, 4, 10, 15, 14, 1, 11, 12, 6, 8, 3, 13],
    #[2, 12, 6, 10, 0, 11, 8, 3, 4, 13, 7, 5, 15, 14, 1, 9],
    #[12, 5, 1, 15, 14, 13, 4, 10, 0, 7, 6, 3, 9, 2, 8, 11],
    #[13, 11, 7, 14, 12, 1, 3, 9, 5, 0, 15, 4, 8, 6, 2, 10],
    #[6, 15, 14, 9, 11, 3, 0, 8, 12, 2, 13, 7, 1, 4, 10, 5],
    #[10, 2, 8, 4, 7, 6, 1, 5, 15, 11, 9, 14, 3, 12, 13, 0]]

/-- Four words that are mixed together: a column of the state or a diagonal. -/
structure BlakeLine where
  a : UInt64
  b : UInt64
  c : UInt64
  d : UInt64

namespace BlakeLine

/-- Half of the mixing, with a word of the block and two distances. -/
def half (q : BlakeLine) (word r s : UInt64) : BlakeLine :=
  let a := q.a + q.b + word
  let d := turnedBack (q.d ^^^ a) r
  let c := q.c + d
  ⟨a, turnedBack (q.b ^^^ c) s, c, d⟩

/-- Mixes the words of a line with two of the block. -/
def mix (q : BlakeLine) (x y : UInt64) : BlakeLine :=
  (q.half x 32 24).half y 16 63

end BlakeLine

/-- A state of sixteen words, by its columns. -/
structure BlakeState where
  first : BlakeLine
  second : BlakeLine
  third : BlakeLine
  fourth : BlakeLine

namespace BlakeState

/-- Mixes all columns, with the words of the block from a place in their order on. -/
def mix (s : BlakeState) (ws : Array UInt64) (order : Array Nat) (start : Nat) : BlakeState :=
  let word (i : Nat) : UInt64 := ws.getD (order.getD (start + i) 0) 0
  ⟨s.first.mix (word 0) (word 1), s.second.mix (word 2) (word 3), s.third.mix (word 4) (word 5),
    s.fourth.mix (word 6) (word 7)⟩

/-- The state with its diagonals as columns. -/
def diagonals (s : BlakeState) : BlakeState :=
  let ⟨p, q, r, t⟩ := s
  ⟨⟨p.a, q.b, r.c, t.d⟩, ⟨q.a, r.b, t.c, p.d⟩, ⟨r.a, t.b, p.c, q.d⟩, ⟨t.a, p.b, q.c, r.d⟩⟩

/-- The state whose diagonals are given as columns. -/
def ofDiagonals (s : BlakeState) : BlakeState :=
  let ⟨p, q, r, t⟩ := s
  ⟨⟨p.a, t.b, r.c, q.d⟩, ⟨q.a, p.b, t.c, r.d⟩, ⟨r.a, q.b, p.c, t.d⟩, ⟨t.a, r.b, q.c, p.d⟩⟩

/-- The rounds from one on. -/
def rounds (ws : Array UInt64) : Nat → Nat → BlakeState → BlakeState
  | 0, _, s => s
  | left + 1, i, s =>
    let order := blakeOrders.getD (i % 10) #[]
    rounds ws left (i + 1) (ofDiagonals ((s.mix ws order 0).diagonals.mix ws order 8))

end BlakeState

/-- The words that a state starts with. -/
def blakeStart : Array UInt64 := (squareRootBits 0).toArray

/-- A state after a block; `count` bytes were seen with it. -/
def blakeBlock (state : Array UInt64) (block : Bytes) (count : Nat) (last : Bool) : Array UInt64 :=
  let ws := longWords false #[] (block ++ List.replicate (128 - block.length) 0)
  let column (i : Nat) (d : UInt64) : BlakeLine :=
    ⟨state.getD i 0, state.getD (i + 4) 0, blakeStart.getD i 0, d⟩
  let fixed (i : Nat) : UInt64 := blakeStart.getD i 0
  let ended := if last then ~~~(fixed 6) else fixed 6
  let ⟨p, q, r, t⟩ := BlakeState.rounds ws 12 0
    ⟨column 0 (fixed 4 ^^^ UInt64.ofNat count), column 1 (fixed 5), column 2 ended, column 3 (fixed 7)⟩
  let mixed := #[p.a ^^^ p.c, q.a ^^^ q.c, r.a ^^^ r.c, t.a ^^^ t.c, p.b ^^^ p.d, q.b ^^^ q.d, r.b ^^^ r.d, t.b ^^^ t.d]
  Array.zipWith (· ^^^ ·) state mixed

/-- The checksum in so many bytes. -/
def blake2b (size : Nat) (content : Bytes) : Bytes :=
  let start := blakeStart.modify 0 fun w => w ^^^ UInt64.ofNat (0x01010000 + size)
  let whole := content.length
  let state := if content.isEmpty then blakeBlock start [] 0 true
    else (overPieces 128 (fun (state, seen) block =>
      let seen := seen + block.length
      (blakeBlock state block seen (seen == whole), seen)) (start, 0) content).1
  (bytesOf false 8 (state.toList.map UInt64.toNat)).take size

end ScriptCache.Shell.Checksum
