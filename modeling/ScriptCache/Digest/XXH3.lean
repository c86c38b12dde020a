import ScriptCache.Bytes

/-! The XXH3 hash function, 128 bits wide, with its default secret and seed zero.

Inputs are treated by length: up to sixteen bytes in one multiplication, up to 128 in
pairs of blocks from both ends, up to 240 in blocks of 32, and longer ones in stripes
of 64 bytes over eight accumulators. All arithmetic is modulo `2 ^ 64`; `mul128` alone
keeps both halves of a product. -/
namespace ScriptCache.XXH3

/-- Two 64-bit words. -/
structure Wide where
  low : UInt64
  high : UInt64
  deriving DecidableEq

def prime32₁ : UInt64 := 0x9E3779B1
def prime32₂ : UInt64 := 0x85EBCA77
def prime32₃ : UInt64 := 0xC2B2AE3D
def prime64₁ : UInt64 := 0x9E3779B185EBCA87
def prime64₂ : UInt64 := 0xC2B2AE3D27D4EB4F
def prime64₃ : UInt64 := 0x165667B19E3779F9
def prime64₄ : UInt64 := 0x85EBCA77C2B2AE63
def prime64₅ : UInt64 := 0x27D4EB2F165667C5
def primeMix₁ : UInt64 := 0x165667919E3779F9
def primeMix₂ : UInt64 := 0x9FB21C651E98DF25

/-- The default secret: 192 bytes that key every round. -/
def secret : Bytes :=
  [0xb8, 0xfe, 0x6c, 0x39, 0x23, 0xa4, 0x4b, 0xbe, 0x7c, 0x01, 0x81, 0x2c, 0xf7, 0x21, 0xad, 0x1c,
   0xde, 0xd4, 0x6d, 0xe9, 0x83, 0x90, 0x97, 0xdb, 0x72, 0x40, 0xa4, 0xa4, 0xb7, 0xb3, 0x67, 0x1f,
   0xcb, 0x79, 0xe6, 0x4e, 0xcc, 0xc0, 0xe5, 0x78, 0x82, 0x5a, 0xd0, 0x7d, 0xcc, 0xff, 0x72, 0x21,
   0xb8, 0x08, 0x46, 0x74, 0xf7, 0x43, 0x24, 0x8e, 0xe0, 0x35, 0x90, 0xe6, 0x81, 0x3a, 0x26, 0x4c,
   0x3c, 0x28, 0x52, 0xbb, 0x91, 0xc3, 0x00, 0xcb, 0x88, 0xd0, 0x65, 0x8b, 0x1b, 0x53, 0x2e, 0xa3,
   0x71, 0x64, 0x48, 0x97, 0xa2, 0x0d, 0xf9, 0x4e, 0x38, 0x19, 0xef, 0x46, 0xa9, 0xde, 0xac, 0xd8,
   0xa8, 0xfa, 0x76, 0x3f, 0xe3, 0x9c, 0x34, 0x3f, 0xf9, 0xdc, 0xbb, 0xc7, 0xc7, 0x0b, 0x4f, 0x1d,
   0x8a, 0x51, 0xe0, 0x4b, 0xcd, 0xb4, 0x59, 0x31, 0xc8, 0x9f, 0x7e, 0xc9, 0xd9, 0x78, 0x73, 0x64,
   0xea, 0xc5, 0xac, 0x83, 0x34, 0xd3, 0xeb, 0xc3, 0xc5, 0x81, 0xa0, 0xff, 0xfa, 0x13, 0x63, 0xeb,
   0x17, 0x0d, 0xdd, 0x51, 0xb7, 0xf0, 0xda, 0x49, 0xd3, 0x16, 0x55, 0x26, 0x29, 0xd4, 0x68, 0x9e,
   0x2b, 0x16, 0xbe, 0x58, 0x7d, 0x47, 0xa1, 0xfc, 0x8f, 0xf8, 0xb8, 0xd1, 0x7a, 0xd0, 0x31, 0xce,
   0x45, 0xcb, 0x3a, 0x8f, 0x95, 0x16, 0x04, 0x28, 0xaf, 0xd7, 0xfb, 0xca, 0xbb, 0x4b, 0x40, 0x7e]

/-- The eight bytes at `at_`, least significant first. -/
def word64 (bytes : Bytes) (at_ : Nat) : UInt64 :=
  UInt64.ofNat (Bytes.natAt bytes at_ 8)

/-- The four bytes at `at_`, least significant first. -/
def word32 (bytes : Bytes) (at_ : Nat) : UInt64 :=
  UInt64.ofNat (Bytes.natAt bytes at_ 4)

/-- Both halves of a product. -/
def mul128 (a b : UInt64) : Wide :=
  let product := a.toNat * b.toNat
  ⟨UInt64.ofNat product, UInt64.ofNat (product / UInt64.size)⟩

/-- The two halves of a product, added without carry. -/
def fold (a b : UInt64) : UInt64 :=
  let product := mul128 a b
  product.low ^^^ product.high

/-- The bytes of a 64-bit word in reverse order. -/
def swap64 (x : UInt64) : UInt64 :=
  UInt64.ofNat (Bytes.toNat (Bytes.littleEndian 8 x.toNat).reverse)

/-- The bytes of a 32-bit word in reverse order. -/
def swap32 (x : UInt64) : UInt64 :=
  UInt64.ofNat (Bytes.toNat (Bytes.littleEndian 4 x.toNat).reverse)

/-- A 32-bit word turned left by `n` bits. -/
def rotate32 (x : UInt64) (n : UInt64) : UInt64 :=
  ((x <<< n) ||| (x >>> (32 - n))) &&& 0xFFFFFFFF

def shiftMix (x : UInt64) (n : UInt64) : UInt64 := x ^^^ (x >>> n)

/-- The final mix of the longer inputs. -/
def avalanche (h : UInt64) : UInt64 :=
  shiftMix (shiftMix h 37 * primeMix₁) 32

/-- The final mix of the shortest inputs. -/
def avalancheShort (h : UInt64) : UInt64 :=
  shiftMix (shiftMix (shiftMix h 33 * prime64₂) 29 * prime64₃) 32

/-- No bytes. -/
def hashEmpty : Wide :=
  ⟨avalancheShort (word64 secret 64 ^^^ word64 secret 72),
   avalancheShort (word64 secret 80 ^^^ word64 secret 88)⟩

/-- One to three bytes: the first, the middle and the last, with the length. -/
def hashTiny (input : Bytes) (length : Nat) : Wide :=
  let byteAt := fun i => UInt64.ofNat (Bytes.natAt input i 1)
  let low := (byteAt 0 <<< 16) ||| (byteAt (length / 2) <<< 24) ||| byteAt (length - 1) |||
    UInt64.ofNat (256 * length)
  let high := rotate32 (swap32 low) 13
  ⟨avalancheShort (low ^^^ (word32 secret 0 ^^^ word32 secret 4)),
   avalancheShort (high ^^^ (word32 secret 8 ^^^ word32 secret 12))⟩

/-- Four to eight bytes: one word from each end. -/
def hashSmall (input : Bytes) (length : Nat) : Wide :=
  let value := word32 input 0 + (word32 input (length - 4) <<< 32)
  let keyed := value ^^^ (word64 secret 16 ^^^ word64 secret 24)
  let product := mul128 keyed (prime64₁ + UInt64.ofNat (4 * length))
  let high := product.high + (product.low <<< 1)
  let low := product.low ^^^ (high >>> 3)
  ⟨shiftMix (shiftMix low 35 * primeMix₂) 28, avalanche high⟩

/-- Nine to sixteen bytes: one double word from each end. -/
def hashMedium (input : Bytes) (length : Nat) : Wide :=
  let first := word64 input 0
  let last := word64 input (length - 8)
  let product := mul128 (first ^^^ last ^^^ (word64 secret 32 ^^^ word64 secret 40)) prime64₁
  let low := product.low + (UInt64.ofNat (length - 1) <<< 54)
  let keyed := last ^^^ (word64 secret 48 ^^^ word64 secret 56)
  let high := product.high + keyed + (keyed &&& 0xFFFFFFFF) * (prime32₂ - 1)
  let final := mul128 (low ^^^ swap64 high) prime64₂
  ⟨avalanche final.low, avalanche (final.high + high * prime64₂)⟩

/-- Sixteen bytes of input under sixteen bytes of the secret. -/
def mix16 (input : Bytes) (at_ key : Nat) : UInt64 :=
  fold (word64 input at_ ^^^ word64 secret key) (word64 input (at_ + 8) ^^^ word64 secret (key + 8))

/-- Two blocks of sixteen bytes mixed into the running pair. -/
def mix32 (input : Bytes) (acc : Wide) (a b key : Nat) : Wide :=
  ⟨(acc.low + mix16 input a key) ^^^ (word64 input b + word64 input (b + 8)),
   (acc.high + mix16 input b (key + 16)) ^^^ (word64 input a + word64 input (a + 8))⟩

/-- The running pair of a mid-size input, brought to its final form. -/
def finishMid (acc : Wide) (length : Nat) : Wide :=
  ⟨avalanche (acc.low + acc.high),
   0 - avalanche (acc.low * prime64₁ + acc.high * prime64₄ + UInt64.ofNat length * prime64₂)⟩

/-- Seventeen to 128 bytes: pairs of blocks from both ends, the inner pairs first. -/
def hashPairs (input : Bytes) (length : Nat) : Wide :=
  let pairs := (length - 1) / 32
  let acc := (List.range (pairs + 1)).reverse.foldl
    (fun acc i => mix32 input acc (16 * i) (length - 16 * (i + 1)) (32 * i))
    ⟨UInt64.ofNat length * prime64₁, 0⟩
  finishMid acc length

/-- 129 to 240 bytes: blocks of 32 in order, then the last 32 again. -/
def hashBlocks (input : Bytes) (length : Nat) : Wide :=
  let block := fun acc (i key : Nat) => mix32 input acc (32 * i) (32 * i + 16) key
  let start := (List.range 4).foldl (fun acc i => block acc i (32 * i))
    ⟨UInt64.ofNat length * prime64₁, 0⟩
  let acc := (List.range (length / 32 - 4)).foldl (fun acc i => block acc (i + 4) (32 * i + 3))
    ⟨avalanche start.low, avalanche start.high⟩
  finishMid (mix32 input acc (length - 16) (length - 32) (136 - 17 - 16)) length

/-- The eight running words of a long input. -/
def initial : List UInt64 :=
  [prime32₃, prime64₁, prime64₂, prime64₃, prime64₄, prime32₂, prime64₅, prime32₁]

/-- The words of a byte string, eight bytes each, as many as there are. -/
def words : Nat → Bytes → List UInt64
  | 0, _ => []
  | n + 1, bytes => UInt64.ofNat (Bytes.toNat (bytes.take 8)) :: words n (bytes.drop 8)

/-- The product of the two halves of a word. -/
def halves (x : UInt64) : UInt64 := (x &&& (0xFFFFFFFF : UInt64)) * (x >>> 32)

/-- Eight words of input under eight words of the secret: each word goes whole to its
neighbour and as a product of its halves to its own place. -/
def accumulate : List UInt64 → List UInt64 → List UInt64 → List UInt64
  | a₀ :: a₁ :: acc, d₀ :: d₁ :: data, k₀ :: k₁ :: keys =>
    (a₀ + d₁ + halves (d₀ ^^^ k₀)) :: (a₁ + d₀ + halves (d₁ ^^^ k₁)) :: accumulate acc data keys
  | acc, _, _ => acc

/-- The mix after every sixteen stripes. -/
def scramble (acc keys : List UInt64) : List UInt64 :=
  acc.zipWith (fun a k => (shiftMix a 47 ^^^ k) * prime32₁) keys

/-- The eight words of the secret at `at_`. -/
def keysAt (at_ : Nat) : List UInt64 :=
  words 8 (secret.drop at_)

/-- The keys of the sixteen stripes of a block. -/
def stripeKeys : List (List UInt64) :=
  (List.range 16).map fun i => keysAt (8 * i)

/-- Runs over so many stripes, the next of them under the first of the keys at hand.
A block ends when the keys run out: the words are scrambled under `last`, and `all` the
keys of a block are at hand again. -/
def stripes (all : List (List UInt64)) (last : List UInt64) :
    Nat → List (List UInt64) → List UInt64 → Bytes → List UInt64
  | 0, [], acc, _ => scramble acc last
  | 0, _ :: _, acc, _ => acc
  | n + 1, [], acc, input =>
    match all with
    | [] => acc
    | k :: rest =>
      stripes all last n rest (accumulate (scramble acc last) (words 8 input) k) (input.drop 64)
  | n + 1, k :: rest, acc, input =>
    stripes all last n rest (accumulate acc (words 8 input) k) (input.drop 64)

/-- The eight words, folded in pairs under the secret at `key`. -/
def merge (acc : List UInt64) (key : Nat) (start : UInt64) : UInt64 :=
  avalanche (go start acc (keysAt key))
where
  go : UInt64 → List UInt64 → List UInt64 → UInt64
    | sum, a₀ :: a₁ :: acc, k₀ :: k₁ :: keys => go (sum + fold (a₀ ^^^ k₀) (a₁ ^^^ k₁)) acc keys
    | sum, _, _ => sum

/-- More than 240 bytes: every stripe but the last 64 bytes, which are read on their
own, whatever stripe they begin in. -/
def hashLong (input : Bytes) (length : Nat) : Wide :=
  let acc := stripes stripeKeys (keysAt 128) ((length - 1) / 64) stripeKeys initial input
  let acc := accumulate acc (words 8 (input.drop (length - 64))) (keysAt 121)
  ⟨merge acc 11 (UInt64.ofNat length * prime64₁),
   merge acc 117 (~~~(UInt64.ofNat length * prime64₂))⟩

/-- The hash of a byte string. -/
def hash (input : Bytes) : Wide :=
  let length := input.length
  if length = 0 then hashEmpty
  else if length ≤ 3 then hashTiny input length
  else if length ≤ 8 then hashSmall input length
  else if length ≤ 16 then hashMedium input length
  else if length ≤ 128 then hashPairs input length
  else if length ≤ 240 then hashBlocks input length
  else hashLong input length

end ScriptCache.XXH3
