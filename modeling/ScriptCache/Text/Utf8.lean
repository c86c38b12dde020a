import ScriptCache.Bytes

/-! Text as bytes.

`decode` reads back what `encode` wrote (`decode_encode`) and nothing else
(`eq_encode_of_decode`). Bytes that are no text are refused with the place and the size
of the first flaw: the longest start of a character that the bytes at that place could
still have become. `decodeLossy` reads any bytes, one replacement character
for each flaw. -/
namespace ScriptCache.Utf8

/-- Where a byte string stops being text. -/
structure Flaw where
  /-- How many bytes before it are text. -/
  validUpTo : Nat
  /-- How many bytes the flaw has, or nothing when the input ends inside a character. -/
  length? : Option Nat
  deriving DecidableEq, Repr

/-- The UTF-8 bytes of a text. -/
def encode (s : String) : Bytes :=
  s.toUTF8.data.toList

/-- What a leading byte announces: its own share of the character's number, how many
bytes follow, and the range of the first of those. -/
structure Lead where
  value : Nat
  follow : Nat
  low : Nat
  high : Nat

/-- The characters a leading byte can open, with the overlong forms, the surrogates
and the numbers past the last character cut off by the range of the second byte. -/
def lead? (b : UInt8) : Option Lead :=
  let n := b.toNat
  if n < 0x80 then some ⟨n, 0, 0x80, 0xBF⟩
  else if n < 0xC2 then none
  else if n < 0xE0 then some ⟨n - 0xC0, 1, 0x80, 0xBF⟩
  else if n = 0xE0 then some ⟨n - 0xE0, 2, 0xA0, 0xBF⟩
  else if n = 0xED then some ⟨n - 0xE0, 2, 0x80, 0x9F⟩
  else if n < 0xF0 then some ⟨n - 0xE0, 2, 0x80, 0xBF⟩
  else if n = 0xF0 then some ⟨n - 0xF0, 3, 0x90, 0xBF⟩
  else if n < 0xF4 then some ⟨n - 0xF0, 3, 0x80, 0xBF⟩
  else if n = 0xF4 then some ⟨n - 0xF0, 3, 0x80, 0x8F⟩
  else none

/-- How a byte string starts: with a character, or with a flaw of so many bytes. -/
inductive Start where
  | char (c : Char) (size : Nat) (rest : Bytes)
  | flaw (size : Nat) (complete : Bool)

/-- Reads the bytes that follow a leading byte, `seen` bytes of the character so far. -/
def follow (value seen : Nat) : Nat → Nat → Nat → Bytes → Start
  | 0, _, _, rest => .char (Char.ofNat value) seen rest
  | _ + 1, _, _, [] => .flaw seen false
  | n + 1, low, high, b :: rest =>
    if low ≤ b.toNat ∧ b.toNat ≤ high then
      follow (64 * value + (b.toNat - 0x80)) (seen + 1) n 0x80 0xBF rest
    else .flaw seen true

/-- How a byte string starts; nothing when it is empty. -/
def start? : Bytes → Option Start
  | [] => none
  | b :: rest =>
    match lead? b with
    | none => some (.flaw 1 true)
    | some l => some (follow l.value 1 l.follow l.low l.high rest)

/-- The first flaw at or after position `at_`, looking at `fuel` characters at most. -/
def flawFrom (at_ : Nat) : Nat → Bytes → Option Flaw
  | 0, _ => none
  | fuel + 1, bytes =>
    match start? bytes with
    | none => none
    | some (.char _ size rest) => flawFrom (at_ + size) fuel rest
    | some (.flaw size complete) => some ⟨at_, if complete then some size else none⟩

/-- The text that some bytes are, or their first flaw. -/
def decode (bytes : Bytes) : Except Flaw String :=
  match String.fromUTF8? ⟨bytes.toArray⟩ with
  | some text => .ok text
  | none => .error ((flawFrom 0 bytes.length bytes).getD ⟨bytes.length, none⟩)

/-- Reading gives back what was written. -/
@[simp] theorem decode_encode (s : String) : decode (encode s) = .ok s := by
  have h : String.fromUTF8? s.toUTF8 = some s := by
    simp [String.fromUTF8?, String.fromUTF8]
    exact s.isValidUTF8
  have same : (⟨(encode s).toArray⟩ : ByteArray) = s.toUTF8 := by simp [encode]
  rw [decode, same, h]

/-- A text is known by its bytes. -/
theorem encode_injective : Function.Injective encode := by
  intro s t h
  have hs := decode_encode s
  rw [h, decode_encode] at hs
  exact (Except.ok.inj hs).symm

/-- Bytes that are a text are the bytes of that text. -/
theorem eq_encode_of_decode {bytes : Bytes} {s : String} (h : decode bytes = .ok s) :
    bytes = encode s := by
  unfold decode at h
  split at h
  · rename_i t ht
    cases h
    unfold String.fromUTF8? at ht
    split at ht
    · cases ht
      rfl
    · cases ht
  · cases h

/-- Pushes the characters of `bytes` onto `seen`, last first, each flaw as `U+FFFD`. -/
def lossyOnto (seen : List Char) : Nat → Bytes → List Char
  | 0, _ => seen
  | fuel + 1, bytes =>
    match start? bytes with
    | none => seen
    | some (.char c _ rest) => lossyOnto (c :: seen) fuel rest
    | some (.flaw size _) => lossyOnto ('\uFFFD' :: seen) fuel (bytes.drop size)

/-- The text of any bytes, each flaw read as one replacement character. -/
def decodeLossy (bytes : Bytes) : String :=
  String.ofList (lossyOnto [] bytes.length bytes).reverse

end ScriptCache.Utf8
