import ScriptCache.Text.Utf8

/-! File names as texts.

A file name is any bytes. What is text in it stands for itself; a byte that is part of no
character is held as one of the last 128 characters. So two names are the same text only if they
are the same bytes.

A text that is given with one of these characters for its own sake, which are for private use, is
taken to have the byte that the character holds: it counts one byte in `size` and not the four
that it has in UTF-8, and the limit on the length of a name is misplaced for such a text. -/
namespace ScriptCache.Name

/-- Where the characters that hold bytes begin. -/
def heldFrom : Nat := 0x10FF00

/-- The character that holds a byte. -/
def held (b : UInt8) : Char :=
  Char.ofNat (heldFrom + b.toNat)

/-- Whether a character holds a byte from 128 up. -/
def isHeld (c : Char) : Bool :=
  heldFrom + 128 ≤ c.toNat

/-- Pushes the characters of a name onto `seen`, last first. -/
def onto (seen : List Char) : Nat → Bytes → List Char
  | 0, _ => seen
  | fuel + 1, bytes =>
    match Utf8.start? bytes with
    | none => seen
    | some (.char c size rest) =>
      if isHeld c then onto ((bytes.take size).reverse.map held ++ seen) fuel rest
      else onto (c :: seen) fuel rest
    | some (.flaw size _) => onto ((bytes.take size).reverse.map held ++ seen) fuel (bytes.drop size)

/-- The name that some bytes are. -/
def ofBytes (bytes : Bytes) : String :=
  String.ofList (onto [] bytes.length bytes).reverse

/-- The bytes that a name is. -/
def toBytes (name : String) : Bytes :=
  if name.toList.any isHeld then
    name.toList.flatMap fun c =>
      if isHeld c then [UInt8.ofNat (c.toNat - heldFrom)] else Utf8.encode (String.singleton c)
  else Utf8.encode name

/-- How many bytes a name has. -/
def size (name : String) : Nat :=
  (toBytes name).length

/-- A name as it is shown, with a replacement character for each flaw. -/
def shown (name : String) : String :=
  Utf8.decodeLossy (toBytes name)

end ScriptCache.Name
