import ScriptCache.Text.Name

/-! Byte strings as texts of one character a byte.

What handles bytes and calls them text works on these: the characters up to U+00FF, one
for each byte. `ofBytes` and `toBytes` are inverse to each other (`toBytes_ofBytes`). -/
namespace ScriptCache.Latin

/-- One character for each byte. -/
def charsOf (bytes : Bytes) : List Char :=
  bytes.map fun b => Char.ofNat b.toNat

/-- The text with one character for each byte. -/
def ofBytes (bytes : Bytes) : String :=
  String.ofList (charsOf bytes)

/-- The bytes that characters stand for. -/
def bytesOf (cs : List Char) : Bytes :=
  cs.map fun c => UInt8.ofNat c.toNat

/-- The bytes that a text stands for. -/
def toBytes (text : String) : Bytes :=
  bytesOf text.toList

/-- A text of any characters, byte by byte of its UTF-8. -/
def ofText (text : String) : String :=
  ofBytes (Utf8.encode text)

/-- A file name, byte by byte. -/
def ofName (name : String) : String :=
  ofBytes (Name.toBytes name)

/-- The file name that a text spells. -/
def toName (text : String) : String :=
  Name.ofBytes (toBytes text)

theorem toNat_ofNat {n : Nat} (small : n < 256) : (Char.ofNat n).toNat = n := by
  have valid : n.isValidChar := Or.inl (Nat.lt_trans small (by decide))
  rw [Char.ofNat, dif_pos valid]
  rfl

theorem bytesOf_charsOf (bytes : Bytes) : bytesOf (charsOf bytes) = bytes := by
  simp [bytesOf, charsOf, Function.comp_def, toNat_ofNat (UInt8.toNat_lt _)]

/-- The text of some bytes stands for them. -/
@[simp] theorem toBytes_ofBytes (bytes : Bytes) : toBytes (ofBytes bytes) = bytes := by
  simp [toBytes, ofBytes, bytesOf_charsOf]

end ScriptCache.Latin
