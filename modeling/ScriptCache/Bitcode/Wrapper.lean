import ScriptCache.Bytes
import ScriptCache.Text.Numeral

/-! The header that may precede a script's bitcode.

A header is eleven little-endian fields in 44 bytes, the first of them the magic number.
It says where the bitcode lies in the buffer, for which interface and by which front end
it was made, and which optimization level it was written for. A buffer that does not
begin with the magic number is bitcode as a whole. Every read below comes with the proof
that it lies inside the buffer. -/
namespace ScriptCache

/-- The two fields that carry a tag and their own length. -/
inductive WrapperField where
  | compilerVersion
  | optimizationLevel
  deriving DecidableEq

def WrapperField.label : WrapperField → String
  | compilerVersion => "compiler version"
  | optimizationLevel => "optimization level"

def WrapperField.tag : WrapperField → Nat
  | compilerVersion => 0x4001
  | optimizationLevel => 0x4002

/-- What is wrong with a header. -/
inductive WrapperFlaw where
  | truncated (size : Nat)
  | outside (offset size length : Nat)
  | emptyModule
  | badField (field : WrapperField) (tag length : Nat)
  | badLevel (level : Nat)
  deriving DecidableEq

/-- What a buffer of bitcode says of itself. -/
structure Wrapper where
  /-- Whether there is a header. -/
  wrapped : Bool
  offset : Nat
  size : Nat
  targetApi : UInt32
  compilerVersion : UInt32
  level : UInt8
  deriving DecidableEq

namespace Wrapper

def magic : Nat := 0x0B17C0DE
def headerSize : Nat := 44
/-- The length of a tagged field. -/
def fieldSize : Nat := 4
def maxLevel : Nat := 3
/-- The level of bitcode without a header. -/
def defaultLevel : UInt8 := 3

end Wrapper

def WrapperFlaw.message : WrapperFlaw → String
  | truncated size => s!"bitcode wrapper truncated ({size} of {Wrapper.headerSize} header bytes)"
  | outside offset size length =>
    s!"bitcode range {offset}+{size} outside buffer of {length} bytes"
  | emptyModule => "bitcode wrapper holds an empty module"
  | badField field tag length =>
    s!"bad {field.label} field (tag {Numeral.hex 4 tag}, length {length})"
  | badLevel level => s!"optimization level {level} out of range"

namespace Wrapper

/-- Whether a buffer begins with the magic number. -/
def hasMagic (buffer : Bytes) : Bool :=
  if h : buffer.length < 4 then false else buffer.natIn 0 4 (by omega) == magic

/-- A buffer without a header: bitcode from end to end. -/
def bare (buffer : Bytes) : Wrapper where
  wrapped := false
  offset := 0
  size := buffer.length
  targetApi := 0
  compilerVersion := 0
  level := defaultLevel

/-- The tag and the length at a position, where they are not those of the field. -/
def fieldFlaw? (buffer : Bytes) (field : WrapperField) (at_ : Nat)
    (inside : at_ + 4 ≤ buffer.length) : Option WrapperFlaw :=
  let tag := buffer.natIn at_ 2 (by omega)
  let length := buffer.natIn (at_ + 2) 2 (by omega)
  if tag = field.tag ∧ length = fieldSize then none else some (.badField field tag length)

/-- Reads a whole header. -/
def parseHeader (buffer : Bytes) (whole : headerSize ≤ buffer.length) :
    Except WrapperFlaw Wrapper :=
  have whole : 44 ≤ buffer.length := whole
  let offset := buffer.natIn 8 4 (by omega)
  let size := buffer.natIn 12 4 (by omega)
  let level := buffer.natIn 40 4 (by omega)
  if offset < headerSize ∨ buffer.length < offset + size then
    .error (.outside offset size buffer.length)
  else if size = 0 then .error .emptyModule
  else
    match fieldFlaw? buffer .compilerVersion 28 (by omega),
      fieldFlaw? buffer .optimizationLevel 36 (by omega) with
    | some flaw, _ => .error flaw
    | none, some flaw => .error flaw
    | none, none =>
      if maxLevel < level then .error (.badLevel level)
      else
        .ok {
          wrapped := true
          offset
          size
          targetApi := .ofNat (buffer.natIn 20 4 (by omega))
          compilerVersion := .ofNat (buffer.natIn 32 4 (by omega))
          level := .ofNat level }

/-- Reads what a buffer says of itself. -/
def parse (buffer : Bytes) : Except WrapperFlaw Wrapper :=
  if hasMagic buffer then
    if h : buffer.length < headerSize then .error (.truncated buffer.length)
    else parseHeader buffer (Nat.le_of_not_lt h)
  else .ok (bare buffer)

/-- The bitcode itself. -/
def payload (w : Wrapper) (buffer : Bytes) : Bytes :=
  (buffer.drop w.offset).take w.size

/-- The bitcode itself, where the buffer has so many bytes. -/
def payload? (w : Wrapper) (buffer : Bytes) : Option Bytes :=
  if w.offset + w.size ≤ buffer.length then some (w.payload buffer) else none

/-- Puts a header before some bitcode. Of its length 32 bits are kept. -/
def wrap (bitcode : Bytes) (targetApi compilerVersion : UInt32) (level : UInt8) : Bytes :=
  Bytes.littleEndian 4 magic ++ Bytes.littleEndian 4 0 ++
    Bytes.littleEndian 4 headerSize ++ Bytes.littleEndian 4 bitcode.length ++
    Bytes.littleEndian 4 0 ++ Bytes.littleEndian 4 targetApi.toNat ++ Bytes.littleEndian 4 0 ++
    Bytes.littleEndian 2 WrapperField.compilerVersion.tag ++ Bytes.littleEndian 2 fieldSize ++
    Bytes.littleEndian 4 compilerVersion.toNat ++
    Bytes.littleEndian 2 WrapperField.optimizationLevel.tag ++ Bytes.littleEndian 2 fieldSize ++
    Bytes.littleEndian 4 level.toNat ++ bitcode

end Wrapper

end ScriptCache
