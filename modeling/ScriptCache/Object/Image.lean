import ScriptCache.Text.Numeral
import ScriptCache.Wire.Format

/-! Object images: what a compiler produces and a loader takes.

An image is four magic bytes and a body: the names of the symbols the code refers to, the
symbols it defines with their places in it, and the code. Reading has a budget, so that
a length that is out of all proportion is refused before anything is made of it, and no
byte may be left over. -/
namespace ScriptCache

/-- A symbol that an image defines. -/
structure Export where
  name : String
  /-- Its place in the code. -/
  offset : UInt64
  deriving DecidableEq

structure ObjectImage where
  imports : List String := []
  exports : List Export := []
  /-- The code. -/
  text : Bytes := []
  deriving DecidableEq

/-- Why bytes are no image, or an image is no program. -/
inductive ImageFlaw where
  | noMagic
  | undecodable (error : Wire.ReadError)
  | trailing (count : Nat)
  | outside (name : String) (offset : UInt64) (size : Nat)
  | repeated (name : String)
  deriving DecidableEq

def ImageFlaw.message : ImageFlaw → String
  | noMagic => "missing object magic"
  | undecodable error => s!"undecodable image: {error.message}"
  | trailing count => s!"{count} trailing bytes after image"
  | outside name offset size =>
    s!"export '{name}' at {Numeral.hex 0 offset.toNat} lies outside {size} bytes of text"
  | repeated name => s!"export '{name}' defined twice"

namespace ObjectImage

def magic : Bytes := [0x52, 0x53, 0x43, 0x4F]

/-- What reading a body may claim. -/
def budget : Nat := 256 * 1024 * 1024

/-- The name of a symbol. One that there could be no room for is beyond the budget. -/
def nameFormat : Wire.Format String :=
  .text Wire.Format.memoryBound

/-- The name, then the place. -/
def exportFormat : Wire.Format Export :=
  .via (.pair nameFormat .word64) (fun e => (e.name, e.offset)) (fun (name, offset) => ⟨name, offset⟩)

/-- The imports, the exports and the code. -/
def format : Wire.Format ObjectImage :=
  .via (.pair (.list nameFormat) (.pair (.list exportFormat) (.list .byte)))
    (fun image => (image.imports, image.exports, image.text))
    (fun (imports, exports, text) => ⟨imports, exports, text⟩)

def encode (image : ObjectImage) : Bytes :=
  magic ++ format.put image

/-- What follows the magic bytes. -/
def body? (bytes : Bytes) : Option Bytes :=
  if bytes.take magic.length = magic then some (bytes.drop magic.length) else none

def decode (bytes : Bytes) : Except ImageFlaw ObjectImage :=
  match body? bytes with
  | none => .error .noMagic
  | some body =>
    match format.read { rest := body, budget := some budget } with
    | .error e => .error (.undecodable e)
    | .ok (image, c) =>
      if c.rest.isEmpty then .ok image else .error (.trailing c.rest.length)

end ObjectImage

end ScriptCache
