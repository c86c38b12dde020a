import ScriptCache.Dependency.Table

/-! Info files: what an artifact was made from and what its bytes were.

An info file is a frame of three parts: the length of the header in four bytes, the
header, and the payload. The header has the magic bytes, the version of the format and
the digest of the payload, so a file that was cut short or changed is told from a whole
one. Every part is read by its own format; bytes that the header has left over are not
looked at, bytes after the payload are refused. -/
namespace ScriptCache

/-- What an artifact was made from. -/
structure Metadata where
  dependencies : DependencyTable
  /-- The compiler settings that the artifact depends on. -/
  signature : Bytes
  /-- The digest of the artifact. -/
  checksum : Digest
  deriving DecidableEq

/-- Why bytes are no info file. -/
inductive InfoFlaw where
  | tooShort (size : Nat)
  | headerTooLong (length : Nat)
  | badHeader (error : Wire.ReadError)
  | badMagic
  | badVersion (version : UInt32)
  | badChecksum
  | badPayload (error : Wire.ReadError)
  | trailing
  deriving DecidableEq

namespace Metadata

def magic : { bytes : Bytes // bytes.length = 4 } := ⟨[0x52, 0x53, 0x43, 0x49], rfl⟩
def version : UInt32 := 1

end Metadata

def InfoFlaw.message : InfoFlaw → String
  | tooShort size => s!"file too short ({size} bytes)"
  | headerTooLong length => s!"header length {length} exceeds file size"
  | badHeader error => s!"undecodable header: {error.message}"
  | badMagic => "bad magic"
  | badVersion version => s!"format version {version} (expected {Metadata.version})"
  | badChecksum => "payload checksum mismatch"
  | badPayload error => s!"undecodable payload: {error.message}"
  | trailing => "trailing bytes after payload"

/-- Whether a flaw breaks off what the file is read for. -/
def InfoFlaw.breaksOff : InfoFlaw → Bool
  | badHeader error | badPayload error => error.breaksOff
  | _ => false

namespace Metadata

/-- The metadata of an artifact. -/
def ofArtifact (dependencies : DependencyTable) (signature artifact : Bytes) : Metadata where
  dependencies
  signature
  checksum := .ofBytes artifact

/-- Whether these are the bytes that the metadata was made with. -/
def matchesArtifact (m : Metadata) (artifact : Bytes) : Bool :=
  Digest.ofBytes artifact == m.checksum

/-- The magic bytes, the version and the digest of the payload. -/
def headerFormat : Wire.Format ({ bytes : Bytes // bytes.length = 4 } × UInt32 × Digest) :=
  .pair (.raw 4) (.pair .word32 Dependency.digestFormat)

variable [Wire.Memory]

/-- The table, the signature and the digest of the artifact. -/
def payloadFormat : Wire.Format Metadata :=
  .via (.pair DependencyTable.format (.pair (.list .byte) Dependency.digestFormat))
    (fun m => (m.dependencies, m.signature, m.checksum))
    (fun (dependencies, signature, checksum) => ⟨dependencies, signature, checksum⟩)

/-- The frame of some metadata, with any digest of the payload. -/
def encodeWith (digest : Bytes → Digest) (m : Metadata) : Bytes :=
  let payload := payloadFormat.put m
  let header := headerFormat.put (magic, version, digest payload)
  Bytes.littleEndian 4 header.length ++ header ++ payload

/-- Reads a frame, with any digest of the payload. -/
def decodeWith (digest : Bytes → Digest) (raw : Bytes) : Except InfoFlaw Metadata :=
  if raw.length < 4 then .error (.tooShort raw.length)
  else
    let length := Bytes.natAt raw 0 4
    if raw.length < 4 + length then .error (.headerTooLong length)
    else
      match headerFormat.read { rest := (raw.drop 4).take length } with
      | .error e => .error (.badHeader e)
      | .ok ((magic, version, checksum), _) =>
        if magic ≠ Metadata.magic then .error .badMagic
        else if version ≠ Metadata.version then .error (.badVersion version)
        else
          let payload := raw.drop (4 + length)
          if digest payload ≠ checksum then .error .badChecksum
          else
            match payloadFormat.read { rest := payload } with
            | .error e => .error (.badPayload e)
            | .ok (m, c) => if c.rest.isEmpty then .ok m else .error .trailing

/-- The content of the info file. -/
def encode (m : Metadata) : Bytes :=
  encodeWith .ofBytes m

/-- Reads the content of an info file. -/
def decode (raw : Bytes) : Except InfoFlaw Metadata :=
  decodeWith .ofBytes raw

end Metadata

end ScriptCache
