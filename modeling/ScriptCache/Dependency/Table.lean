import ScriptCache.Digest.Basic
import ScriptCache.Wire.Format

/-! Dependency tables: what determined the content of an artifact.

A table lists the inputs of a build, each a module's name and the digest of its bytes.
The order of insertion is kept and written, but two tables are the same when they hold
the same entries equally often; a name may occur more than once. -/
namespace ScriptCache

/-- One input of a build. -/
structure Dependency where
  name : String
  digest : Digest
  deriving DecidableEq

namespace Dependency

/-- By name, then by digest, both byte by byte. -/
def compare (a b : Dependency) : Ordering :=
  (Bytes.compare (Utf8.encode a.name) (Utf8.encode b.name)).then (a.digest.compare b.digest)

def le (a b : Dependency) : Bool :=
  (compare a b).isLE

/-- A digest is its sixteen bytes. -/
def digestFormat : Wire.Format Digest :=
  .via (.raw 16) (fun d => ⟨d.bytes, d.length_eq⟩) (fun bytes => ⟨bytes.val, bytes.property⟩)

/-- The name, then the digest. -/
def format [Wire.Memory] : Wire.Format Dependency :=
  .via (.pair (.text Wire.Memory.bound) digestFormat) (fun d => (d.name, d.digest)) (fun (name, digest) => ⟨name, digest⟩)

end Dependency

/-- The inputs of a build, in the order they were named. -/
structure DependencyTable where
  entries : List Dependency := []
  deriving DecidableEq

namespace DependencyTable

def push (table : DependencyTable) (name : String) (digest : Digest) : DependencyTable :=
  ⟨table.entries ++ [⟨name, digest⟩]⟩

@[simp] theorem entries_push (table : DependencyTable) (name : String) (digest : Digest) :
    (table.push name digest).entries = table.entries ++ [⟨name, digest⟩] := rfl

def size (table : DependencyTable) : Nat :=
  table.entries.length

def isEmpty (table : DependencyTable) : Bool :=
  table.entries.isEmpty

/-- The digest of the first entry under a name. -/
def digestOf? (table : DependencyTable) (name : String) : Option Digest :=
  (table.entries.find? (·.name == name)).map (·.digest)

/-- The entries in the order of `Dependency.le`. -/
def sorted (table : DependencyTable) : List Dependency :=
  table.entries.mergeSort Dependency.le

/-- Whether two tables hold the same entries equally often. -/
def same (a b : DependencyTable) : Bool :=
  a.size == b.size && decide (a.sorted = b.sorted)

variable [Wire.Memory]

/-- The list of the entries. -/
def format : Wire.Format DependencyTable :=
  .via (.list Dependency.format) (·.entries) (⟨·⟩)

def encode (table : DependencyTable) : Bytes :=
  format.put table

/-- The table at the beginning of some bytes, and how many of them it takes up. -/
def decode (bytes : Bytes) : Except Wire.ReadError (DependencyTable × Nat) :=
  match format.read { rest := bytes } with
  | .ok (table, c) => .ok (table, bytes.length - c.rest.length)
  | .error e => .error e

end DependencyTable

end ScriptCache
