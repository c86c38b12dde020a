import ScriptCache.Config.Settings
import ScriptCache.Toml.Document

/-! Settings out of a TOML document.

Every section and every setting may be left out, and unknown ones are passed over. A
section is a table, or an array with its settings in order; a date stands for a section
without settings. An integer has to fit its setting. A precision is named in lower case,
by a text or as the only key of a table, where it holds an empty table or array. -/
namespace ScriptCache

namespace Toml.Value

/-- What a section says of its settings, in the order of their names; nothing if a value
is no section. -/
def fields? (names : List String) : Value → Option (List (Option Value))
  | .table _ entries => some (names.map fun name => entries.lookup name)
  | .array items => some (names.zipIdx.map fun (_, i) => items[i]?)
  | .tables rows => some (names.zipIdx.map fun (_, i) => rows[i]?.map (Value.table .header))
  | .moment => some (names.map fun _ => none)
  | _ => none

def boolean? : Value → Option Bool
  | .boolean b => some b
  | _ => none

/-- A number below a bound. -/
def below? (bound : Nat) : Value → Option Nat
  | .integer (.ofNat n) => if n < bound then some n else none
  | _ => none

def isEmpty : Value → Bool
  | .table _ [] => true
  | .array [] => true
  | .tables [] => true
  | _ => false

def precision? : Value → Option Precision
  | .text s => Precision.ofName? s
  | .table _ [(key, value)] => if isEmpty value then Precision.ofName? key else none
  | _ => none

end Toml.Value

namespace Settings

open Toml (Value)

/-- A setting that may be left out. -/
def optional {α : Type} (read : Value → Option α) (default : α) : Option Value → Option α
  | none => some default
  | some value => read value

def readCache (value : Value) : Option CacheSettings := do
  match ← Value.fields? ["force_recompile"] value with
  | [force] => some ⟨← optional Value.boolean? false force⟩
  | _ => none

def readLock (value : Value) : Option LockSettings := do
  match ← Value.fields? ["max_attempts", "initial_backoff_ms", "max_backoff_ms"] value with
  | [attempts, initial, cap] =>
    let attempts ← optional (Value.below? UInt32.size) 8 attempts
    let initial ← optional (Value.below? UInt64.size) 5 initial
    let cap ← optional (Value.below? UInt64.size) 200 cap
    some ⟨UInt32.ofNat attempts, UInt64.ofNat initial, UInt64.ofNat cap⟩
  | _ => none

def readCompiler (value : Value) : Option CompilerSettings := do
  match ← Value.fields? ["optimization_level", "precision"] value with
  | [level, precision] =>
    let level ← optional (fun v => (Value.below? UInt8.size v).map some) none level
    let precision ← optional (fun v => (Value.precision? v).map some) none precision
    some ⟨level.map UInt8.ofNat, precision⟩
  | _ => none

/-- The settings that the entries of a document make. -/
def ofEntries (entries : Toml.Entries) : Option Settings := do
  let cache ← optional readCache {} (entries.lookup "cache")
  let lock ← optional readLock {} (entries.lookup "lock")
  let compiler ← optional readCompiler {} (entries.lookup "compiler")
  some ⟨cache, lock, compiler⟩

/-- Reads settings that go together. -/
def parse (document : String) : Except ConfigError Settings :=
  match (Toml.parse document).bind ofEntries with
  | none => .error (.parse "the document does not describe settings")
  | some s =>
    match s.validate with
    | .ok () => .ok s
    | .error e => .error e

end Settings

end ScriptCache
