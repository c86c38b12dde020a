import ScriptCache.Machine.Path

/-! Slots: the files of one cached resource.

A resource's name is one part of a path, so a slot's three files lie directly in the
cache folder. The name is kept whole, dots and all, and each file has an ending of its
own. -/
namespace ScriptCache

/-- Why a text names no resource. -/
inductive NameFlaw where
  | empty
  | relative
  | separator
  | nul
  deriving DecidableEq

def NameFlaw.reason : NameFlaw → String
  | empty => "name is empty"
  | relative => "name is a relative directory reference"
  | separator => "contains a path separator"
  | nul => "contains a NUL byte"

/-- The first flaw of a name. Slashes of both kinds are refused. -/
def NameFlaw.of? (name : String) : Option NameFlaw :=
  if name = "" then some empty
  else if name = "." ∨ name = ".." then some relative
  else if '/' ∈ name.toList ∨ '\\' ∈ name.toList then some separator
  else if '\x00' ∈ name.toList then some nul
  else none

/-- The place of a resource in a cache folder. -/
structure Slot where
  folder : String
  name : String
  sound : NameFlaw.of? name = none
  deriving DecidableEq

namespace Slot

/-- The slot of a name, where it is one. -/
def of (folder name : String) : Except NameFlaw Slot :=
  match h : NameFlaw.of? name with
  | none => .ok ⟨folder, name, h⟩
  | some flaw => .error flaw

/-- The compiled object. -/
def artifact (slot : Slot) : String :=
  Path.join slot.folder (slot.name ++ ".o")

/-- What the object was made from. -/
def info (slot : Slot) : String :=
  slot.artifact ++ ".info"

/-- The file whose lock stands for the slot. -/
def lock (slot : Slot) : String :=
  slot.artifact ++ ".lock"

end Slot

end ScriptCache
