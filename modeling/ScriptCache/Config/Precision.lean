import ScriptCache.Config.Error
import ScriptCache.Text.Blank

/-! How exactly a compiled script has to compute with floats. -/
namespace ScriptCache

inductive Precision where
  | full
  /-- Small numbers may be flushed to zero. -/
  | relaxed
  /-- Routines of reduced accuracy may be used as well. -/
  | imprecise
  deriving DecidableEq, Repr

namespace Precision

def name : Precision → String
  | full => "full"
  | relaxed => "relaxed"
  | imprecise => "imprecise"

/-- The name as descriptions have it. -/
def label : Precision → String
  | full => "Full"
  | relaxed => "Relaxed"
  | imprecise => "Imprecise"

/-- The number that stands for the precision among compiler settings. -/
def code : Precision → UInt8
  | full => 0
  | relaxed => 1
  | imprecise => 2

/-- The precision of exactly this name. -/
def ofName? (name : String) : Option Precision :=
  if name = "full" then some full
  else if name = "relaxed" then some relaxed
  else if name = "imprecise" then some imprecise
  else none

/-- The precision a person names: blanks around the name and the case of its letters do
not matter. -/
def parse? (text : String) : Option Precision :=
  ofName? (Text.lowerAscii (Text.trim text))

def parse (text : String) : Except ConfigError Precision :=
  match parse? text with
  | some p => .ok p
  | none => .error (.invalidValue "precision" text)

@[simp] theorem ofName?_name (p : Precision) : ofName? p.name = some p := by
  cases p <;> rfl

end Precision

end ScriptCache
