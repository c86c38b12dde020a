/-! Events: what is said along the way.

An event has a level, a message and named values. A measured time is a value of its
own, since it depends on nothing that this library computes. -/
namespace ScriptCache

inductive Level where
  | error
  | warn
  | info
  | debug
  deriving DecidableEq, Repr

def Level.label : Level → String
  | error => "ERROR"
  | warn => "WARN"
  | info => "INFO"
  | debug => "DEBUG"

/-- The value of a field. -/
inductive FieldValue where
  | text (value : String)
  /-- The milliseconds since the work began. -/
  | elapsed
  deriving DecidableEq, Repr

/-- A named value. -/
structure Field where
  name : String
  value : FieldValue
  deriving DecidableEq, Repr

namespace Field

def text (name value : String) : Field := ⟨name, .text value⟩

def nat (name : String) (value : Nat) : Field := ⟨name, .text (toString value)⟩

/-- The measured time, under its usual name. -/
def elapsed : Field := ⟨"elapsed_ms", .elapsed⟩

end Field

structure Event where
  level : Level
  message : String
  fields : List Field := []
  deriving DecidableEq, Repr

end ScriptCache
