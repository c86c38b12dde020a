import ScriptCache.Text.Utf8

/-! Reading values from bytes.

A reader is given a cursor: the bytes not read yet and, where one is set, the budget
that is left. Reading claims from the budget before it looks at the bytes, so a value
that announces more than the budget allows is refused even when its bytes are missing.
The first part that cannot be read decides the error. -/
namespace ScriptCache.Wire

/-- The integers a marker byte can announce, and the one marker with no meaning. -/
inductive IntegerKind where
  | bits32
  | bits64
  | bits128
  | count
  | reserved
  deriving DecidableEq, Repr

def IntegerKind.label : IntegerKind → String
  | bits32 => "U32"
  | bits64 => "U64"
  | bits128 => "U128"
  | count => "Usize"
  | reserved => "Reserved"

/-- Why bytes could not be read as a value. -/
inductive ReadError where
  /-- The input ended; so many bytes more were wanted. -/
  | unexpectedEnd (additional : Nat)
  /-- A marker announced an integer of another kind. -/
  | badMarker (expected found : IntegerKind)
  /-- A text had a flaw. -/
  | badText (flaw : Utf8.Flaw)
  /-- The budget was spent. -/
  | limitExceeded
  /-- A text was announced that there is no room for; reading breaks off. -/
  | beyondMemory
  deriving DecidableEq, Repr

def ReadError.message : ReadError → String
  | unexpectedEnd additional => s!"UnexpectedEnd \x7b additional: {additional} \x7d"
  | badMarker expected found =>
    s!"InvalidIntegerType \x7b expected: {expected.label}, found: {found.label} \x7d"
  | badText flaw =>
    let length := match flaw.length? with
      | some n => s!"Some({n})"
      | none => "None"
    s!"Utf8 \x7b inner: Utf8Error \x7b valid_up_to: {flaw.validUpTo}, error_len: {length} \x7d \x7d"
  | limitExceeded => "LimitExceeded"
  | beyondMemory => "capacity overflow"

/-- Whether an error breaks off what the bytes are read for. -/
def ReadError.breaksOff : ReadError → Bool
  | beyondMemory => true
  | _ => false

/-- The bytes not read yet and the budget left, if there is one. -/
structure Cursor where
  rest : Bytes
  budget : Option Nat := none
  deriving DecidableEq

/-- Reads one value and hands on the cursor behind it. -/
abbrev Reader (α : Type) := Cursor → Except ReadError (α × Cursor)

namespace Cursor

/-- Takes `n` from the budget. -/
def claim (n : Nat) (c : Cursor) : Except ReadError Cursor :=
  match c.budget with
  | none => .ok c
  | some left => if n ≤ left then .ok { c with budget := some (left - n) } else .error .limitExceeded

/-- The next `n` bytes, all at once. -/
def take (n : Nat) : Reader Bytes := fun c =>
  let taken := c.rest.take n
  if taken.length < n then .error (.unexpectedEnd (n - taken.length))
  else .ok (taken, { c with rest := c.rest.drop n })

theorem take_append (bytes rest : Bytes) (budget : Option Nat) :
    take bytes.length ⟨bytes ++ rest, budget⟩ = .ok (bytes, ⟨rest, budget⟩) := by
  simp [take]

end Cursor

end ScriptCache.Wire
