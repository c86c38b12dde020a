import Mathlib
import ScriptCache.Bitcode.Wrapper

/-! Which buffers have a sound header.

A buffer that begins with the magic number has a header, and the header is sound if it is there as
a whole, points to a filled range behind itself and inside the buffer, and has its two tagged fields
and its level as they should be (`Header`). A buffer is refused exactly if it has a header that is
not sound (`parse_refuses_iff`). -/
namespace ScriptCache.Wrapper

variable {buffer : Bytes}

/-- Whether a buffer begins with the magic number. -/
def Marked (buffer : Bytes) : Prop :=
  4 ≤ buffer.length ∧ buffer.natAt 0 4 = 0x0B17C0DE

/-- Whether the header of a buffer is sound. -/
structure Header (buffer : Bytes) : Prop where
  whole : 44 ≤ buffer.length
  behind : 44 ≤ buffer.natAt 8 4
  inside : buffer.natAt 8 4 + buffer.natAt 12 4 ≤ buffer.length
  filled : 0 < buffer.natAt 12 4
  version : buffer.natAt 28 2 = 0x4001 ∧ buffer.natAt 30 2 = 4
  level : buffer.natAt 36 2 = 0x4002 ∧ buffer.natAt 38 2 = 4
  allowed : buffer.natAt 40 4 ≤ 3

theorem hasMagic_iff : hasMagic buffer = true ↔ Marked buffer := by
  rw [hasMagic, Marked]
  split
  · rename_i hshort
    exact ⟨nofun, fun h => absurd h.1 (Nat.not_le_of_lt hshort)⟩
  · rename_i hlong
    simp only [Bytes.natIn, beq_iff_eq, magic]
    exact (and_iff_right (Nat.le_of_not_lt hlong)).symm

theorem fieldFlaw?_eq (field : WrapperField) {at_ : Nat} (inside : at_ + 4 ≤ buffer.length) :
    fieldFlaw? buffer field at_ inside =
      if buffer.natAt at_ 2 = field.tag ∧ buffer.natAt (at_ + 2) 2 = fieldSize then none
      else some (.badField field (buffer.natAt at_ 2) (buffer.natAt (at_ + 2) 2)) := rfl

theorem fieldFlaw?_eq_none {field : WrapperField} {at_ : Nat} (inside : at_ + 4 ≤ buffer.length) :
    fieldFlaw? buffer field at_ inside = none ↔
      buffer.natAt at_ 2 = field.tag ∧ buffer.natAt (at_ + 2) 2 = fieldSize := by
  rw [fieldFlaw?_eq]
  exact ite_eq_left_iff.trans (by simp only [reduceCtorEq, imp_false, not_not])

/-- What the header of a buffer says. -/
def ofHeader (buffer : Bytes) : Wrapper where
  wrapped := true
  offset := buffer.natAt 8 4
  size := buffer.natAt 12 4
  targetApi := .ofNat (buffer.natAt 20 4)
  compilerVersion := .ofNat (buffer.natAt 32 4)
  level := .ofNat (buffer.natAt 40 4)

/-- The fields of a header, each read at its position. -/
theorem parseHeader_eq (whole : headerSize ≤ buffer.length) (hversion : 28 + 4 ≤ buffer.length)
    (hlevel : 36 + 4 ≤ buffer.length) : parseHeader buffer whole =
      if buffer.natAt 8 4 < headerSize ∨ buffer.length < buffer.natAt 8 4 + buffer.natAt 12 4 then
        .error (.outside (buffer.natAt 8 4) (buffer.natAt 12 4) buffer.length)
      else if buffer.natAt 12 4 = 0 then .error .emptyModule
      else
        match fieldFlaw? buffer .compilerVersion 28 hversion,
          fieldFlaw? buffer .optimizationLevel 36 hlevel with
        | some flaw, _ => .error flaw
        | none, some flaw => .error flaw
        | none, none =>
          if maxLevel < buffer.natAt 40 4 then .error (.badLevel (buffer.natAt 40 4))
          else .ok (ofHeader buffer) := rfl

theorem parseHeader_of_header (h : Header buffer) (whole : headerSize ≤ buffer.length) :
    parseHeader buffer whole = .ok (ofHeader buffer) := by
  have hrange : ¬ (buffer.natAt 8 4 < headerSize ∨
      buffer.length < buffer.natAt 8 4 + buffer.natAt 12 4) :=
    not_or.mpr ⟨Nat.not_lt_of_le h.behind, Nat.not_lt_of_le h.inside⟩
  have hallowed : ¬ maxLevel < buffer.natAt 40 4 := Nat.not_lt_of_le h.allowed
  have hlength : 44 ≤ buffer.length := h.whole
  rw [parseHeader_eq whole (by omega) (by omega), if_neg hrange, if_neg (Nat.ne_of_gt h.filled),
    (fieldFlaw?_eq_none _).mpr h.version, (fieldFlaw?_eq_none _).mpr h.level]
  simp only [if_neg hallowed]

theorem header_of_parseHeader {w : Wrapper} {whole : headerSize ≤ buffer.length}
    (h : parseHeader buffer whole = .ok w) : Header buffer := by
  have hlength : 44 ≤ buffer.length := whole
  rw [parseHeader_eq whole (by omega) (by omega)] at h
  split at h
  · cases h
  rename_i hrange
  obtain ⟨hbehind, hinside⟩ := not_or.mp hrange
  split at h
  · cases h
  rename_i hfilled
  split at h
  · cases h
  · cases h
  rename_i hversion hlevel
  split at h
  · cases h
  rename_i hallowed
  exact {
    whole
    behind := Nat.le_of_not_lt hbehind
    inside := Nat.le_of_not_lt hinside
    filled := Nat.pos_of_ne_zero hfilled
    version := (fieldFlaw?_eq_none _).mp hversion
    level := (fieldFlaw?_eq_none _).mp hlevel
    allowed := Nat.le_of_not_lt hallowed }

/-- A buffer is refused exactly if it begins with the magic number and its header is not sound. -/
theorem parse_refuses_iff :
    (∃ flaw, parse buffer = .error flaw) ↔ Marked buffer ∧ ¬ Header buffer := by
  rw [← hasMagic_iff, parse]
  cases hmagic : hasMagic buffer with
  | false => simp
  | true =>
    simp only [if_true, true_and]
    by_cases hshort : buffer.length < headerSize
    · rw [dif_pos hshort]
      exact ⟨fun _ h => absurd h.whole (Nat.not_le_of_lt hshort), fun _ => ⟨_, rfl⟩⟩
    · rw [dif_neg hshort]
      have hwhole : headerSize ≤ buffer.length := Nat.le_of_not_lt hshort
      constructor
      · rintro ⟨flaw, hflaw⟩ hheader
        rw [parseHeader_of_header hheader hwhole] at hflaw
        cases hflaw
      · intro hunsound
        cases hparse : parseHeader buffer hwhole with
        | error flaw => exact ⟨flaw, rfl⟩
        | ok w => exact absurd (header_of_parseHeader hparse) hunsound

end ScriptCache.Wrapper
