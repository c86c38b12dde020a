import Mathlib
import ScriptCache.Proofs.Bitcode.Grammar

/-! What is read of a buffer.

A read of a range is nothing where the buffer does not reach so far, and neither is any parse that
depends on it (`parse?`). Each read of a header comes after a test of the buffer's length that
covers it, so that there is always a result, and it is that of `parse` (`parse?_eq`). A header that
is accepted points to a range behind itself and inside the buffer, so that cutting the bitcode out
of the buffer gives just that range (`within_of_parse`, `payload?_of_within`). `parse_exact` says
what is accepted, and what is then known of the buffer. -/
namespace ScriptCache

namespace Bytes

variable {bytes : Bytes} {at_ n : Nat}

/-- The number in the bytes at a position, where there are so many. -/
def natAt? (bytes : Bytes) (at_ n : Nat) : Option Nat :=
  if at_ + n ≤ bytes.length then some (bytes.natAt at_ n) else none

theorem natAt?_of_le (h : at_ + n ≤ bytes.length) :
    bytes.natAt? at_ n = some (bytes.natAt at_ n) :=
  if_pos h

theorem natAt_lt (bytes : Bytes) (at_ n : Nat) : bytes.natAt at_ n < 1 <<< (8 * n) := by
  refine (toNat_lt _).trans_le ?_
  rw [Nat.shiftLeft_eq, Nat.shiftLeft_eq]
  have hlength : ((bytes.drop at_).take n).length ≤ n := List.length_take_le _ _
  exact Nat.mul_le_mul_left 1 (Nat.pow_le_pow_right (by decide) (Nat.mul_le_mul_left 8 hlength))

end Bytes

namespace Wrapper

variable {buffer : Bytes} {w : Wrapper}

/-! ### Reads inside the buffer -/

/-- Reads a number, if the buffer reaches so far. -/
def readNat (buffer : Bytes) (at_ n : Nat) : ExceptT WrapperFlaw Option Nat :=
  ExceptT.lift (buffer.natAt? at_ n)

/-- Reads the tag and the length at a position, which are to be those of a field. -/
def readField (buffer : Bytes) (field : WrapperField) (at_ : Nat) :
    ExceptT WrapperFlaw Option Unit := do
  let tag ← readNat buffer at_ 2
  let length ← readNat buffer (at_ + 2) 2
  if tag = field.tag ∧ length = fieldSize then return ()
  else throw (.badField field tag length)

/-- Reads a header, without knowing that it is there as a whole. -/
def readHeader (buffer : Bytes) : ExceptT WrapperFlaw Option Wrapper := do
  let offset ← readNat buffer 8 4
  let size ← readNat buffer 12 4
  if offset < headerSize ∨ buffer.length < offset + size then
    throw (.outside offset size buffer.length)
  else if size = 0 then throw .emptyModule
  else
    readField buffer .compilerVersion 28
    readField buffer .optimizationLevel 36
    let level ← readNat buffer 40 4
    if maxLevel < level then throw (.badLevel level)
    else
      let targetApi ← readNat buffer 20 4
      let compilerVersion ← readNat buffer 32 4
      return {
        wrapped := true
        offset
        size
        targetApi := .ofNat targetApi
        compilerVersion := .ofNat compilerVersion
        level := .ofNat level }

/-- Reads what a buffer says of itself. There is no result if a read does not lie in the buffer. -/
def parse? (buffer : Bytes) : Option (Except WrapperFlaw Wrapper) :=
  if buffer.length < 4 then some (.ok (bare buffer))
  else ExceptT.run do
    let mark ← readNat buffer 0 4
    if mark = magic then
      if buffer.length < headerSize then throw (.truncated buffer.length)
      else readHeader buffer
    else return bare buffer

theorem readNat_of_le {at_ n : Nat} (h : at_ + n ≤ buffer.length) :
    readNat buffer at_ n = pure (buffer.natAt at_ n) := by
  rw [readNat, Bytes.natAt?_of_le h]
  rfl

theorem readField_of_le {field : WrapperField} {at_ : Nat} (h : at_ + 4 ≤ buffer.length) :
    readField buffer field at_ =
      match fieldFlaw? buffer field at_ h with
      | none => pure ()
      | some flaw => throw flaw := by
  have htag : at_ + 2 ≤ buffer.length := by omega
  have hlength : at_ + 2 + 2 ≤ buffer.length := by omega
  simp only [readField, readNat_of_le htag, readNat_of_le hlength, pure_bind, fieldFlaw?_eq]
  by_cases hfield : buffer.natAt at_ 2 = field.tag ∧ buffer.natAt (at_ + 2) 2 = fieldSize
  · rw [if_pos hfield, if_pos hfield]
  · rw [if_neg hfield, if_neg hfield]

/-- In a buffer that has 44 bytes, every read of a header finds what it reads. -/
theorem readHeader_run (whole : headerSize ≤ buffer.length) :
    (readHeader buffer).run = some (parseHeader buffer whole) := by
  have hlength : 44 ≤ buffer.length := whole
  have hread {at_ n : Nat} (h : at_ + n ≤ 44) :
      readNat buffer at_ n = pure (buffer.natAt at_ n) :=
    readNat_of_le (h.trans hlength)
  have hversion : 28 + 4 ≤ buffer.length := by omega
  have hlevel : 36 + 4 ≤ buffer.length := by omega
  rw [readHeader, hread (by decide), hread (by decide), hread (by decide), hread (by decide),
    hread (by decide), readField_of_le hversion, readField_of_le hlevel,
    parseHeader_eq whole hversion hlevel]
  simp only [pure_bind]
  split
  · rfl
  split
  · rfl
  cases fieldFlaw? buffer .compilerVersion 28 hversion with
  | some flaw => rfl
  | none =>
    cases fieldFlaw? buffer .optimizationLevel 36 hlevel with
    | some flaw => rfl
    | none =>
      simp only [pure_bind]
      split <;> rfl

/-- Every read lies in the buffer. -/
theorem parse?_eq (buffer : Bytes) : parse? buffer = some (parse buffer) := by
  rw [parse?, parse, hasMagic]
  by_cases hshort : buffer.length < 4
  · simp only [if_pos hshort, dif_pos hshort, Bool.false_eq_true, if_false]
  · have hmark : readNat buffer 0 4 = pure (buffer.natAt 0 4) :=
      readNat_of_le (Nat.le_of_not_lt hshort)
    simp only [if_neg hshort, dif_neg hshort, hmark, pure_bind, Bytes.natIn, beq_iff_eq]
    split
    · split
      · rfl
      · exact readHeader_run _
    · rfl

/-! ### What is accepted -/

/-- A buffer that does not begin with the magic number is bitcode as a whole. -/
theorem parse_of_unmarked (h : ¬ Marked buffer) : parse buffer = .ok (bare buffer) := by
  rw [parse, if_neg (mt hasMagic_iff.mp h)]

theorem parse_of_header (h : Header buffer) (hmarked : Marked buffer) :
    parse buffer = .ok (ofHeader buffer) := by
  have hwhole : headerSize ≤ buffer.length := h.whole
  rw [parse, if_pos (hasMagic_iff.mpr hmarked), dif_neg (Nat.not_lt_of_le hwhole),
    parseHeader_of_header h]

/-- What is accepted is a header, or a buffer as a whole. -/
theorem parse_eq_ok : parse buffer = .ok w ↔
    ¬ Marked buffer ∧ w = bare buffer ∨ Marked buffer ∧ Header buffer ∧ w = ofHeader buffer := by
  constructor
  · intro h
    by_cases hmarked : Marked buffer
    · have hheader : Header buffer := by
        by_contra hunsound
        obtain ⟨flaw, hflaw⟩ := parse_refuses_iff.mpr ⟨hmarked, hunsound⟩
        rw [h] at hflaw
        cases hflaw
      rw [parse_of_header hheader hmarked] at h
      exact .inr ⟨hmarked, hheader, (Except.ok.inj h).symm⟩
    · rw [parse_of_unmarked hmarked] at h
      exact .inl ⟨hmarked, (Except.ok.inj h).symm⟩
  · rintro (⟨hunmarked, rfl⟩ | ⟨hmarked, hheader, rfl⟩)
    · exact parse_of_unmarked hunmarked
    · exact parse_of_header hheader hmarked

/-- Whether a wrapper has the fields of a header, each of them in full. -/
structure HasFields (buffer : Bytes) (w : Wrapper) : Prop where
  wrapped : w.wrapped = true
  offset : w.offset = buffer.natAt 8 4
  size : w.size = buffer.natAt 12 4
  targetApi : w.targetApi.toNat = buffer.natAt 20 4
  compilerVersion : w.compilerVersion.toNat = buffer.natAt 32 4
  level : w.level.toNat = buffer.natAt 40 4

theorem hasFields_ofHeader (h : Header buffer) : HasFields buffer (ofHeader buffer) := by
  have hlevel : buffer.natAt 40 4 < 2 ^ 8 := Nat.lt_of_le_of_lt h.allowed (by decide)
  exact {
    wrapped := rfl
    offset := rfl
    size := rfl
    targetApi := UInt32.toNat_ofNat_of_lt (buffer.natAt_lt 20 4)
    compilerVersion := UInt32.toNat_ofNat_of_lt (buffer.natAt_lt 32 4)
    level := UInt8.toNat_ofNat_of_lt hlevel }

/-- The bitcode that an accepted buffer holds lies in the buffer, and is not empty unless there is
nothing at all. -/
theorem within_of_parse (h : parse buffer = .ok w) :
    w.offset + w.size ≤ buffer.length ∧ (buffer ≠ [] → 0 < w.size) := by
  obtain ⟨-, rfl⟩ | ⟨-, hheader, rfl⟩ := parse_eq_ok.mp h
  · exact ⟨(Nat.zero_add _).le, List.length_pos_iff.mpr⟩
  · exact ⟨hheader.inside, fun _ => hheader.filled⟩

/-- Cutting a range out of a buffer that reaches so far gives the bytes there. -/
theorem payload?_of_within (h : w.offset + w.size ≤ buffer.length) :
    ∃ before slice after, buffer = before ++ slice ++ after ∧ before.length = w.offset ∧
      slice.length = w.size ∧ w.payload? buffer = some slice := by
  refine ⟨buffer.take w.offset, w.payload buffer, (buffer.drop w.offset).drop w.size, ?_, ?_, ?_,
    if_pos h⟩
  · rw [payload, List.append_assoc, List.take_append_drop, List.take_append_drop]
  · rw [List.length_take]
    omega
  · rw [payload, List.length_take, List.length_drop]
    omega

/-- Parsing reads nothing outside the buffer. A buffer without the magic number is bitcode as a
whole; one with it is accepted exactly if it has a sound header, and as what this says. The bitcode
of what is accepted can be cut out of the buffer. -/
theorem parse_exact (buffer : Bytes) :
    parse? buffer = some (parse buffer) ∧
      (parse buffer = .ok ⟨false, 0, buffer.length, 0, 0, 3⟩ ↔ ¬ Marked buffer) ∧
      (Marked buffer → ((∃ w, parse buffer = .ok w) ↔ Header buffer) ∧
        ∀ w, parse buffer = .ok w → HasFields buffer w) ∧
      ∀ w, parse buffer = .ok w → ∃ before slice after, buffer = before ++ slice ++ after ∧
        before.length = w.offset ∧ slice.length = w.size ∧ w.payload? buffer = some slice ∧
        (buffer ≠ [] → slice ≠ []) := by
  refine ⟨parse?_eq buffer, ⟨fun h hmarked => ?_, parse_of_unmarked⟩, fun hmarked => ⟨⟨?_, ?_⟩, ?_⟩,
    fun w h => ?_⟩
  · obtain ⟨hunmarked, -⟩ | ⟨-, -, hw⟩ := parse_eq_ok.mp h
    · exact hunmarked hmarked
    · exact absurd (congrArg wrapped hw) Bool.false_ne_true
  · rintro ⟨w, h⟩
    obtain ⟨hunmarked, -⟩ | ⟨-, hheader, -⟩ := parse_eq_ok.mp h
    · exact absurd hmarked hunmarked
    · exact hheader
  · intro hheader
    exact ⟨_, parse_of_header hheader hmarked⟩
  · intro w h
    obtain ⟨hunmarked, -⟩ | ⟨-, hheader, rfl⟩ := parse_eq_ok.mp h
    · exact absurd hmarked hunmarked
    · exact hasFields_ofHeader hheader
  · obtain ⟨hinside, hfilled⟩ := within_of_parse h
    obtain ⟨before, slice, after, hbuffer, hbefore, hslice, hpayload⟩ := payload?_of_within hinside
    exact ⟨before, slice, after, hbuffer, hbefore, hslice, hpayload, fun hbytes =>
      List.length_pos_iff.mp (hslice ▸ hfilled hbytes)⟩

/-- A header in front of two bytes is accepted, and the bytes are cut out again. -/
theorem payload_of_wrapped :
    let buffer := wrap [7, 8] 21 3 2
    ∃ w, parse buffer = .ok w ∧ w.level.toNat = buffer.natAt 40 4 ∧
      ∃ slice, w.payload? buffer = some slice ∧ slice ≠ [] := by
  intro buffer
  obtain ⟨-, -, hmarked, hcut⟩ := parse_exact buffer
  have hheader : Header buffer := by
    constructor <;> decide
  obtain ⟨haccepted, hfields⟩ := hmarked ⟨by decide, by decide⟩
  obtain ⟨w, hparse⟩ := haccepted.mpr hheader
  obtain ⟨before, slice, after, -, -, -, hpayload, hfilled⟩ := hcut w hparse
  exact ⟨w, hparse, (hfields w hparse).level, slice, hpayload, hfilled (by decide)⟩

end Wrapper

end ScriptCache
