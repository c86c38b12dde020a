import Mathlib
import ScriptCache.Proofs.Bitcode.Reading

/-! Wrapping bitcode and reading it back.

The header that is put before bitcode is thirteen numbers of fixed widths, one after another, so
that each of them is found again at the place that the widths before it give (`natAt_wrap`). Of the
length of the bitcode only 32 bits are kept: what is read back is as much of the bitcode as they
say (`parse_wrap`, `payload?_wrap`), which is all of it exactly if its length fits. With that, the
bitcode comes back exactly if it is not empty, its length fits and its level is allowed, and then
everything that was said of it comes back as well (`parse_wrap_exact`). -/
namespace ScriptCache

namespace Bytes

/-- Writing keeps so much of a number as fits. -/
theorem toNat_littleEndian_mod (n v : Nat) : toNat (littleEndian n v) = v % 2 ^ (8 * n) := by
  induction n generalizing v with
  | zero => rw [Nat.mul_zero, Nat.pow_zero, Nat.mod_one]; rfl
  | succ n ih =>
    have hsplit : 2 ^ (8 * (n + 1)) = 256 * 2 ^ (8 * n) := by
      rw [Nat.mul_succ, Nat.pow_add, Nat.mul_comm]
    rw [littleEndian, toNat, ih, hsplit, Nat.mod_mul, UInt8.toNat_ofNat']

/-- Numbers one after another, each with its width in bytes before it. -/
def layout (fields : List (Nat × Nat)) : Bytes :=
  fields.flatMap fun field => littleEndian field.1 field.2

/-- Where a number begins: behind all those before it. -/
def position (widths : List Nat) (k : Nat) : Nat :=
  (widths.take k).sum

theorem length_layout (fields : List (Nat × Nat)) :
    (layout fields).length = (fields.map Prod.fst).sum := by
  simp only [layout, List.length_flatMap, length_littleEndian]

/-- Each number is found at its place. -/
theorem natAt_layout {fields : List (Nat × Nat)} {k width value : Nat} (rest : Bytes)
    (h : fields[k]? = some (width, value)) :
    (layout fields ++ rest).natAt (position (fields.map Prod.fst) k) width =
      value % 2 ^ (8 * width) := by
  obtain ⟨hk, hfield⟩ := List.getElem?_eq_some_iff.mp h
  have hfields : fields = fields.take k ++ (width, value) :: fields.drop (k + 1) := by
    rw [← hfield, ← List.drop_eq_getElem_cons hk, List.take_append_drop]
  have hlayout : layout fields = layout (fields.take k) ++
      (littleEndian width value ++ layout (fields.drop (k + 1))) := by
    conv_lhs => rw [hfields]
    simp only [layout, List.flatMap_append, List.flatMap_cons]
  have hposition : position (fields.map Prod.fst) k = (layout (fields.take k)).length := by
    rw [position, length_layout, List.map_take]
  rw [natAt, hlayout, hposition, List.append_assoc, List.drop_left, List.append_assoc,
    List.take_left' (length_littleEndian width value), toNat_littleEndian_mod]

end Bytes

namespace Wrapper

/-! ### The header that is written -/

variable (bitcode : Bytes) (targetApi compilerVersion : UInt32) (level : UInt8)

/-- The widths of the numbers of a header. -/
def widths : List Nat :=
  [4, 4, 4, 4, 4, 4, 4, 2, 2, 4, 2, 2, 4]

/-- The numbers of a header, with their widths. -/
def fields : List (Nat × Nat) :=
  [(4, magic), (4, 0), (4, headerSize), (4, bitcode.length), (4, 0), (4, targetApi.toNat), (4, 0),
    (2, WrapperField.compilerVersion.tag), (2, fieldSize), (4, compilerVersion.toNat),
    (2, WrapperField.optimizationLevel.tag), (2, fieldSize), (4, level.toNat)]

theorem widths_fields :
    (fields bitcode targetApi compilerVersion level).map Prod.fst = widths := rfl

theorem wrap_eq : wrap bitcode targetApi compilerVersion level =
    Bytes.layout (fields bitcode targetApi compilerVersion level) ++ bitcode := by
  simp only [wrap, fields, Bytes.layout, List.flatMap_cons, List.flatMap_nil, List.append_nil,
    List.append_assoc]

theorem length_fields :
    (Bytes.layout (fields bitcode targetApi compilerVersion level)).length = headerSize := by
  have hsum : widths.sum = headerSize := by decide
  rw [Bytes.length_layout, widths_fields, hsum]

theorem length_wrap :
    (wrap bitcode targetApi compilerVersion level).length = headerSize + bitcode.length := by
  rw [wrap_eq, List.length_append, length_fields]

variable {bitcode targetApi compilerVersion level} in
/-- A number of the header, by its index, its place, its width and its value. -/
theorem natAt_wrap (k width value : Nat) {start : Nat}
    (hstart : Bytes.position widths k = start)
    (h : (fields bitcode targetApi compilerVersion level)[k]? = some (width, value)) :
    (wrap bitcode targetApi compilerVersion level).natAt start width = value % 2 ^ (8 * width) := by
  rw [wrap_eq, ← hstart, ← widths_fields bitcode targetApi compilerVersion level]
  exact Bytes.natAt_layout bitcode h

theorem marked_wrap : Marked (wrap bitcode targetApi compilerVersion level) := by
  refine ⟨?_, natAt_wrap 0 4 magic (by decide) rfl⟩
  rw [length_wrap]
  exact Nat.le_add_right_of_le (by decide)

theorem offset_wrap : (wrap bitcode targetApi compilerVersion level).natAt 8 4 = headerSize :=
  natAt_wrap 2 4 headerSize (by decide) rfl

theorem size_wrap :
    (wrap bitcode targetApi compilerVersion level).natAt 12 4 = bitcode.length % 2 ^ 32 :=
  natAt_wrap 3 4 bitcode.length (by decide) rfl

theorem level_wrap :
    (wrap bitcode targetApi compilerVersion level).natAt 40 4 = level.toNat :=
  (natAt_wrap 12 4 level.toNat (by decide) rfl).trans
    (Nat.mod_eq_of_lt (level.toNat_lt.trans (by decide)))

/-- The header that is written is sound if the 32 bits that are kept of the length are not all
zero, and the level is allowed. -/
theorem header_wrap_iff : Header (wrap bitcode targetApi compilerVersion level) ↔
    0 < bitcode.length % 2 ^ 32 ∧ level ≤ 3 := by
  have hsize := size_wrap bitcode targetApi compilerVersion level
  have hlevel := level_wrap bitcode targetApi compilerVersion level
  constructor
  · intro h
    refine ⟨hsize ▸ h.filled, ?_⟩
    rw [UInt8.le_iff_toNat_le, ← hlevel]
    exact h.allowed
  · rintro ⟨hfilled, hallowed⟩
    exact {
      whole := (length_wrap ..).symm ▸ Nat.le_add_right headerSize _
      behind := (offset_wrap ..).ge
      inside := by
        rw [offset_wrap, hsize, length_wrap]
        exact Nat.add_le_add_left (Nat.mod_le _ _) _
      filled := hsize.symm ▸ hfilled
      version := ⟨natAt_wrap 7 2 0x4001 (by decide) rfl, natAt_wrap 8 2 4 (by decide) rfl⟩
      level := ⟨natAt_wrap 10 2 0x4002 (by decide) rfl, natAt_wrap 11 2 4 (by decide) rfl⟩
      allowed := hlevel.symm ▸ UInt8.le_iff_toNat_le.mp hallowed }

/-- The header that is written says what was written, but for the length. -/
theorem ofHeader_wrap : ofHeader (wrap bitcode targetApi compilerVersion level) =
    ⟨true, headerSize, bitcode.length % 2 ^ 32, targetApi, compilerVersion, level⟩ := by
  have hapi : (wrap bitcode targetApi compilerVersion level).natAt 20 4 = targetApi.toNat :=
    (natAt_wrap 5 4 targetApi.toNat (by decide) rfl).trans (Nat.mod_eq_of_lt targetApi.toNat_lt)
  have hversion : (wrap bitcode targetApi compilerVersion level).natAt 32 4 =
      compilerVersion.toNat :=
    (natAt_wrap 9 4 compilerVersion.toNat (by decide) rfl).trans
      (Nat.mod_eq_of_lt compilerVersion.toNat_lt)
  rw [ofHeader, offset_wrap, size_wrap, hapi, hversion, level_wrap, UInt32.ofNat_toNat,
    UInt32.ofNat_toNat, UInt8.ofNat_toNat]

/-! ### Reading it back -/

variable {bitcode targetApi compilerVersion level}

theorem parse_wrap {w : Wrapper} : parse (wrap bitcode targetApi compilerVersion level) = .ok w ↔
    (0 < bitcode.length % 2 ^ 32 ∧ level ≤ 3) ∧
      w = ⟨true, headerSize, bitcode.length % 2 ^ 32, targetApi, compilerVersion, level⟩ := by
  rw [parse_eq_ok, header_wrap_iff, ofHeader_wrap]
  have hmarked := marked_wrap bitcode targetApi compilerVersion level
  simp only [hmarked, not_true_eq_false, false_and, false_or, true_and]

/-- What is cut out behind the header is the beginning of the bitcode. -/
theorem payload?_wrap {w : Wrapper} (hoffset : w.offset = headerSize)
    (hsize : w.size ≤ bitcode.length) :
    w.payload? (wrap bitcode targetApi compilerVersion level) = some (bitcode.take w.size) := by
  have hinside : w.offset + w.size ≤ (wrap bitcode targetApi compilerVersion level).length := by
    rw [hoffset, length_wrap]
    exact Nat.add_le_add_left hsize _
  rw [payload?, if_pos hinside, payload, hoffset, wrap_eq,
    List.drop_left' (length_fields bitcode targetApi compilerVersion level)]

theorem payload?_of_parse_wrap {w : Wrapper}
    (h : parse (wrap bitcode targetApi compilerVersion level) = .ok w) :
    w.payload? (wrap bitcode targetApi compilerVersion level) = some bitcode ↔
      bitcode.length < 2 ^ 32 := by
  obtain ⟨-, rfl⟩ := parse_wrap.mp h
  rw [payload?_wrap rfl (Nat.mod_le _ _), Option.some_inj, List.take_eq_self_iff]
  have hbound : bitcode.length % 2 ^ 32 < 2 ^ 32 := Nat.mod_lt _ (by decide)
  exact ⟨fun hle => hle.trans_lt hbound, fun hlt => (Nat.mod_eq_of_lt hlt).ge⟩

/-- Bitcode that is wrapped comes back exactly if there is some, its length has at most 32 bits and
its level is allowed, whatever its bytes are. What is then said of it is what was written. -/
theorem parse_wrap_exact (bitcode : Bytes) (targetApi compilerVersion : UInt32) (level : UInt8) :
    ((∃ w, parse (wrap bitcode targetApi compilerVersion level) = .ok w ∧
        w.payload? (wrap bitcode targetApi compilerVersion level) = some bitcode) ↔
      1 ≤ bitcode.length ∧ bitcode.length < 2 ^ 32 ∧ level ≤ 3) ∧
    ∀ w, parse (wrap bitcode targetApi compilerVersion level) = .ok w →
      w.payload? (wrap bitcode targetApi compilerVersion level) = some bitcode →
        w = { wrapped := true, offset := 44, size := bitcode.length, targetApi, compilerVersion,
              level } := by
  refine ⟨⟨?_, ?_⟩, fun w hparse hpayload => ?_⟩
  · rintro ⟨w, hparse, hpayload⟩
    have hfits := (payload?_of_parse_wrap hparse).mp hpayload
    obtain ⟨⟨hfilled, hallowed⟩, -⟩ := parse_wrap.mp hparse
    exact ⟨hfilled.trans_le (Nat.mod_le _ _), hfits, hallowed⟩
  · rintro ⟨hfilled, hfits, hallowed⟩
    rw [← Nat.mod_eq_of_lt hfits] at hfilled
    have hparse : parse (wrap bitcode targetApi compilerVersion level) = .ok _ :=
      parse_wrap.mpr ⟨⟨hfilled, hallowed⟩, rfl⟩
    exact ⟨_, hparse, (payload?_of_parse_wrap hparse).mpr hfits⟩
  · have hfits := (payload?_of_parse_wrap hparse).mp hpayload
    obtain ⟨-, rfl⟩ := parse_wrap.mp hparse
    rw [Nat.mod_eq_of_lt hfits, headerSize]

/-- Bitcode that has a header already is wrapped again and comes back with its own header. -/
theorem parse_wrap_twice :
    let inner := wrap [7] 21 3 0
    ∃ w, parse (wrap inner 18 340 3) = .ok w ∧ w.payload? (wrap inner 18 340 3) = some inner ∧
      w = ⟨true, 44, 45, 18, 340, 3⟩ := by
  intro inner
  obtain ⟨hback, hsays⟩ := parse_wrap_exact inner 18 340 3
  obtain ⟨w, hparse, hpayload⟩ := hback.mpr ⟨by decide, by decide, by decide⟩
  exact ⟨w, hparse, hpayload, hsays w hparse hpayload⟩

end Wrapper

end ScriptCache
