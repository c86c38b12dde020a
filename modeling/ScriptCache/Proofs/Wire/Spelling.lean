import Mathlib
import ScriptCache.Wire.Format

/-! Which bytes are read as which values.

A writer writes a value in one way, but a reader may take others as well. A *spelling* says which
bytes stand for a value, and mentions no reader: an integer is spelled in any width that holds it, a
text and a list are spelled by their length, itself an integer, and what it counts. Where no budget
is set, a reader takes a spelling of its value from the front of the bytes and leaves the rest, and
takes nothing else (`Spelling.ReadBy`); this is proved of each format from its parts.

So bytes tell the value that they spell, and no spelling begins another (`Spelling.ReadBy.unique`). -/
namespace ScriptCache.Wire

/-- Which bytes stand for which values. -/
abbrev Spelling (α : Type) := α → Bytes → Prop

namespace Spelling

variable {α β : Type}

def byte : Spelling UInt8 := fun b bytes => bytes = [b]

/-- The bytes after a marker that announces so many. -/
def width (n : Nat) : Spelling Nat := fun v bytes =>
  v < 1 <<< (8 * n) ∧ bytes = Bytes.littleEndian n v

/-- An integer up to 250 may be a byte of its own; any may stand behind the marker of a width that
holds it. -/
inductive Integer (eight : Bool) (v : Nat) : Bytes → Prop
  | small : v ≤ 250 → Integer eight v [UInt8.ofNat v]
  | two (bytes : Bytes) : width 2 v bytes → Integer eight v (251 :: bytes)
  | four (bytes : Bytes) : width 4 v bytes → Integer eight v (252 :: bytes)
  | eight (bytes : Bytes) : eight = true → width 8 v bytes → Integer eight v (253 :: bytes)

def word32 : Spelling UInt32 := fun v => Integer false v.toNat

/-- The length of a text that there is room for, and its bytes. -/
def text (bound : Nat) : Spelling String := fun s bytes =>
  (Utf8.encode s).length < bound ∧
    ∃ size, Integer true (Utf8.encode s).length size ∧ bytes = size ++ Utf8.encode s

def raw (n : Nat) : Spelling { bytes : Bytes // bytes.length = n } := fun v bytes => bytes = v.val

/-- A value behind another. -/
def pair (first : Spelling α) (second : Spelling β) : Spelling (α × β) := fun ab bytes =>
  ∃ front back, first ab.1 front ∧ second ab.2 back ∧ bytes = front ++ back

/-- So many values one behind another. -/
def many (item : Spelling α) : Spelling (List α) := fun as bytes =>
  ∃ parts, List.Forall₂ item as parts ∧ bytes = parts.flatten

def list (item : Spelling α) : Spelling (List α) := fun as bytes =>
  ∃ size parts, Integer true as.length size ∧ many item as parts ∧ bytes = size ++ parts

/-- A value spelled as what stands for it. -/
def via (item : Spelling α) (toItem : β → α) : Spelling β := fun b => item (toItem b)

/-- Without the widest form an integer has 32 bits. -/
theorem Integer.lt_of_narrow {v : Nat} {bytes : Bytes} (h : Integer false v bytes) :
    v < UInt32.size := by
  cases h with
  | small hv => exact Nat.lt_of_le_of_lt hv (by decide)
  | two _ hwidth => exact Nat.lt_trans hwidth.1 (by decide)
  | four _ hwidth => exact hwidth.1
  | eight _ hwide => cases hwide

/-! ### Readers of spellings -/

/-- Where no budget is set, a reader takes just the spellings of its values. -/
def ReadBy (spells : Spelling α) (read : Reader α) : Prop :=
  ∀ bytes a c, read ⟨bytes, none⟩ = .ok (a, c) ↔
    ∃ front rest, spells a front ∧ bytes = front ++ rest ∧ c = ⟨rest, none⟩

/-- Of two spellings with something behind them, equal bytes have equal values and the same end. -/
theorem ReadBy.unique {spells : Spelling α} {read : Reader α} (h : spells.ReadBy read) {a a' : α}
    {front front' rest rest' : Bytes} (hfront : spells a front) (hfront' : spells a' front')
    (hbytes : front ++ rest = front' ++ rest') : a = a' ∧ front = front' := by
  have hread := (h (front ++ rest) a ⟨rest, none⟩).mpr ⟨front, rest, hfront, rfl, rfl⟩
  have hread' := (h (front ++ rest) a' ⟨rest', none⟩).mpr ⟨front', rest', hfront', hbytes, rfl⟩
  rw [hread] at hread'
  cases hread'
  exact ⟨rfl, List.append_cancel_right hbytes⟩

theorem ReadBy.congr {spells spells' : Spelling α} {read : Reader α} (h : spells.ReadBy read)
    (heq : ∀ a bytes, spells a bytes ↔ spells' a bytes) : spells'.ReadBy read := by
  obtain rfl : spells = spells' := funext fun a => funext fun bytes => propext (heq a bytes)
  exact h

theorem readBy_result (a : α) :
    ReadBy (fun b bytes => b = a ∧ bytes = []) fun c => .ok (a, c) := by
  intro bytes b c
  constructor
  · intro h
    cases h
    exact ⟨[], bytes, ⟨rfl, rfl⟩, rfl, rfl⟩
  · rintro ⟨_, rest, ⟨rfl, rfl⟩, rfl, rfl⟩
    rfl

theorem readBy_failure (e : ReadError) :
    ReadBy (fun (_ : α) _ => False) fun _ => (.error e : Except ReadError (α × Cursor)) := by
  intro bytes a c
  exact ⟨nofun, fun ⟨_, _, h, _⟩ => h.elim⟩

/-- Without a budget a claim is void. -/
theorem ReadBy.claim {spells : Spelling α} {read : Reader α} (h : spells.ReadBy read) (n : Nat) :
    spells.ReadBy fun c => (Cursor.claim n c).bind read := h

theorem ReadBy.bind {first : Spelling α} {second : α → Spelling β} {read : Reader α}
    {next : α → Reader β} (hread : first.ReadBy read) (hnext : ∀ a, (second a).ReadBy (next a)) :
    ReadBy (fun b bytes => ∃ a front back, first a front ∧ second a b back ∧ bytes = front ++ back)
      fun c => (read c).bind fun x => next x.1 x.2 := by
  intro bytes b c
  constructor
  · intro h
    change (read ⟨bytes, none⟩).bind _ = _ at h
    cases hfirst : read ⟨bytes, none⟩ with
    | error e =>
      rw [hfirst] at h
      cases h
    | ok x =>
      obtain ⟨front, rest, hfront, rfl, hrest⟩ := (hread _ x.1 x.2).mp hfirst
      rw [hfirst] at h
      have hsecond : next x.1 ⟨rest, none⟩ = .ok (b, c) := hrest ▸ h
      obtain ⟨back, rest', hback, rfl, rfl⟩ := (hnext x.1 _ _ _).mp hsecond
      exact ⟨front ++ back, rest', ⟨x.1, front, back, hfront, hback, rfl⟩,
        (List.append_assoc ..).symm, rfl⟩
  · rintro ⟨_, rest, ⟨a, front, back, hfront, hback, rfl⟩, rfl, rfl⟩
    have hfirst := (hread (front ++ back ++ rest) a ⟨back ++ rest, none⟩).mpr
      ⟨front, back ++ rest, hfront, List.append_assoc .., rfl⟩
    show ((read ⟨front ++ back ++ rest, none⟩).bind _) = _
    rw [hfirst]
    exact (hnext a _ _ _).mpr ⟨back, rest, hback, rfl, rfl⟩

/-! ### Bytes and integers -/

theorem byte_readBy : byte.ReadBy Format.byte.read := by
  refine ReadBy.claim (fun bytes b c => ?_) 1
  constructor
  · intro h
    cases bytes with
    | nil => cases h
    | cons b' rest =>
      cases h
      exact ⟨[b], rest, rfl, rfl, rfl⟩
  · rintro ⟨_, rest, rfl, rfl, rfl⟩
    rfl

/-- The next bytes, whatever they are. -/
theorem take_readBy (n : Nat) :
    ReadBy (fun taken bytes => taken.length = n ∧ bytes = taken) (Cursor.take n) := by
  intro bytes taken c
  constructor
  · intro h
    by_cases hshort : (bytes.take n).length < n
    · simp only [Cursor.take, if_pos hshort] at h
      cases h
    · simp only [Cursor.take, if_neg hshort] at h
      cases h
      have hlength : (bytes.take n).length = n :=
        Nat.le_antisymm (List.length_take_le n bytes) (Nat.le_of_not_lt hshort)
      exact ⟨bytes.take n, bytes.drop n, ⟨hlength, rfl⟩, (List.take_append_drop n bytes).symm, rfl⟩
  · rintro ⟨_, rest, ⟨rfl, rfl⟩, rfl, rfl⟩
    exact Cursor.take_append _ rest none

theorem width_readBy (n : Nat) : (width n).ReadBy (Format.readWidth n) := by
  refine ReadBy.congr (ReadBy.bind (take_readBy n) fun bytes => readBy_result bytes.toNat) ?_
  intro v bytes
  constructor
  · rintro ⟨taken, _, _, ⟨rfl, rfl⟩, ⟨rfl, rfl⟩, rfl⟩
    rw [List.append_nil]
    exact ⟨Bytes.toNat_lt _, (Bytes.littleEndian_toNat _).symm⟩
  · rintro ⟨hfits, rfl⟩
    exact ⟨Bytes.littleEndian n v, _, [], ⟨Bytes.length_littleEndian n v, rfl⟩,
      ⟨(Bytes.toNat_littleEndian hfits).symm, rfl⟩, (List.append_nil _).symm⟩

theorem integer_readBy (expected : IntegerKind) (eight : Bool) :
    ReadBy (Integer eight) (Format.readInteger expected eight) := by
  intro bytes v c
  constructor
  · intro h
    cases bytes with
    | nil => cases h
    | cons marker rest =>
      have hmarker (n : Nat) (hn : marker.toNat = n) : marker = UInt8.ofNat n := by
        rw [← hn, UInt8.ofNat_toNat]
      have hwidth (n : Nat) (h : Format.readWidth n ⟨rest, none⟩ = .ok (v, c)) :
          ∃ front rest', width n v front ∧ marker :: rest = marker :: front ++ rest' ∧
            c = ⟨rest', none⟩ := by
        obtain ⟨front, rest', hfront, rfl, rfl⟩ := (width_readBy n _ _ _).mp h
        exact ⟨front, rest', hfront, rfl, rfl⟩
      simp only [Format.readInteger] at h
      split at h
      · rename_i hsmall
        cases h
        exact ⟨[marker], rest, by simpa using Integer.small hsmall, rfl, rfl⟩
      split at h
      · rename_i h251
        obtain ⟨front, rest', hfront, hrest, hc⟩ := hwidth 2 h
        exact ⟨marker :: front, rest', hmarker 251 h251 ▸ .two front hfront, hrest, hc⟩
      split at h
      · rename_i h252
        obtain ⟨front, rest', hfront, hrest, hc⟩ := hwidth 4 h
        exact ⟨marker :: front, rest', hmarker 252 h252 ▸ .four front hfront, hrest, hc⟩
      split at h
      · rename_i h253
        split at h
        · rename_i height
          obtain ⟨front, rest', hfront, hrest, hc⟩ := hwidth 8 h
          exact ⟨marker :: front, rest', hmarker 253 h253 ▸ .eight front height hfront, hrest, hc⟩
        · cases h
      · split at h <;> cases h
  · rintro ⟨_, rest, hspells, rfl, rfl⟩
    cases hspells with
    | small hsmall =>
      have hv : (UInt8.ofNat v).toNat = v := by
        rw [UInt8.toNat_ofNat']
        omega
      simp [Format.readInteger, hv, hsmall]
    | two bytes hbytes => exact (width_readBy 2 _ _ _).mpr ⟨bytes, rest, hbytes, rfl, rfl⟩
    | four bytes hbytes => exact (width_readBy 4 _ _ _).mpr ⟨bytes, rest, hbytes, rfl, rfl⟩
    | eight bytes height hbytes =>
      have hread := (width_readBy 8 _ _ _).mpr ⟨bytes, rest, hbytes, rfl, rfl⟩
      simpa [Format.readInteger, height] using hread

theorem word32_readBy : word32.ReadBy Format.word32.read := by
  have hread := (ReadBy.bind (integer_readBy .bits32 false) fun n => readBy_result (UInt32.ofNat n))
  refine (hread.claim 4).congr fun v bytes => ?_
  constructor
  · rintro ⟨n, front, _, hfront, ⟨rfl, rfl⟩, rfl⟩
    rw [List.append_nil]
    show Integer false (UInt32.ofNat n).toNat front
    rwa [UInt32.toNat_ofNat', Nat.mod_eq_of_lt hfront.lt_of_narrow]
  · intro h
    exact ⟨v.toNat, bytes, [], h, ⟨UInt32.ofNat_toNat.symm, rfl⟩, (List.append_nil _).symm⟩

/-! ### Texts, lists and pairs -/

theorem pair_readBy {first : Spelling α} {second : Spelling β} {f : Format α} {g : Format β}
    (hfirst : first.ReadBy f.read) (hsecond : second.ReadBy g.read) :
    (pair first second).ReadBy (f.pair g).read := by
  refine (ReadBy.bind hfirst fun a => ReadBy.bind hsecond fun b => readBy_result (a, b)).congr ?_
  rintro ⟨a, b⟩ bytes
  constructor
  · rintro ⟨a', front, _, hfront, ⟨b', back, _, hback, ⟨hab, rfl⟩, rfl⟩, rfl⟩
    cases hab
    exact ⟨front, back, hfront, hback, by rw [List.append_nil]⟩
  · rintro ⟨front, back, hfront, hback, rfl⟩
    exact ⟨a, front, back, hfront, ⟨b, back, [], hback, ⟨rfl, rfl⟩, (List.append_nil _).symm⟩, rfl⟩

theorem via_readBy {item : Spelling α} {f : Format α} (hitem : item.ReadBy f.read) {toItem : β → α}
    {ofItem : α → β} (there : ∀ a, toItem (ofItem a) = a) (back : ∀ b, ofItem (toItem b) = b) :
    (via item toItem).ReadBy (f.via toItem ofItem).read := by
  refine (ReadBy.bind hitem fun a => readBy_result (ofItem a)).congr fun b bytes => ?_
  constructor
  · rintro ⟨a, front, _, hfront, ⟨rfl, rfl⟩, rfl⟩
    rw [List.append_nil]
    show item (toItem (ofItem a)) front
    rwa [there]
  · intro h
    exact ⟨toItem b, bytes, [], h, ⟨(back b).symm, rfl⟩, (List.append_nil _).symm⟩

theorem raw_readBy (n : Nat) : (raw n).ReadBy (Format.raw n).read := by
  induction n with
  | zero =>
    refine (readBy_result _).congr fun v bytes => ?_
    obtain ⟨v, hv⟩ := v
    obtain rfl := List.length_eq_zero_iff.mp hv
    exact ⟨fun h => h.2, fun h => ⟨rfl, h⟩⟩
  | succ n ih =>
    let longer (b : UInt8) (v : { bytes : Bytes // bytes.length = n }) :
        { bytes : Bytes // bytes.length = n + 1 } := ⟨b :: v.val, by simp [v.property]⟩
    have hread := ReadBy.bind byte_readBy fun b => ReadBy.bind ih fun v => readBy_result (longer b v)
    refine hread.congr fun v bytes => ?_
    constructor
    · rintro ⟨b, _, _, rfl, ⟨tail, _, _, rfl, ⟨rfl, rfl⟩, rfl⟩, rfl⟩
      show [b] ++ (tail.val ++ []) = b :: tail.val
      rw [List.append_nil]
      rfl
    · rintro rfl
      obtain ⟨v, hv⟩ := v
      obtain ⟨b, tail, rfl⟩ := List.exists_cons_of_length_eq_add_one hv
      exact ⟨b, [b], tail, rfl, ⟨⟨tail, by simpa using hv⟩, tail, [], rfl, ⟨rfl, rfl⟩,
        (List.append_nil _).symm⟩, rfl⟩

/-- The length of a text or a list. -/
theorem count_readBy : ReadBy (Integer true) Format.readCount :=
  (integer_readBy .count true).claim 8

/-- For which kind a length is read decides nothing but the error. -/
theorem long_readBy : ReadBy (Integer true) Format.readLong :=
  ReadBy.claim (fun bytes => integer_readBy (Format.wanted64 ⟨bytes, none⟩) true bytes) 8

/-- The bytes of a text, their number being known. -/
theorem textBody_readBy (bound n : Nat) : ReadBy
    (fun s bytes => (Utf8.encode s).length = n ∧ n < bound ∧ bytes = Utf8.encode s)
    fun c => if bound ≤ n then .error .beyondMemory
      else (Cursor.take n c).bind fun x =>
        match Utf8.decode x.1 with
        | .ok s => .ok (s, x.2)
        | .error flaw => .error (.badText flaw) := by
  by_cases hn : bound ≤ n
  · simp only [if_pos hn]
    refine (readBy_failure _).congr fun s bytes => ?_
    exact ⟨False.elim, fun h => Nat.not_lt_of_le hn h.2.1⟩
  simp only [if_neg hn]
  have hdecode (bytes : Bytes) : ReadBy (fun s back => bytes = Utf8.encode s ∧ back = []) fun c =>
      (match Utf8.decode bytes with
      | .ok s => .ok (s, c)
      | .error flaw => .error (.badText flaw) : Except ReadError (String × Cursor)) := by
    cases hbytes : Utf8.decode bytes with
    | ok s =>
      obtain rfl := Utf8.eq_encode_of_decode hbytes
      refine (readBy_result s).congr fun t back => and_congr_left' ?_
      exact ⟨fun h => h ▸ rfl, fun h => (Utf8.encode_injective h).symm⟩
    | error flaw =>
      refine (readBy_failure _).congr fun s back => ⟨False.elim, ?_⟩
      rintro ⟨rfl, -⟩
      rw [Utf8.decode_encode] at hbytes
      cases hbytes
  refine (ReadBy.bind (take_readBy n) hdecode).congr fun s bytes => ?_
  constructor
  · rintro ⟨_, _, _, ⟨hlength, rfl⟩, ⟨rfl, rfl⟩, rfl⟩
    exact ⟨hlength, Nat.lt_of_not_le hn, List.append_nil _⟩
  · rintro ⟨hlength, -, rfl⟩
    exact ⟨_, _, [], ⟨hlength, rfl⟩, ⟨rfl, rfl⟩, (List.append_nil _).symm⟩

theorem text_readBy (bound : Nat) : (text bound).ReadBy (Format.text bound).read := by
  refine (ReadBy.bind long_readBy fun n => (textBody_readBy bound n).claim n).congr fun s bytes => ?_
  constructor
  · rintro ⟨_, size, _, hsize, ⟨rfl, hfits, rfl⟩, rfl⟩
    exact ⟨hfits, size, hsize, rfl⟩
  · rintro ⟨hfits, size, hsize, rfl⟩
    exact ⟨_, size, _, hsize, ⟨rfl, hfits, rfl⟩, rfl⟩

/-- Reading goes through the elements; those seen before stand in front of them. -/
theorem readMany_readBy {item : Spelling α} {read : Reader α} (hitem : item.ReadBy read) (n : Nat)
    (seen : List α) : ReadBy (fun as bytes => ∃ others, others.length = n ∧
      as = seen.reverse ++ others ∧ many item others bytes) (Format.readMany read n seen) := by
  induction n generalizing seen with
  | zero =>
    refine (readBy_result seen.reverse).congr fun as bytes => ?_
    constructor
    · rintro ⟨rfl, rfl⟩
      exact ⟨[], rfl, (List.append_nil _).symm, [], .nil, rfl⟩
    · rintro ⟨others, hlength, rfl, parts, hparts, rfl⟩
      obtain rfl := List.length_eq_zero_iff.mp hlength
      cases hparts
      exact ⟨List.append_nil _, rfl⟩
  | succ n ih =>
    have heq : Format.readMany read (n + 1) seen =
        fun c => (read c).bind fun x => Format.readMany read n (x.1 :: seen) x.2 := by
      funext c
      cases h : read c <;> simp [Format.readMany, h, Except.bind]
    rw [heq]
    refine (ReadBy.bind hitem fun a => ih (a :: seen)).congr fun as bytes => ?_
    constructor
    · rintro ⟨a, front, _, hfront, ⟨others, rfl, rfl, parts, hparts, rfl⟩, rfl⟩
      exact ⟨a :: others, rfl, by simp, front :: parts, .cons hfront hparts, rfl⟩
    · rintro ⟨others, hlength, rfl, parts, hparts, rfl⟩
      obtain ⟨a, others, rfl⟩ := List.exists_cons_of_length_eq_add_one hlength
      cases hparts with
      | cons hfront hparts =>
        exact ⟨a, _, _, hfront, ⟨others, by simpa using hlength, by simp, _, hparts, rfl⟩, rfl⟩

theorem list_readBy {item : Spelling α} {f : Format α} (hitem : item.ReadBy f.read) :
    (list item).ReadBy f.list.read := by
  refine (ReadBy.bind count_readBy fun n => readMany_readBy hitem n []).congr fun as bytes => ?_
  constructor
  · rintro ⟨_, size, parts, hsize, ⟨_, rfl, rfl, hparts⟩, rfl⟩
    exact ⟨size, parts, hsize, hparts, rfl⟩
  · rintro ⟨size, parts, hsize, hparts, rfl⟩
    exact ⟨as.length, size, parts, hsize, ⟨as, rfl, rfl, hparts⟩, rfl⟩

end Spelling

end ScriptCache.Wire
