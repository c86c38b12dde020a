import Mathlib
import ScriptCache.Proofs.Slot.InfoFrame
import ScriptCache.Proofs.Wire.Spelling

/-! Which bytes are an info file.

An info file is a length, a header of that length and a payload. What may stand for the header and
for the payload is told without a reader, by spellings (`headerSpelling`, `payloadSpelling`). The
bytes of a frame are then known to the last one, with one exception: the header is read from as many
bytes as the length says, and those that it does not need are passed over. So a frame may have spare
bytes behind its header (`Framed`), although what is written has none (`framed_encodeWith`). The
bytes that are read as an info file are exactly these frames, each in one way
(`decodeWith_eq_ok_iff`, `Framed.unique`), and a spare byte is enough to tell one from every frame
that has none (`accepted_with_spare`). -/
namespace ScriptCache

open Wire

/-! ### Spellings of the parts -/

/-- A value that is read back as it was written is spelled by what was written. -/
theorem Wire.Spelling.ReadBy.of_returns {α : Type} {spells : Spelling α} {f : Format α} {a : α}
    (h : spells.ReadBy f.read) (hreturns : f.Returns a) : spells a (f.put a) := by
  obtain ⟨front, rest, hfront, hbytes, hrest⟩ :=
    (h _ _ _).mp (hreturns [] none (Cursor.allows_none _))
  cases hrest
  rw [List.append_nil, List.append_nil] at hbytes
  exact hbytes ▸ hfront

namespace Dependency

def digestSpelling : Spelling Digest :=
  .via (.raw 16) fun d => ⟨d.bytes, d.length_eq⟩

theorem digestSpelling_readBy : digestSpelling.ReadBy digestFormat.read :=
  Spelling.via_readBy (Spelling.raw_readBy 16) (fun _ => rfl) fun _ => rfl

variable [Memory]

def spelling : Spelling Dependency :=
  .via (.pair (.text Memory.bound) digestSpelling) fun d => (d.name, d.digest)

theorem spelling_readBy : spelling.ReadBy format.read :=
  Spelling.via_readBy (Spelling.pair_readBy (Spelling.text_readBy _) digestSpelling_readBy)
    (fun _ => rfl) fun _ => rfl

end Dependency

namespace DependencyTable

variable [Memory]

def spelling : Spelling DependencyTable :=
  .via (.list Dependency.spelling) (·.entries)

theorem spelling_readBy : spelling.ReadBy format.read :=
  Spelling.via_readBy (Spelling.list_readBy Dependency.spelling_readBy) (fun _ => rfl) fun _ => rfl

end DependencyTable

namespace Metadata

/-- Four magic bytes, the version in any width that holds it, and sixteen bytes of a digest. -/
def headerSpelling : Spelling ({ bytes : Bytes // bytes.length = 4 } × UInt32 × Digest) :=
  .pair (.raw 4) (.pair .word32 Dependency.digestSpelling)

theorem headerSpelling_readBy : headerSpelling.ReadBy headerFormat.read :=
  Spelling.pair_readBy (Spelling.raw_readBy 4)
    (Spelling.pair_readBy Spelling.word32_readBy Dependency.digestSpelling_readBy)

section

variable [Memory]

def payloadSpelling : Spelling Metadata :=
  .via (.pair DependencyTable.spelling (.pair (.list .byte) Dependency.digestSpelling))
    fun m => (m.dependencies, m.signature, m.checksum)

theorem payloadSpelling_readBy : payloadSpelling.ReadBy payloadFormat.read :=
  Spelling.via_readBy (Spelling.pair_readBy DependencyTable.spelling_readBy
    (Spelling.pair_readBy (Spelling.list_readBy Spelling.byte_readBy)
      Dependency.digestSpelling_readBy)) (fun _ => rfl) fun _ => rfl

/-! ### Frames -/

/-- The parts of an info file: the length of what stands before the payload, a header with the magic
bytes, the version and the digest of the payload, spare bytes, and the payload. -/
structure Framed (digest : Bytes → Digest) (m : Metadata) (header spare payload raw : Bytes) :
    Prop where
  parts : raw = Bytes.littleEndian 4 (header ++ spare).length ++ ((header ++ spare) ++ payload)
  counted : (header ++ spare).length < UInt32.size
  header : headerSpelling (magic, version, digest payload) header
  payload : payloadSpelling m payload

variable {digest : Bytes → Digest} {m m' : Metadata} {raw header header' spare spare' payload
  payload' : Bytes}

theorem Framed.length (h : Framed digest m header spare payload raw) :
    raw.length = 4 + (header ++ spare).length + payload.length := by
  rw [h.parts, List.length_append, Bytes.length_littleEndian, List.length_append, Nat.add_assoc]

theorem Framed.natAt (h : Framed digest m header spare payload raw) :
    Bytes.natAt raw 0 4 = (header ++ spare).length := by
  rw [h.parts, natAt_frame _ _ h.counted]

theorem Framed.take (h : Framed digest m header spare payload raw) :
    (raw.drop 4).take (header ++ spare).length = header ++ spare := by
  rw [h.parts, front_frame]

theorem Framed.drop (h : Framed digest m header spare payload raw) :
    raw.drop (4 + (header ++ spare).length) = payload := by
  rw [h.parts, back_frame]

/-- What is written has no spare bytes. -/
theorem framed_encodeWith (digest : Bytes → Digest) (h : m.Fits) :
    Framed digest m (Metadata.header digest (payloadFormat.put m)) [] (payloadFormat.put m)
      (encodeWith digest m) where
  parts := by rw [encodeWith_eq, List.append_nil, length_header]
  counted := by
    rw [List.append_nil, length_header]
    decide
  header := headerSpelling_readBy.of_returns (headerFormat_returns _)
  payload := payloadSpelling_readBy.of_returns (payloadFormat_returns h)

/-- A frame can be taken apart in one way only. -/
theorem Framed.unique (h : Framed digest m header spare payload raw)
    (h' : Framed digest m' header' spare' payload' raw) :
    m = m' ∧ header = header' ∧ spare = spare' ∧ payload = payload' := by
  have hlength : (header ++ spare).length = (header' ++ spare').length :=
    h.natAt.symm.trans h'.natAt
  have hfront : header ++ spare = header' ++ spare' := by
    rw [← h.take, hlength, h'.take]
  have hpayload : payload = payload' := by
    rw [← h.drop, hlength, h'.drop]
  obtain ⟨-, hheader⟩ := headerSpelling_readBy.unique h.header h'.header hfront
  obtain ⟨hm, -⟩ := payloadSpelling_readBy.unique h.payload h'.payload
    (congrArg (· ++ []) hpayload)
  refine ⟨hm, hheader, ?_, hpayload⟩
  rw [hheader] at hfront
  exact List.append_cancel_left hfront

/-! ### Bytes that are read -/

/-- The checks that an info file goes through. -/
theorem decodeWith_ok : decodeWith digest raw = .ok m ↔
    4 + Bytes.natAt raw 0 4 ≤ raw.length ∧
      (∃ c, headerFormat.read ⟨(raw.drop 4).take (Bytes.natAt raw 0 4), none⟩ =
        .ok ((magic, version, digest (raw.drop (4 + Bytes.natAt raw 0 4))), c)) ∧
      ∃ c, payloadFormat.read ⟨raw.drop (4 + Bytes.natAt raw 0 4), none⟩ = .ok (m, c) ∧
        c.rest = [] := by
  constructor
  · intro h
    simp only [decodeWith] at h
    split at h
    · cases h
    split at h
    · cases h
    rename_i hlong
    split at h
    · cases h
    rename_i hheader
    split at h
    · cases h
    rename_i hmagic
    split at h
    · cases h
    rename_i hversion
    split at h
    · cases h
    rename_i hdigest
    split at h
    · cases h
    rename_i hpayload
    split at h
    · rename_i hrest
      cases h
      rw [not_not] at hmagic hversion hdigest
      rw [hmagic, hversion, ← hdigest] at hheader
      exact ⟨Nat.le_of_not_lt hlong, ⟨_, hheader⟩, _, hpayload, List.isEmpty_iff.mp hrest⟩
    · cases h
  · rintro ⟨hlong, ⟨c, hheader⟩, c', hpayload, hrest⟩
    have h4 : ¬ raw.length < 4 := by omega
    simp only [decodeWith, if_neg h4, if_neg (Nat.not_lt_of_le hlong), hheader, hpayload, hrest,
      ne_eq, not_true_eq_false, if_false, List.isEmpty_nil, if_true]

theorem framed_of_decodeWith (h : decodeWith digest raw = .ok m) :
    ∃ header spare payload, Framed digest m header spare payload raw := by
  obtain ⟨hlong, ⟨c, hheader⟩, c', hpayload, hrest⟩ := decodeWith_ok.mp h
  obtain ⟨header, spare, hspelled, hfront, -⟩ := (headerSpelling_readBy _ _ _).mp hheader
  obtain ⟨payload, rest, hmetadata, hback, rfl⟩ := (payloadSpelling_readBy _ _ _).mp hpayload
  obtain rfl : rest = [] := hrest
  rw [List.append_nil] at hback
  have hlength : (header ++ spare).length = Bytes.natAt raw 0 4 := by
    rw [← hfront, List.length_take, List.length_drop]
    omega
  have hfour : (raw.take 4).length = 4 := by
    rw [List.length_take]
    omega
  refine ⟨header, spare, payload, ?parts, ?counted, hback ▸ hspelled, hmetadata⟩
  case parts =>
    have hsize : Bytes.littleEndian 4 (Bytes.natAt raw 0 4) = raw.take 4 := by
      have hwritten := Bytes.littleEndian_toNat (raw.take 4)
      rwa [hfour] at hwritten
    rw [hlength, hsize, ← hfront, ← hback, ← List.drop_drop, List.take_append_drop,
      List.take_append_drop]
  case counted =>
    have hfits := Bytes.toNat_lt (raw.take 4)
    rw [hfour] at hfits
    rw [hlength]
    exact hfits

theorem decodeWith_of_framed (h : Framed digest m header spare payload raw) :
    decodeWith digest raw = .ok m := by
  rw [decodeWith_ok, h.natAt, h.take, h.drop, h.length]
  exact ⟨Nat.le_add_right .., ⟨⟨spare, none⟩, (headerSpelling_readBy _ _ _).mpr
    ⟨header, spare, h.header, rfl, rfl⟩⟩, ⟨[], none⟩, (payloadSpelling_readBy _ _ _).mpr
    ⟨payload, [], h.payload, (List.append_nil _).symm, rfl⟩, rfl⟩

/-- Whatever stands for the digest, the bytes that are read as an info file are exactly the frames,
those with spare bytes among them. -/
theorem decodeWith_eq_ok_iff (digest : Bytes → Digest) (raw : Bytes) (m : Metadata) :
    decodeWith digest raw = .ok m ↔
      ∃ header spare payload, Framed digest m header spare payload raw :=
  ⟨framed_of_decodeWith, fun ⟨_, _, _, h⟩ => decodeWith_of_framed h⟩

end

attribute [local instance] Memory.addressSpace

/-- A header of 21 bytes that is said to have 22: the byte between it and the payload is passed
over, and no frame without spare bytes has these bytes. -/
theorem accepted_with_spare :
    let m : Metadata := ⟨⟨[]⟩, [], ⟨List.replicate 16 0, rfl⟩⟩
    let raw : Bytes := [0x16, 0x00, 0x00, 0x00, 0x52, 0x53, 0x43, 0x49, 0x01, 0x20, 0xd0, 0x36, 0xf8,
      0xdd, 0x21, 0x78, 0xff, 0x40, 0xe9, 0x6b, 0x98, 0xb6, 0x68, 0xf5, 0xc7, 0x00, 0x00, 0x00, 0x00,
      0x00, 0x00, 0x00, 0x00, 0x00, 0x00, 0x00, 0x00, 0x00, 0x00, 0x00, 0x00, 0x00, 0x00, 0x00]
    decode raw = .ok m ∧ ¬ ∃ header payload, Framed .ofBytes m header [] payload raw := by
  intro m raw
  have hsize : Spelling.Integer true 0 [0] := .small (by decide)
  have hpayload : payloadSpelling m (List.replicate 18 0) :=
    ⟨[0], List.replicate 17 0, ⟨[0], [], hsize, ⟨[], .nil, rfl⟩, rfl⟩,
      ⟨[0], List.replicate 16 0, ⟨[0], [], hsize, ⟨[], .nil, rfl⟩, rfl⟩, rfl, rfl⟩, rfl⟩
  have hdigest : (raw.drop 9).take 16 = (Digest.ofBytes (List.replicate 18 0)).bytes := by
    decide +kernel
  have hframed : Framed .ofBytes m ((raw.drop 4).take 21) [0] (List.replicate 18 0) raw := by
    refine ⟨by decide, by decide, ?_, hpayload⟩
    exact ⟨magic.val, (raw.drop 8).take 17, rfl, ⟨[1], (raw.drop 9).take 16, .small (by decide),
      hdigest, rfl⟩, rfl⟩
  refine ⟨decodeWith_of_framed hframed, fun ⟨header, payload, h⟩ => ?_⟩
  obtain ⟨-, -, hspare, -⟩ := hframed.unique h
  cases hspare

end Metadata

end ScriptCache
