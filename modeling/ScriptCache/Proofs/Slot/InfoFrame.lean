import Mathlib
import ScriptCache.Proofs.Dependency.Encoding
import ScriptCache.Slot.Metadata

/-! Info files are read back whole or not at all.

The frame of an info file carries a digest of its payload, but nothing here leans on that
digest: for any function in its place, a frame that was written is read back as it was
(`decodeWith_encodeWith`), and a frame that lost so much as its last byte, or has so much as one
more, is refused, with a flaw that breaks nothing off (`decodeWith_cut`, `decodeWith_extended`).
What is left of an info file after a crash is therefore either the whole of it or illegible, and no
frame is the beginning of another (`frame_exact`). -/
namespace ScriptCache.Metadata
open Wire

/-! ### Headers -/

theorem headerFormat_returns (header : { bytes : Bytes // bytes.length = 4 } × UInt32 × Digest) :
    headerFormat.Returns header :=
  Format.pair_returns (Format.raw_returns 4 _)
    (Format.pair_returns (Format.word32_returns _) (Dependency.digestFormat_returns _))

/-- The length in front of some bytes is read back. -/
theorem natAt_frame (front back : Bytes) (h : front.length < UInt32.size) :
    Bytes.natAt (Bytes.littleEndian 4 front.length ++ (front ++ back)) 0 4 = front.length := by
  show Bytes.toNat (List.take 4 (Bytes.littleEndian 4 front.length ++ _)) = _
  rw [List.take_left' (Bytes.length_littleEndian 4 _)]
  exact Bytes.toNat_littleEndian h

theorem front_frame (n : Nat) (front back : Bytes) :
    ((Bytes.littleEndian 4 n ++ (front ++ back)).drop 4).take front.length = front := by
  rw [List.drop_left' (Bytes.length_littleEndian 4 n), List.take_left]

theorem back_frame (n : Nat) (front back : Bytes) :
    (Bytes.littleEndian 4 n ++ (front ++ back)).drop (4 + front.length) = back := by
  rw [← List.drop_drop, List.drop_left' (Bytes.length_littleEndian 4 n), List.drop_left]

/-- The header of a frame around a payload. -/
def header (digest : Bytes → Digest) (payload : Bytes) : Bytes :=
  headerFormat.put (magic, version, digest payload)

theorem length_header (digest : Bytes → Digest) (payload : Bytes) :
    (header digest payload).length = 21 := by
  show (magic.val ++ (Format.putInteger version.toNat ++ (digest payload).bytes)).length = 21
  rw [List.length_append, List.length_append, (digest payload).length_eq, magic.property]
  rfl

theorem header_read (digest : Bytes → Digest) (payload : Bytes) :
    headerFormat.read ⟨header digest payload, none⟩ =
      .ok ((magic, version, digest payload), ⟨[], none⟩) := by
  have h := headerFormat_returns (magic, version, digest payload) [] none (Cursor.allows_none _)
  rwa [List.append_nil] at h

/-! ### Frames -/

section

variable [Memory]

/-- Whether some metadata can be written and read at all: its names, its table and its
signature are of sizes that there is room for. -/
structure Fits (m : Metadata) : Prop where
  names : ∀ d ∈ m.dependencies.entries, (Utf8.encode d.name).length < Memory.bound
  entries : m.dependencies.entries.length < UInt64.size
  signature : m.signature.length < UInt64.size

instance (m : Metadata) : Decidable m.Fits :=
  decidable_of_iff ((∀ d ∈ m.dependencies.entries, (Utf8.encode d.name).length < Memory.bound) ∧
      m.dependencies.entries.length < UInt64.size ∧ m.signature.length < UInt64.size)
    ⟨fun ⟨hn, he, hs⟩ => ⟨hn, he, hs⟩, fun h => ⟨h.names, h.entries, h.signature⟩⟩

theorem payloadFormat_returns {m : Metadata} (h : m.Fits) : payloadFormat.Returns m := by
  refine Format.via_returns (Format.pair_returns
    (DependencyTable.format_returns ⟨h.names, h.entries⟩)
    (Format.pair_returns ?_ (Dependency.digestFormat_returns _))) rfl
  exact Format.list_returns h.signature fun b _ => Format.byte_returns b

theorem payloadFormat_steady : Steady payloadFormat.read :=
  Format.via_steady (Format.pair_steady DependencyTable.format_steady
    (Format.pair_steady (Format.list_steady Format.byte_steady) Dependency.digestFormat_steady)) _ _

/-- A frame is a length, a header and a payload. -/
theorem encodeWith_eq (digest : Bytes → Digest) (m : Metadata) :
    encodeWith digest m = Bytes.littleEndian 4 21 ++
      (header digest (payloadFormat.put m) ++ payloadFormat.put m) := by
  have hlength := length_header digest (payloadFormat.put m)
  show Bytes.littleEndian 4 (header digest (payloadFormat.put m)).length ++ _ ++ _ = _
  rw [hlength, List.append_assoc]
  rfl

/-- What a frame with a good header comes to, whatever stands where its payload should. -/
theorem decodeWith_framed (digest : Bytes → Digest) (payload found : Bytes) :
    decodeWith digest (Bytes.littleEndian 4 21 ++ (header digest payload ++ found)) =
      if digest found ≠ digest payload then .error .badChecksum
      else
        match payloadFormat.read ⟨found, none⟩ with
        | .error e => .error (.badPayload e)
        | .ok (m, c) => if c.rest.isEmpty then .ok m else .error .trailing := by
  have hlength := length_header digest payload
  have hraw : (Bytes.littleEndian 4 21 ++ (header digest payload ++ found)).length =
      25 + found.length := by
    simp only [List.length_append, Bytes.length_littleEndian, hlength]
    omega
  have hnumber := natAt_frame (header digest payload) found (by rw [hlength]; decide)
  have hheader := front_frame 21 (header digest payload) found
  have hfound := back_frame 21 (header digest payload) found
  rw [hlength] at hnumber hheader hfound
  have hlong : ¬ 25 + found.length < 4 := by omega
  have hfull : ¬ 25 + found.length < 4 + 21 := by omega
  rcases hread : payloadFormat.read ⟨found, none⟩ with e | ⟨m, c⟩ <;>
    simp only [decodeWith, hraw, hnumber, hheader, hfound, header_read, hread, if_neg hlong,
      if_neg hfull, ne_eq, not_true_eq_false, if_false]

/-- A frame is read back as it was written. -/
theorem decodeWith_encodeWith (digest : Bytes → Digest) {m : Metadata} (h : m.Fits) :
    decodeWith digest (encodeWith digest m) = .ok m := by
  have hread := payloadFormat_returns h [] none (Cursor.allows_none _)
  rw [List.append_nil] at hread
  rw [encodeWith_eq, decodeWith_framed, hread]
  simp

/-- A list that is too short for its announced header is refused. -/
theorem decodeWith_short (digest : Bytes → Digest) {cut missing : Bytes} {m : Metadata}
    (hcut : cut ++ missing = encodeWith digest m) (hshort : cut.length < 25) :
    ∃ flaw, decodeWith digest cut = .error flaw ∧ flaw.breaksOff = false := by
  by_cases h4 : cut.length < 4
  · exact ⟨.tooShort cut.length, by simp [decodeWith, h4], rfl⟩
  · have htake : cut.take 4 = Bytes.littleEndian 4 21 := by
      have h := congrArg (List.take 4) hcut
      rwa [List.take_append_of_le_length (by omega), encodeWith_eq,
        List.take_left' (Bytes.length_littleEndian 4 21)] at h
    have hnumber : Bytes.natAt cut 0 4 = 21 := by
      show Bytes.toNat (cut.take 4) = 21
      rw [htake]
      exact Bytes.toNat_littleEndian (by decide)
    have hless : cut.length < 4 + 21 := hshort
    exact ⟨.headerTooLong 21, by simp only [decodeWith, if_neg h4, hnumber, if_pos hless], rfl⟩

/-- A frame that lost its end is refused, and nothing is broken off. -/
theorem decodeWith_cut (digest : Bytes → Digest) {cut missing : Bytes} {m : Metadata}
    (h : m.Fits) (hcut : cut ++ missing = encodeWith digest m) (hmissing : missing ≠ []) :
    ∃ flaw, decodeWith digest cut = .error flaw ∧ flaw.breaksOff = false := by
  by_cases hshort : cut.length < 25
  · exact decodeWith_short digest hcut hshort
  -- The cut lies in the payload: the length and the header are whole.
  have hfront : (Bytes.littleEndian 4 21 ++ header digest (payloadFormat.put m)).length = 25 := by
    rw [List.length_append, length_header, Bytes.length_littleEndian]
  have hwhole := hcut
  rw [encodeWith_eq, ← List.append_assoc] at hwhole
  obtain ⟨found, hfound⟩ : ∃ found,
      cut = (Bytes.littleEndian 4 21 ++ header digest (payloadFormat.put m)) ++ found := by
    refine ⟨cut.drop 25, ?_⟩
    have htake := congrArg (List.take 25) hwhole
    rw [List.take_append_of_le_length (by omega), List.take_left' hfront] at htake
    rw [← htake, List.take_append_drop]
  have hput : payloadFormat.put m = found ++ missing := by
    rw [hfound, List.append_assoc] at hwhole
    exact (List.append_cancel_left hwhole).symm
  obtain ⟨e, hread, hmild⟩ :=
    error_of_beginning payloadFormat_steady (payloadFormat_returns h) hput hmissing
  rw [hfound, List.append_assoc, decodeWith_framed, hread]
  by_cases hdigest : digest found ≠ digest (payloadFormat.put m)
  · exact ⟨.badChecksum, by rw [if_pos hdigest], rfl⟩
  · exact ⟨.badPayload e, by rw [if_neg hdigest], hmild⟩

/-- A frame with something behind it is refused, and nothing is broken off. -/
theorem decodeWith_extended (digest : Bytes → Digest) {m : Metadata} (h : m.Fits) {extra : Bytes}
    (hextra : extra ≠ []) : ∃ flaw, decodeWith digest (encodeWith digest m ++ extra) = .error flaw ∧
      flaw.breaksOff = false := by
  have hread := payloadFormat_returns h extra none (Cursor.allows_none _)
  rw [encodeWith_eq, List.append_assoc, List.append_assoc, decodeWith_framed, hread]
  by_cases hdigest : digest (payloadFormat.put m ++ extra) ≠ digest (payloadFormat.put m)
  · exact ⟨.badChecksum, by rw [if_pos hdigest], rfl⟩
  · refine ⟨.trailing, ?_, rfl⟩
    simp [hdigest, hextra]

/-- Whatever stands for the digest, a frame is read back as the metadata that it was made of, and
is refused when its end is missing or something stands behind it. -/
theorem frame_exact (digest : Bytes → Digest) {m : Metadata} (h : m.Fits) :
    decodeWith digest (encodeWith digest m) = .ok m ∧
      (∀ cut missing, cut ++ missing = encodeWith digest m → missing ≠ [] →
        ∃ flaw, decodeWith digest cut = .error flaw ∧ flaw.breaksOff = false) ∧
      ∀ extra, extra ≠ [] → ∃ flaw, decodeWith digest (encodeWith digest m ++ extra) = .error flaw ∧
        flaw.breaksOff = false :=
  ⟨decodeWith_encodeWith digest h, fun _ _ hcut hmissing => decodeWith_cut digest h hcut hmissing,
    fun _ hextra => decodeWith_extended digest h hextra⟩

end

section

attribute [local instance] Memory.addressSpace

/-- Even a digest that tells no payload from another gives back a table with one name twice, and
refuses it without its last byte and with a byte behind it. -/
theorem frame_exact_colliding :
    let digest : Bytes → Digest := fun _ => ⟨List.replicate 16 0, rfl⟩
    let m : Metadata :=
      ⟨⟨[⟨"über", digest []⟩, ⟨"", digest []⟩, ⟨"über", digest []⟩]⟩, [1, 2], digest []⟩
    m.Fits ∧ decodeWith digest (encodeWith digest m) = .ok m ∧
      (∃ flaw, decodeWith digest (encodeWith digest m).dropLast = .error flaw ∧
        flaw.breaksOff = false) ∧
      ∃ flaw, decodeWith digest (encodeWith digest m ++ [0]) = .error flaw ∧
        flaw.breaksOff = false := by
  intro digest m
  have hfits : m.Fits := by decide
  obtain ⟨hwhole, hcut, hextended⟩ := frame_exact digest hfits
  have hsplit : (encodeWith digest m).dropLast ++ [0] = encodeWith digest m := by decide
  exact ⟨hfits, hwhole, hcut _ _ hsplit (by simp), hextended _ (by simp)⟩

end

/-! ### Info files -/

variable [Memory]

/-- Whether some bytes are refused as an info file, without breaking off the reading. -/
def Illegible (bytes : Bytes) : Prop :=
  ∃ flaw, decode bytes = .error flaw ∧ flaw.breaksOff = false

theorem decode_encode {m : Metadata} (h : m.Fits) : decode m.encode = .ok m :=
  decodeWith_encodeWith _ h

theorem illegible_of_cut {m : Metadata} (h : m.Fits) {cut missing : Bytes}
    (hcut : cut ++ missing = m.encode) (hmissing : missing ≠ []) : Illegible cut :=
  decodeWith_cut _ h hcut hmissing

/-- An info file that was only begun is illegible. -/
theorem illegible_take {m : Metadata} (h : m.Fits) {k : Nat} (hk : m.encode.take k ≠ m.encode) :
    Illegible (m.encode.take k) := by
  refine illegible_of_cut h (List.take_append_drop k m.encode) fun hdrop => hk ?_
  have happend := List.take_append_drop k m.encode
  rwa [hdrop, List.append_nil] at happend

theorem illegible_nil : Illegible [] :=
  ⟨.tooShort 0, rfl, rfl⟩

end ScriptCache.Metadata
