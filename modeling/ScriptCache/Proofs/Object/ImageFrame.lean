import Mathlib
import ScriptCache.Object.Executable
import ScriptCache.Proofs.Wire.Limit

/-! Object images are read back whole, within a budget, or not at all.

Writing an image asks for no budget, reading one has a fixed budget, so an image can be written that
cannot be read. What it is charged for can be told from its parts (`charge`): it is read back as it
was where that does not exceed the budget, and its bytes are no image where it does. A beginning of
an image's bytes is no image, nor are they with something behind them, on either side of the budget
(`image_exact`). -/
namespace ScriptCache.ObjectImage

open Wire

/-- Whether an image is of a size that memory holds. -/
structure Fits (image : ObjectImage) : Prop where
  importNames : ∀ name ∈ image.imports, (Utf8.encode name).length < Format.memoryBound
  exportNames : ∀ e ∈ image.exports, (Utf8.encode e.name).length < Format.memoryBound
  imports : image.imports.length < UInt64.size
  exports : image.exports.length < UInt64.size
  text : image.text.length < UInt64.size

/-- What reading an image is charged for: eight bytes for every length, count and place, and one for
every byte of a name or of the code. -/
def charge (image : ObjectImage) : Nat :=
  (8 + (image.imports.map fun name => 8 + (Utf8.encode name).length).sum) +
    (8 + (image.exports.map fun e => 8 + (Utf8.encode e.name).length + 8).sum) +
    (8 + image.text.length)

/-! ### The body of an image -/

theorem cost_list {α : Type} (item : Format α) (as : List α) :
    (Format.list item).cost as = 8 + (as.map item.cost).sum := by
  show as.foldr (fun a others => item.cost a + others) 8 = _
  rw [Format.foldr_cost, List.sum, List.foldr_map]

theorem cost_eq_charge (image : ObjectImage) : format.cost image = image.charge := by
  have hcode : (image.text.map Format.byte.cost).sum = image.text.length := by
    show (image.text.map fun _ => 1).sum = _
    simp
  show (Format.list nameFormat).cost image.imports +
    ((Format.list exportFormat).cost image.exports + (Format.list .byte).cost image.text) = _
  rw [cost_list, cost_list, cost_list, hcode, ← Nat.add_assoc]
  rfl

theorem export_metered {e : Export} (h : (Utf8.encode e.name).length < Format.memoryBound) :
    exportFormat.Metered e :=
  Format.via_metered
    (Format.pair_metered (Format.text_metered (Nat.le_refl _) h) (Format.word64_metered _)) rfl

theorem format_metered {image : ObjectImage} (h : image.Fits) : format.Metered image := by
  refine Format.via_metered (Format.pair_metered ?imports (Format.pair_metered ?exports ?text)) rfl
  case imports => exact Format.list_metered h.imports fun name hname =>
    Format.text_metered (Nat.le_refl _) (h.importNames name hname)
  case exports => exact Format.list_metered h.exports fun e he => export_metered (h.exportNames e he)
  case text => exact Format.list_metered h.text fun b _ => Format.byte_metered b

theorem format_steady : Steady format.read :=
  Format.via_steady (Format.pair_steady (Format.list_steady (Format.text_steady _))
    (Format.pair_steady
      (Format.list_steady (Format.via_steady
        (Format.pair_steady (Format.text_steady _) Format.word64_steady) _ _))
      (Format.list_steady Format.byte_steady))) _ _

/-! ### Images with something behind them -/

theorem decode_of_error {body : Bytes} {e : ReadError}
    (h : format.read ⟨body, some budget⟩ = .error e) :
    decode (magic ++ body) = .error (.undecodable e) := by
  have hbody : body? (magic ++ body) = some body := by simp [body?]
  simp only [decode, hbody, h]

theorem decode_of_ok {body : Bytes} {image : ObjectImage} {c : Cursor}
    (h : format.read ⟨body, some budget⟩ = .ok (image, c)) : decode (magic ++ body) =
      if c.rest.isEmpty then .ok image else .error (.trailing c.rest.length) := by
  have hbody : body? (magic ++ body) = some body := by simp [body?]
  simp only [decode, hbody, h]

theorem allows_budget {n : Nat} : Cursor.Allows (some budget) n ↔ n ≤ budget :=
  ⟨fun h => h budget rfl, fun h _ hleft => by cases hleft; exact h⟩

theorem decode_within {image : ObjectImage} (h : image.Fits) (hcharge : image.charge ≤ budget)
    (extra : Bytes) : decode (image.encode ++ extra) =
      if extra.isEmpty then .ok image else .error (.trailing extra.length) := by
  rw [← cost_eq_charge] at hcharge
  have hread := (format_metered h).returns extra (some budget) (allows_budget.mpr hcharge)
  rw [encode, List.append_assoc]
  exact decode_of_ok hread

theorem decode_beyond {image : ObjectImage} (h : image.Fits) (hcharge : budget < image.charge)
    (extra : Bytes) : decode (image.encode ++ extra) = .error (.undecodable .limitExceeded) := by
  rw [← cost_eq_charge] at hcharge
  have hread := (format_metered h).exhausts extra (some budget)
    fun hallows => Nat.not_le_of_lt hcharge (allows_budget.mp hallows)
  rw [encode, List.append_assoc]
  exact decode_of_error hread

/-! ### Bytes that are no image -/

/-- Whether some bytes are refused as an image, without breaking off the reading, so that loading
them says that they are malformed. -/
def Malformed (bytes : Bytes) : Prop :=
  ∃ flaw, decode bytes = .error flaw ∧ (∀ e, flaw = .undecodable e → e.breaksOff = false) ∧
    ∀ origin resolvers,
      (Executable.loadImage bytes origin resolvers).1 = .error (.malformed flaw.message)

theorem malformed_of_error {bytes : Bytes} {flaw : ImageFlaw} (h : decode bytes = .error flaw)
    (hmild : ∀ e, flaw = .undecodable e → e.breaksOff = false) : Malformed bytes :=
  ⟨flaw, h, hmild, fun _ _ => by simp only [Executable.loadImage, h]⟩

theorem malformed_beyond {image : ObjectImage} (h : image.Fits) (hcharge : budget < image.charge)
    (extra : Bytes) : Malformed (image.encode ++ extra) :=
  malformed_of_error (decode_beyond h hcharge extra) fun _ he => by
    cases he
    rfl

theorem malformed_extended {image : ObjectImage} (h : image.Fits) {extra : Bytes}
    (hextra : extra ≠ []) : Malformed (image.encode ++ extra) := by
  by_cases hcharge : image.charge ≤ budget
  · have hdecode := decode_within h hcharge extra
    rw [if_neg (by simpa using hextra)] at hdecode
    exact malformed_of_error hdecode nofun
  · exact malformed_beyond h (Nat.lt_of_not_le hcharge) extra

theorem malformed_cut {image : ObjectImage} (h : image.Fits) {cut missing : Bytes}
    (hcut : cut ++ missing = image.encode) (hmissing : missing ≠ []) : Malformed cut := by
  by_cases hmagic : cut.take magic.length = magic
  · -- The magic bytes are whole, so the cut lies in the body.
    obtain ⟨found, rfl⟩ : ∃ found, cut = magic ++ found :=
      ⟨cut.drop magic.length, by
        have hparts := List.take_append_drop magic.length cut
        rw [hmagic] at hparts
        exact hparts.symm⟩
    have hput : format.put image = found ++ missing := by
      rw [List.append_assoc] at hcut
      exact (List.append_cancel_left hcut).symm
    obtain ⟨e, hread, hmild⟩ :=
      (format_metered h).error_of_beginning format_steady hput hmissing (some budget)
    refine malformed_of_error (decode_of_error hread) ?_
    rintro _ ⟨⟩
    exact hmild
  · have hdecode : decode cut = .error .noMagic := by
      rw [decode, body?, if_neg hmagic]
    exact malformed_of_error hdecode nofun

/-! ### Images -/

/-- An image is read back as it was exactly when what it is charged for does not exceed the budget;
else its bytes are no image. Neither are they ever when their end is missing or something stands
behind them. -/
theorem image_exact {image : ObjectImage} (h : image.Fits) :
    (decode image.encode = .ok image ↔ image.charge ≤ budget) ∧
      (budget < image.charge → Malformed image.encode) ∧
      (∀ cut missing, cut ++ missing = image.encode → missing ≠ [] → Malformed cut) ∧
      ∀ extra, extra ≠ [] → Malformed (image.encode ++ extra) := by
  have hbeyond (hcharge : budget < image.charge) : Malformed image.encode := by
    have hmalformed := malformed_beyond h hcharge []
    rwa [List.append_nil] at hmalformed
  refine ⟨⟨fun hdecode => ?_, fun hcharge => ?_⟩, hbeyond,
    fun _ _ hcut hmissing => malformed_cut h hcut hmissing, fun _ hextra => malformed_extended h hextra⟩
  · by_contra hcharge
    obtain ⟨flaw, herror, -⟩ := hbeyond (Nat.lt_of_not_le hcharge)
    rw [hdecode] at herror
    cases herror
  · have hdecode := decode_within h hcharge []
    rwa [List.append_nil] at hdecode

/-- Code that takes the whole budget leaves nothing for its own length. -/
theorem malformed_of_full_budget :
    let image : ObjectImage := { text := List.replicate budget 0 }
    image.Fits ∧ budget < image.charge ∧ Malformed image.encode := by
  intro image
  have hfits : image.Fits := ⟨nofun, nofun, by decide, by decide, by
    rw [List.length_replicate]
    decide⟩
  have hcharge : budget < image.charge := by
    show budget < 8 + 0 + (8 + 0) + (8 + (List.replicate budget (0 : UInt8)).length)
    rw [List.length_replicate]
    omega
  exact ⟨hfits, hcharge, (image_exact hfits).2.1 hcharge⟩

end ScriptCache.ObjectImage
