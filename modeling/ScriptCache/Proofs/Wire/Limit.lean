import Mathlib
import ScriptCache.Proofs.Wire.RoundTrip

/-! What a budget has to do with reading.

A value is *metered* by a format when a budget alone decides about reading what was written of it:
with room for what the format says the value costs it returns, and without that room the budget is
spent before the value is read. Bytes, integers, texts, lists and pairs are metered, so the cost of a
value of many parts is the sum of what its parts cost, and an error of the budget comes from nothing
but that sum. A value that was cut short is refused whatever the budget
(`Format.Metered.error_of_beginning`). -/
namespace ScriptCache.Wire

open Cursor

/-! ### Claims that a budget has no room for -/

namespace Cursor

theorem claim_of_not_allows {budget : Option Nat} {n : Nat} (rest : Bytes)
    (h : ¬ Allows budget n) : claim n ⟨rest, budget⟩ = .error .limitExceeded := by
  cases budget with
  | none => exact absurd (allows_none n) h
  | some left =>
    have hn : ¬ n ≤ left := fun hle => h fun _ hmem => by
      cases hmem
      exact hle
    simp [claim, hn]

/-- Of two claims in a row that a budget has no room for, the first fails, or it is met and the second
fails. -/
theorem not_allows_add {budget : Option Nat} {n k : Nat} (h : ¬ Allows budget (n + k)) :
    ¬ Allows budget n ∨ Allows budget n ∧ ¬ Allows (spend n budget) k := by
  by_cases hn : Allows budget n
  · refine .inr ⟨hn, fun hk => h fun left hleft => ?_⟩
    have hfirst := hn left hleft
    have hsecond := hk (left - n) (Option.map_eq_some_iff.mpr ⟨left, hleft, rfl⟩)
    omega
  · exact .inl hn

end Cursor

/-! ### Metered values -/

namespace Format

/-- Whether a budget alone decides about reading what was written of a value. -/
structure Metered {α : Type} (f : Format α) (a : α) : Prop where
  returns : f.Returns a
  exhausts : ∀ rest budget, ¬ Allows budget (f.cost a) →
    f.read ⟨f.put a ++ rest, budget⟩ = .error .limitExceeded

variable {α β : Type}

theorem byte_metered (b : UInt8) : byte.Metered b where
  returns := byte_returns b
  exhausts rest budget h := by
    have hclaim : claim 1 ⟨b :: rest, budget⟩ = _ := claim_of_not_allows _ h
    show ((claim 1 ⟨b :: rest, budget⟩).bind _) = _
    rw [hclaim]
    rfl

theorem readLong_of_not_allows (rest : Bytes) {budget : Option Nat} (h : ¬ Allows budget 8) :
    readLong ⟨rest, budget⟩ = .error .limitExceeded := by
  show ((claim 8 ⟨rest, budget⟩).bind _) = _
  rw [claim_of_not_allows _ h]
  rfl

theorem readCount_of_not_allows (rest : Bytes) {budget : Option Nat} (h : ¬ Allows budget 8) :
    readCount ⟨rest, budget⟩ = .error .limitExceeded := by
  show ((claim 8 ⟨rest, budget⟩).bind _) = _
  rw [claim_of_not_allows _ h]
  rfl

theorem word64_metered (v : UInt64) : word64.Metered v where
  returns := word64_returns v
  exhausts rest budget h := by
    show ((readLong ⟨word64.put v ++ rest, budget⟩).bind _) = _
    rw [readLong_of_not_allows _ h]
    rfl

theorem text_metered {s : String} {bound : Nat} (hbound : bound ≤ memoryBound)
    (fits : (Utf8.encode s).length < bound) : (text bound).Metered s where
  returns := text_returns hbound fits
  exhausts rest budget h := by
    have hsize : (Utf8.encode s).length < UInt64.size :=
      Nat.lt_trans (Nat.lt_of_lt_of_le fits hbound) (by decide)
    rcases not_allows_add h with hlength | ⟨hlength, hbytes⟩
    · show ((readLong ⟨(text bound).put s ++ rest, budget⟩).bind _) = _
      rw [readLong_of_not_allows _ hlength]
      rfl
    · show ((readLong ⟨(putInteger (Utf8.encode s).length ++ Utf8.encode s) ++ rest, budget⟩).bind
        _) = _
      rw [List.append_assoc, readLong_putInteger hsize _ hlength]
      show ((claim (Utf8.encode s).length ⟨Utf8.encode s ++ rest, spend 8 budget⟩).bind _) = _
      rw [claim_of_not_allows _ hbytes]
      rfl

theorem pair_metered {first : Format α} {second : Format β} {ab : α × β}
    (hfirst : first.Metered ab.1) (hsecond : second.Metered ab.2) :
    (pair first second).Metered ab where
  returns := pair_returns hfirst.returns hsecond.returns
  exhausts rest budget h := by
    show ((first.read ⟨(first.put ab.1 ++ second.put ab.2) ++ rest, budget⟩).bind _) = _
    rw [List.append_assoc]
    rcases not_allows_add h with hspent | ⟨hpaid, hspent⟩
    · rw [hfirst.exhausts _ _ hspent]
      rfl
    · rw [hfirst.returns _ _ hpaid]
      show ((second.read ⟨second.put ab.2 ++ rest, spend (first.cost ab.1) budget⟩).bind _) = _
      rw [hsecond.exhausts _ _ hspent]
      rfl

theorem via_metered {item : Format α} {toItem : β → α} {ofItem : α → β} {b : β}
    (hitem : item.Metered (toItem b)) (back : ofItem (toItem b) = b) :
    (via item toItem ofItem).Metered b where
  returns := via_returns hitem.returns back
  exhausts rest budget h := by
    show ((item.read ⟨item.put (toItem b) ++ rest, budget⟩).bind _) = _
    rw [hitem.exhausts _ _ h]
    rfl

/-- The element that the budget is spent at ends the reading of a list. -/
theorem readMany_of_not_allows {item : Format α} {as : List α}
    (items : ∀ a ∈ as, item.Metered a) (seen : List α) (rest : Bytes) {budget : Option Nat}
    (h : ¬ Allows budget (as.foldr (fun a others => item.cost a + others) 0)) :
    readMany item.read as.length seen ⟨as.flatMap item.put ++ rest, budget⟩ =
      .error .limitExceeded := by
  induction as generalizing seen budget with
  | nil => exact absurd (fun _ _ => Nat.zero_le _) h
  | cons a as ih =>
    have ha := items a List.mem_cons_self
    simp only [List.flatMap_cons, List.length_cons, readMany, List.append_assoc]
    rcases not_allows_add h with hspent | ⟨hpaid, hspent⟩
    · rw [ha.exhausts _ _ hspent]
    · rw [ha.returns _ _ hpaid]
      exact ih (fun b hb => items b (List.mem_cons_of_mem a hb)) (a :: seen) hspent

theorem list_metered {item : Format α} {as : List α} (fits : as.length < UInt64.size)
    (items : ∀ a ∈ as, item.Metered a) : (list item).Metered as where
  returns := list_returns fits fun a ha => (items a ha).returns
  exhausts rest budget h := by
    have hcost : (list item).cost as = 8 + as.foldr (fun a others => item.cost a + others) 0 :=
      foldr_cost item as 8
    rw [hcost] at h
    show ((readCount ⟨(putInteger as.length ++ as.flatMap item.put) ++ rest, budget⟩).bind _) = _
    rw [List.append_assoc]
    rcases not_allows_add h with hspent | ⟨hpaid, hspent⟩
    · rw [readCount_of_not_allows _ hspent]
      rfl
    · rw [readCount_putInteger fits _ hpaid]
      exact readMany_of_not_allows items [] rest hspent

/-- A value that was cut short is refused whatever the budget, and nothing is broken off. -/
theorem Metered.error_of_beginning {f : Format α} {a : α} (h : f.Metered a)
    (hsteady : Steady f.read) {cut missing : Bytes} (hput : f.put a = cut ++ missing)
    (hmissing : missing ≠ []) (budget : Option Nat) :
    ∃ e, f.read ⟨cut, budget⟩ = .error e ∧ e.breaksOff = false := by
  by_cases hbudget : Allows budget (f.cost a)
  · have hwhole := h.returns [] budget hbudget
    rw [List.append_nil, hput] at hwhole
    refine hsteady.refuses_beginning hmissing (fun b c hread => ?_) fun e hread => ?_
    · rw [hwhole] at hread
      cases hread
      rfl
    · rw [hwhole] at hread
      cases hread
  · have hwhole := h.exhausts [] budget hbudget
    rw [List.append_nil, hput] at hwhole
    refine hsteady.refuses_beginning hmissing (fun b c hread => ?_) fun e hread => ?_
    · rw [hwhole] at hread
      cases hread
    · rw [hwhole] at hread
      cases hread
      rfl

end Format

end ScriptCache.Wire
