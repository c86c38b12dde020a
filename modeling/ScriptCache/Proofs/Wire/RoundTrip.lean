import Mathlib
import ScriptCache.Wire.Format

/-! Reading back what was written.

A value *returns* from a format when reading what is written of it, whatever follows, gives
the value and the bytes that follow, and takes from a budget exactly what the format says it
costs. A reader is *steady* when its results do not depend on what stands behind them.

The two together make a format free of prefixes: a value that was cut short is refused, with an
error that does not break anything off (`error_of_beginning`), so what is written of one value is
never the beginning of what is written of another. -/
namespace ScriptCache.Wire

/-! ### Budgets -/

namespace Cursor

/-- Whether a budget has room for a claim. -/
def Allows (budget : Option Nat) (n : Nat) : Prop :=
  ∀ left ∈ budget, n ≤ left

/-- A budget after a claim. -/
def spend (n : Nat) (budget : Option Nat) : Option Nat :=
  budget.map (· - n)

@[simp] theorem allows_none (n : Nat) : Allows none n := by
  simp [Allows]

@[simp] theorem spend_none (n : Nat) : spend n none = none := rfl

@[simp] theorem spend_spend (n k : Nat) (budget : Option Nat) :
    spend k (spend n budget) = spend (n + k) budget := by
  cases budget <;> simp [spend, Nat.sub_sub]

theorem Allows.left {budget : Option Nat} {n k : Nat} (h : Allows budget (n + k)) :
    Allows budget n :=
  fun left hleft => Nat.le_trans (Nat.le_add_right n k) (h left hleft)

theorem Allows.right {budget : Option Nat} {n k : Nat} (h : Allows budget (n + k)) :
    Allows (spend n budget) k := by
  intro left hleft
  obtain ⟨before, hbefore, rfl⟩ := Option.map_eq_some_iff.mp hleft
  have := h before hbefore
  omega

theorem claim_of_allows {budget : Option Nat} {n : Nat} (rest : Bytes) (h : Allows budget n) :
    claim n ⟨rest, budget⟩ = .ok ⟨rest, spend n budget⟩ := by
  cases budget with
  | none => rfl
  | some left => simp [claim, spend, h left rfl]

/-- A claim looks at the budget only. -/
theorem claim_ok {n : Nat} {c c' : Cursor} (h : claim n c = .ok c') :
    c'.rest = c.rest ∧ ∀ more, claim n ⟨more, c.budget⟩ = .ok ⟨more, c'.budget⟩ := by
  obtain ⟨rest, budget⟩ := c
  cases budget with
  | none =>
    cases h
    exact ⟨rfl, fun _ => rfl⟩
  | some left =>
    by_cases hn : n ≤ left
    · simp only [claim, if_pos hn] at h ⊢
      cases h
      exact ⟨rfl, fun _ => rfl⟩
    · simp [claim, hn] at h

theorem claim_error {n : Nat} {c : Cursor} {e : ReadError} (h : claim n c = .error e) :
    e = .limitExceeded := by
  obtain ⟨rest, budget⟩ := c
  cases budget with
  | none => cases h
  | some left =>
    by_cases hn : n ≤ left
    · simp [claim, hn] at h
    · simp only [claim, if_neg hn] at h
      cases h
      rfl

end Cursor

open Cursor

/-! ### Values that return -/

/-- Reading what was written of a value gives it back and stops right behind it. -/
def Format.Returns {α : Type} (f : Format α) (a : α) : Prop :=
  ∀ rest budget, Allows budget (f.cost a) →
    f.read ⟨f.put a ++ rest, budget⟩ = .ok (a, ⟨rest, spend (f.cost a) budget⟩)

namespace Format

variable {α β : Type}

theorem byte_returns (b : UInt8) : byte.Returns b := by
  intro rest budget h
  have hclaim : claim 1 ⟨b :: rest, budget⟩ = _ := claim_of_allows _ h
  show ((claim 1 ⟨b :: rest, budget⟩).bind _) = _
  rw [hclaim]
  rfl

theorem readWidth_littleEndian (width : Nat) {n : Nat} (fits : n < 1 <<< (8 * width)) (rest : Bytes)
    (budget : Option Nat) :
    readWidth width ⟨Bytes.littleEndian width n ++ rest, budget⟩ = .ok (n, ⟨rest, budget⟩) := by
  have htake := take_append (Bytes.littleEndian width n) rest budget
  rw [Bytes.length_littleEndian] at htake
  show ((take width _).bind _) = _
  rw [htake]
  show Except.ok (Bytes.toNat (Bytes.littleEndian width n), _) = _
  rw [Bytes.toNat_littleEndian fits]

/-- The width is found again by its marker. -/
theorem readInteger_putInteger {n : Nat} (expected : IntegerKind) (eight : Bool)
    (fits : n < UInt64.size) (small : eight = false → n < UInt32.size) (rest : Bytes)
    (budget : Option Nat) :
    readInteger expected eight ⟨putInteger n ++ rest, budget⟩ = .ok (n, ⟨rest, budget⟩) := by
  by_cases h1 : n ≤ 250
  · have hn : (UInt8.ofNat n).toNat = n := by
      rw [UInt8.toNat_ofNat']
      omega
    simp [putInteger, readInteger, h1, hn]
  by_cases h2 : n < UInt16.size
  · have hread := readWidth_littleEndian 2 h2 rest budget
    simpa [putInteger, readInteger, h1, h2] using hread
  by_cases h4 : n < UInt32.size
  · have hread := readWidth_littleEndian 4 h4 rest budget
    simpa [putInteger, readInteger, h1, h2, h4] using hread
  · have height : eight = true := by
      by_contra hne
      exact h4 (small (by simpa using hne))
    have hread := readWidth_littleEndian 8 fits rest budget
    simpa [putInteger, readInteger, h1, h2, h4, height] using hread

theorem word32_returns (v : UInt32) : word32.Returns v := by
  intro rest budget h
  have hclaim : claim 4 ⟨putInteger v.toNat ++ rest, budget⟩ = _ := claim_of_allows _ h
  have hint := readInteger_putInteger .bits32 false (Nat.lt_trans v.toNat_lt (by decide))
    (fun _ => v.toNat_lt) rest (spend 4 budget)
  show ((claim 4 ⟨putInteger v.toNat ++ rest, budget⟩).bind _) = _
  rw [hclaim]
  show ((readInteger .bits32 false _).bind _) = _
  rw [hint]
  show Except.ok (UInt32.ofNat v.toNat, _) = _
  rw [UInt32.ofNat_toNat]
  rfl

theorem readLong_putInteger {n : Nat} (fits : n < UInt64.size) (rest : Bytes)
    {budget : Option Nat} (h : Allows budget 8) :
    readLong ⟨putInteger n ++ rest, budget⟩ = .ok (n, ⟨rest, spend 8 budget⟩) := by
  show ((claim 8 ⟨putInteger n ++ rest, budget⟩).bind _) = _
  rw [claim_of_allows _ h]
  exact readInteger_putInteger _ true fits (by simp) rest _

theorem readCount_putInteger {n : Nat} (fits : n < UInt64.size) (rest : Bytes)
    {budget : Option Nat} (h : Allows budget 8) :
    readCount ⟨putInteger n ++ rest, budget⟩ = .ok (n, ⟨rest, spend 8 budget⟩) := by
  show ((claim 8 ⟨putInteger n ++ rest, budget⟩).bind _) = _
  rw [claim_of_allows _ h]
  exact readInteger_putInteger _ true fits (by simp) rest _

theorem word64_returns (v : UInt64) : word64.Returns v := by
  intro rest budget h
  show ((readLong ⟨putInteger v.toNat ++ rest, budget⟩).bind _) = _
  rw [readLong_putInteger v.toNat_lt rest h]
  show Except.ok (UInt64.ofNat v.toNat, _) = _
  rw [UInt64.ofNat_toNat]
  rfl

/-- A text returns if there is room for it. -/
theorem text_returns {s : String} {bound : Nat} (hbound : bound ≤ memoryBound)
    (fits : (Utf8.encode s).length < bound) : (text bound).Returns s := by
  intro rest budget h
  have hlong : (Utf8.encode s).length < UInt64.size :=
    Nat.lt_trans (Nat.lt_of_lt_of_le fits hbound) (by decide)
  have hclaim := claim_of_allows (Utf8.encode s ++ rest) h.right
  have htake := take_append (Utf8.encode s) rest (spend (8 + (Utf8.encode s).length) budget)
  show ((readLong ⟨(putInteger _ ++ Utf8.encode s) ++ rest, budget⟩).bind _) = _
  rw [List.append_assoc, readLong_putInteger hlong _ h.left]
  show ((claim _ ⟨Utf8.encode s ++ rest, spend 8 budget⟩).bind _) = _
  rw [hclaim, spend_spend]
  simp only [Except.bind, Nat.not_le.mpr fits, if_false]
  show ((take _ _).bind _) = _
  rw [htake]
  simp [Except.bind, text]

/-- Reading goes through the elements, each claiming its own part. -/
theorem readMany_put {item : Format α} {as : List α} (items : ∀ a ∈ as, item.Returns a)
    (seen : List α) (rest : Bytes) {base : Nat} {budget : Option Nat}
    (h : Allows budget (as.foldr (fun a others => item.cost a + others) base)) :
    ∃ left, readMany item.read as.length seen ⟨as.flatMap item.put ++ rest, budget⟩ =
        .ok (seen.reverse ++ as, ⟨rest, left⟩) ∧
      spend base left = spend (as.foldr (fun a others => item.cost a + others) base) budget := by
  induction as generalizing seen budget with
  | nil => exact ⟨budget, by simp [readMany], rfl⟩
  | cons a as ih =>
    obtain ⟨left, hread, hleft⟩ := ih (fun b hb => items b (List.mem_cons_of_mem a hb))
      (a :: seen) h.right
    refine ⟨left, ?_, by rw [hleft, spend_spend, List.foldr_cons]⟩
    have hitem := items a List.mem_cons_self (as.flatMap item.put ++ rest) budget h.left
    simp only [List.flatMap_cons, List.length_cons, readMany, List.append_assoc, hitem, hread]
    simp

/-- The element costs of a list are counted onto the cost of its length. -/
theorem foldr_cost (item : Format α) (as : List α) (base : Nat) :
    as.foldr (fun a others => item.cost a + others) base =
      base + as.foldr (fun a others => item.cost a + others) 0 := by
  induction as with
  | nil => rfl
  | cons a as ih =>
    simp only [List.foldr_cons, ih]
    omega

theorem list_returns {item : Format α} {as : List α} (fits : as.length < UInt64.size)
    (items : ∀ a ∈ as, item.Returns a) : (list item).Returns as := by
  intro rest budget h
  have hcost : (list item).cost as = 8 + as.foldr (fun a others => item.cost a + others) 0 :=
    foldr_cost item as 8
  rw [hcost] at h ⊢
  obtain ⟨left, hread, hleft⟩ := readMany_put items [] rest h.right
  show ((readCount ⟨(putInteger as.length ++ as.flatMap item.put) ++ rest, budget⟩).bind _) = _
  rw [List.append_assoc, readCount_putInteger fits _ h.left]
  show readMany item.read as.length [] ⟨_, spend 8 budget⟩ = _
  have hzero : spend 0 left = left := by cases left <;> simp [spend]
  rw [hread, ← spend_spend, ← hleft, hzero]
  rfl

theorem raw_returns (n : Nat) (bytes : { bytes : Bytes // bytes.length = n }) :
    (raw n).Returns bytes := by
  induction n with
  | zero =>
    obtain ⟨bytes, hlength⟩ := bytes
    obtain rfl := List.length_eq_zero_iff.mp hlength
    intro rest budget _
    cases budget <;> simp [raw, readRaw, spend]
  | succ n ih =>
    obtain ⟨bytes, hlength⟩ := bytes
    obtain ⟨b, tail, rfl⟩ := List.exists_cons_of_length_eq_add_one hlength
    intro rest budget h
    have h' : Allows budget (1 + n) := by rwa [Nat.add_comm]
    have hbyte : byte.read ⟨b :: (tail ++ rest), budget⟩ =
        .ok (b, ⟨tail ++ rest, spend 1 budget⟩) := byte_returns b (tail ++ rest) budget h'.left
    have htail : readRaw n ⟨tail ++ rest, spend 1 budget⟩ =
        .ok (⟨tail, by simpa using hlength⟩, ⟨rest, spend n (spend 1 budget)⟩) :=
      ih ⟨tail, by simpa using hlength⟩ rest (spend 1 budget) h'.right
    show ((byte.read ⟨b :: (tail ++ rest), budget⟩).bind _) = _
    rw [hbyte]
    show ((readRaw n ⟨tail ++ rest, spend 1 budget⟩).bind _) = _
    rw [htail, spend_spend, Nat.add_comm 1 n]
    rfl

theorem pair_returns {first : Format α} {second : Format β} {ab : α × β}
    (hfirst : first.Returns ab.1) (hsecond : second.Returns ab.2) :
    (pair first second).Returns ab := by
  intro rest budget h
  show ((first.read ⟨(first.put ab.1 ++ second.put ab.2) ++ rest, budget⟩).bind _) = _
  rw [List.append_assoc, hfirst _ _ h.left]
  show ((second.read ⟨second.put ab.2 ++ rest, _⟩).bind _) = _
  rw [hsecond _ _ h.right, spend_spend]
  rfl

theorem via_returns {item : Format α} {toItem : β → α} {ofItem : α → β} {b : β}
    (hitem : item.Returns (toItem b)) (back : ofItem (toItem b) = b) :
    (via item toItem ofItem).Returns b := by
  intro rest budget h
  show ((item.read ⟨item.put (toItem b) ++ rest, budget⟩).bind _) = _
  rw [hitem _ _ h]
  show Except.ok (ofItem (toItem b), _) = _
  rw [back]
  rfl

end Format

/-! ### Readers that look no further -/

/-- The same cursor with more bytes behind. -/
def Cursor.extend (c : Cursor) (more : Bytes) : Cursor :=
  ⟨c.rest ++ more, c.budget⟩

/-- A reader that finds a value, or breaks off, does so whatever stands behind. -/
structure Steady {α : Type} (read : Reader α) : Prop where
  ok : ∀ {c a c'}, read c = .ok (a, c') → ∀ more, read (c.extend more) = .ok (a, c'.extend more)
  breaks : ∀ {c e}, read c = .error e → e.breaksOff → ∀ more, read (c.extend more) = .error e

namespace Steady

variable {α β : Type}

/-- A reader whose errors never break off need only keep its values. -/
theorem of_ok {read : Reader α}
    (ok : ∀ {c a c'}, read c = .ok (a, c') → ∀ more, read (c.extend more) = .ok (a, c'.extend more))
    (mild : ∀ {c e}, read c = .error e → e.breaksOff = false) : Steady read where
  ok := ok
  breaks h hb := by simp [mild h] at hb

theorem result (a : α) : Steady fun c => .ok (a, c) where
  ok h more := by cases h; rfl
  breaks h := by cases h

theorem failure (e : ReadError) : Steady fun _ => (.error e : Except ReadError (α × Cursor)) where
  ok h := by cases h
  breaks h _ _ := h

theorem bind {read : Reader α} {next : α → Reader β} (hread : Steady read)
    (hnext : ∀ a, Steady (next a)) : Steady fun c => (read c).bind fun x => next x.1 x.2 where
  ok {c b c'} h more := by
    cases hr : read c with
    | error e => simp [hr, Except.bind] at h
    | ok x =>
      simp only [hr, Except.bind] at h
      simp only [hread.ok hr more, Except.bind]
      exact (hnext x.1).ok h more
  breaks {c e} h hb more := by
    cases hr : read c with
    | error e' =>
      simp only [hr, Except.bind, Except.error.injEq] at h
      simp only [hread.breaks hr (h ▸ hb) more, Except.bind, h]
    | ok x =>
      simp only [hr, Except.bind] at h
      simp only [hread.ok hr more, Except.bind]
      exact (hnext x.1).breaks h hb more

theorem claim {read : Reader α} (hread : Steady read) (n : Nat) :
    Steady fun c => (Cursor.claim n c).bind read where
  ok {c a c'} h more := by
    cases hc : Cursor.claim n c with
    | error e => simp [hc, Except.bind] at h
    | ok d =>
      obtain ⟨hrest, hclaim⟩ := claim_ok hc
      simp only [hc, Except.bind] at h
      have hmore : Cursor.claim n (c.extend more) = .ok (d.extend more) := by
        rw [Cursor.extend, hclaim, Cursor.extend, hrest]
      simp only [hmore, Except.bind]
      exact hread.ok h more
  breaks {c e} h hb more := by
    cases hc : Cursor.claim n c with
    | error e' =>
      simp only [hc, Except.bind, Except.error.injEq] at h
      rw [← h, claim_error hc] at hb
      cases hb
    | ok d =>
      obtain ⟨hrest, hclaim⟩ := claim_ok hc
      simp only [hc, Except.bind] at h
      have hmore : Cursor.claim n (c.extend more) = .ok (d.extend more) := by
        rw [Cursor.extend, hclaim, Cursor.extend, hrest]
      simp only [hmore, Except.bind]
      exact hread.breaks h hb more

theorem take (n : Nat) : Steady (Cursor.take n) := by
  refine of_ok (fun {c a c'} h more => ?_) (fun {c e} h => ?_)
  · by_cases hn : (c.rest.take n).length < n
    · simp only [Cursor.take, if_pos hn] at h
      cases h
    · simp only [Cursor.take, if_neg hn] at h
      cases h
      have hle : n ≤ c.rest.length := by simpa using hn
      have htake : (c.rest ++ more).take n = c.rest.take n := List.take_append_of_le_length hle
      have hdrop : (c.rest ++ more).drop n = c.rest.drop n ++ more :=
        List.drop_append_of_le_length hle
      simp only [Cursor.take, Cursor.extend, htake, if_neg hn, hdrop]
  · by_cases hn : (c.rest.take n).length < n
    · simp only [Cursor.take, if_pos hn] at h
      cases h
      rfl
    · simp only [Cursor.take, if_neg hn] at h
      cases h

end Steady

namespace Format

variable {α β : Type}

theorem byte_steady : Steady byte.read := by
  refine Steady.claim (Steady.of_ok (fun {c a c'} h more => ?_) (fun {c e} h => ?_)) 1
  · obtain ⟨rest, budget⟩ := c
    cases rest with
    | nil => cases h
    | cons b rest =>
      cases h
      rfl
  · obtain ⟨rest, budget⟩ := c
    cases rest with
    | nil =>
      cases h
      rfl
    | cons b rest => cases h

theorem readWidth_steady (width : Nat) : Steady (readWidth width) :=
  Steady.bind (Steady.take width) fun bytes => Steady.result bytes.toNat

/-- The kind that was wanted decides nothing but the error. -/
theorem readInteger_ok {expected : IntegerKind} {eight : Bool} {c c' : Cursor} {n : Nat}
    (h : readInteger expected eight c = .ok (n, c')) (expected' : IntegerKind) (more : Bytes) :
    readInteger expected' eight (c.extend more) = .ok (n, c'.extend more) := by
  obtain ⟨rest, budget⟩ := c
  cases rest with
  | nil => cases h
  | cons marker rest =>
    have hwidth (width : Nat) (hw : readWidth width ⟨rest, budget⟩ = .ok (n, c')) :
        readWidth width ⟨rest ++ more, budget⟩ = .ok (n, c'.extend more) :=
      (readWidth_steady width).ok hw more
    simp only [readInteger, Cursor.extend, List.cons_append] at h ⊢
    by_cases h250 : marker.toNat ≤ 250
    · rw [if_pos h250] at h ⊢
      cases h
      rfl
    by_cases h251 : marker.toNat = 251
    · rw [if_neg h250, if_pos h251] at h ⊢
      exact hwidth 2 h
    by_cases h252 : marker.toNat = 252
    · rw [if_neg h250, if_neg h251, if_pos h252] at h ⊢
      exact hwidth 4 h
    by_cases h253 : marker.toNat = 253
    · rw [if_neg h250, if_neg h251, if_neg h252, if_pos h253] at h ⊢
      by_cases h8 : eight = true
      · rw [if_pos h8] at h ⊢
        exact hwidth 8 h
      · rw [if_neg h8] at h
        cases h
    · rw [if_neg h250, if_neg h251, if_neg h252, if_neg h253] at h
      split at h <;> cases h

theorem readWidth_mild {width : Nat} {c : Cursor} {e : ReadError}
    (h : readWidth width c = .error e) : e.breaksOff = false := by
  by_cases hn : (c.rest.take width).length < width
  · simp only [readWidth, Cursor.take, if_pos hn] at h
    cases h
    rfl
  · simp only [readWidth, Cursor.take, if_neg hn] at h
    cases h

/-- An integer that cannot be read breaks nothing off. -/
theorem readInteger_mild {expected : IntegerKind} {eight : Bool} {c : Cursor} {e : ReadError}
    (h : readInteger expected eight c = .error e) : e.breaksOff = false := by
  obtain ⟨rest, budget⟩ := c
  cases rest with
  | nil =>
    cases h
    rfl
  | cons marker rest =>
    simp only [readInteger] at h
    split at h
    · cases h
    · split at h
      · exact readWidth_mild h
      · split at h
        · exact readWidth_mild h
        · split at h
          · split at h
            · exact readWidth_mild h
            · cases h
              rfl
          · split at h <;> cases h <;> rfl

theorem readInteger_steady (expected : IntegerKind) (eight : Bool) :
    Steady (readInteger expected eight) :=
  Steady.of_ok (fun h => readInteger_ok h expected) readInteger_mild

theorem readLong_steady : Steady readLong :=
  Steady.claim (Steady.of_ok (fun h more => readInteger_ok h _ more) readInteger_mild) 8

theorem readCount_steady : Steady readCount :=
  Steady.claim (readInteger_steady _ _) 8

theorem word64_steady : Steady word64.read :=
  Steady.bind readLong_steady fun n => Steady.result (UInt64.ofNat n)

/-- The bytes of a text, its length being known. -/
theorem textBody_steady (bound n : Nat) : Steady fun c =>
    if bound ≤ n then .error .beyondMemory
    else (Cursor.take n c).bind fun x =>
      match Utf8.decode x.1 with
      | .ok s => .ok (s, x.2)
      | .error flaw => .error (.badText flaw) := by
  by_cases hn : bound ≤ n
  · simp only [if_pos hn]
    exact Steady.failure _
  · have hdecode (bytes : Bytes) : Steady fun c =>
        (match Utf8.decode bytes with
        | .ok s => .ok (s, c)
        | .error flaw => .error (.badText flaw) : Except ReadError (String × Cursor)) := by
      cases Utf8.decode bytes with
      | ok s => exact Steady.result s
      | error flaw => exact Steady.failure _
    simp only [if_neg hn]
    exact Steady.bind (Steady.take n) hdecode

theorem text_steady (bound : Nat) : Steady (text bound).read := by
  have heq : (text bound).read = fun c => (readLong c).bind fun x => (Cursor.claim x.1 x.2).bind fun c =>
      if bound ≤ x.1 then .error .beyondMemory
      else (Cursor.take x.1 c).bind fun y =>
        match Utf8.decode y.1 with
        | .ok s => .ok (s, y.2)
        | .error flaw => .error (.badText flaw) := rfl
  rw [heq]
  exact Steady.bind readLong_steady fun n => Steady.claim (textBody_steady bound n) n

theorem readMany_steady {item : Reader α} (hitem : Steady item) (n : Nat) (seen : List α) :
    Steady (readMany item n seen) := by
  induction n generalizing seen with
  | zero => exact Steady.result seen.reverse
  | succ n ih =>
    have heq : readMany item (n + 1) seen =
        fun c => (item c).bind fun x => readMany item n (x.1 :: seen) x.2 := by
      funext c
      cases h : item c <;> simp [readMany, h, Except.bind]
    rw [heq]
    exact Steady.bind hitem fun a => ih (a :: seen)

theorem list_steady {item : Format α} (hitem : Steady item.read) : Steady (list item).read :=
  Steady.bind readCount_steady fun n => readMany_steady hitem n []

theorem raw_steady (n : Nat) : Steady (raw n).read := by
  induction n with
  | zero => exact Steady.result _
  | succ n ih =>
    let longer (b : UInt8) (bytes : { bytes : Bytes // bytes.length = n }) :
        { bytes : Bytes // bytes.length = n + 1 } := ⟨b :: bytes.val, by simp [bytes.property]⟩
    have hnext (b : UInt8) : Steady fun c => (readRaw n c).bind fun x => .ok (longer b x.1, x.2) :=
      Steady.bind ih fun bytes => Steady.result (longer b bytes)
    exact Steady.bind byte_steady hnext

theorem pair_steady {first : Format α} {second : Format β} (hfirst : Steady first.read)
    (hsecond : Steady second.read) : Steady (pair first second).read :=
  Steady.bind hfirst fun a => Steady.bind hsecond fun b => Steady.result (a, b)

theorem via_steady {item : Format α} (hitem : Steady item.read) (toItem : β → α)
    (ofItem : α → β) : Steady (via item toItem ofItem).read :=
  Steady.bind hitem fun a => Steady.result (ofItem a)

end Format

/-! ### No written value begins another -/

/-- Where some bytes are read to their end, or are refused without breaking anything off, they are
refused in that way when their end is missing. -/
theorem Steady.refuses_beginning {α : Type} {read : Reader α} (h : Steady read)
    {cut missing : Bytes} {budget : Option Nat} (hmissing : missing ≠ [])
    (hwhole : ∀ a c, read ⟨cut ++ missing, budget⟩ = .ok (a, c) → c.rest = [])
    (hmild : ∀ e, read ⟨cut ++ missing, budget⟩ = .error e → e.breaksOff = false) :
    ∃ e, read ⟨cut, budget⟩ = .error e ∧ e.breaksOff = false := by
  cases hcut : read ⟨cut, budget⟩ with
  | ok x =>
    have hlonger : read ⟨cut ++ missing, budget⟩ = .ok (x.1, x.2.extend missing) := h.ok hcut missing
    have hrest : x.2.rest ++ missing = [] := hwhole _ _ hlonger
    exact absurd (List.append_eq_nil_iff.mp hrest).2 hmissing
  | error e =>
    refine ⟨e, rfl, ?_⟩
    by_contra hbreaks
    exact hbreaks (hmild e (h.breaks hcut (by simpa using hbreaks) missing))

/-- Bytes do not begin with what is written of two different values. -/
theorem Format.Returns.unique {α : Type} {f : Format α} {a b : α} (ha : f.Returns a)
    (hb : f.Returns b) {rest rest' : Bytes} (h : f.put a ++ rest = f.put b ++ rest') :
    a = b ∧ rest = rest' := by
  have hread := ha rest none (allows_none _)
  rw [h, hb rest' none (allows_none _)] at hread
  cases hread
  exact ⟨rfl, rfl⟩

/-- A value that was cut short is read as no value, and nothing is broken off. -/
theorem error_of_beginning {α : Type} {f : Format α} (hsteady : Steady f.read) {a : α}
    (hreturns : f.Returns a) {cut missing : Bytes} (hput : f.put a = cut ++ missing)
    (hmissing : missing ≠ []) : ∃ e, f.read ⟨cut, none⟩ = .error e ∧ e.breaksOff = false := by
  have hwhole := hreturns [] none (allows_none _)
  rw [List.append_nil, hput] at hwhole
  refine hsteady.refuses_beginning hmissing (fun b c h => ?_) fun e h => ?_
  · rw [hwhole] at h
    cases h
    rfl
  · rw [hwhole] at h
    cases h

end ScriptCache.Wire
