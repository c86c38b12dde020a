import Mathlib
import ScriptCache.Lock.RetryPolicy

/-! How long the sleeps are.

A sleep is the first one times a factor, or the cap where that is shorter, and this is exact: a
product that is no span is longer than any cap (`nanoseconds_backoff`). The factor is doubled up to
attempt 31 and has grown to the largest number of 32 bits at attempt 32, where it stays. So a sleep
is twice the one before, or the cap, up to attempt 31, and after it as well if the cap is reached by
then; a cap further away is never reached (`backoff_exact`). -/
namespace ScriptCache

namespace Duration

theorem eq_of_nanoseconds {a b : Duration} (h : a.nanoseconds = b.nanoseconds) : a = b := by
  cases a
  cases b
  cases h
  rfl

/-- A number of nanoseconds that is a span is that span. -/
theorem ofNanoseconds?_eq_some {n : Nat} {d : Duration} :
    ofNanoseconds? n = some d ↔ d.nanoseconds = n := by
  rw [ofNanoseconds?]
  constructor
  · intro h
    split at h
    · cases h
      rfl
    · cases h
  · rintro rfl
    exact dif_pos d.bounded

theorem ofNanoseconds?_eq_none {n : Nat} :
    ofNanoseconds? n = none ↔ UInt64.size * 1000000000 ≤ n := by
  rw [ofNanoseconds?]
  split
  · rename_i h
    constructor
    · intro hnone
      cases hnone
    · intro hlong
      exact absurd h (Nat.not_lt_of_le hlong)
  · rename_i h
    exact ⟨fun _ => Nat.le_of_not_lt h, fun _ => rfl⟩

end Duration

namespace RetryPolicy

/-! ### Factors -/

theorem factor_of_lt {n : Nat} (h : n < 32) : factor n = 2 ^ n := by
  rw [factor, if_pos h, Nat.one_shiftLeft]

theorem factor_of_le {n : Nat} (h : 32 ≤ n) : factor n = 2 ^ 32 - 1 :=
  if_neg (Nat.not_lt_of_le h)

theorem factor_succ {n : Nat} (h : n < 31) : factor (n + 1) = 2 * factor n := by
  rw [factor_of_lt (by omega), factor_of_lt (by omega), Nat.pow_succ']

theorem factor_le_succ (n : Nat) : factor n ≤ factor (n + 1) := by
  rcases Nat.lt_trichotomy n 31 with h | rfl | h
  · rw [factor_succ h]
    omega
  · decide
  · rw [factor_of_le (by omega), factor_of_le (by omega)]

theorem factor_mono : Monotone factor :=
  monotone_nat_of_le_succ factor_le_succ

theorem factor_le (n : Nat) : factor n ≤ 2 ^ 32 - 1 := by
  rw [← factor_of_le (Nat.le_add_left 32 n)]
  exact factor_mono (Nat.le_add_right n 32)

/-! ### Sleeps -/

variable (p : RetryPolicy)

/-- A sleep, to the nanosecond. -/
theorem nanoseconds_backoff (n : Nat) : (p.backoff n).nanoseconds =
    min (p.initial.nanoseconds * factor n) p.cap.nanoseconds := by
  rw [backoff, Duration.nanoseconds_min]
  cases h : p.initial.times? (factor n) with
  | some product =>
    rw [Option.getD_some, Duration.nanoseconds_times? h]
  | none =>
    -- The product is too long for a span, so it is longer than the cap.
    have hlong := Duration.ofNanoseconds?_eq_none.mp h
    have hcap := p.cap.bounded
    rw [Option.getD_none, min_eq_right (by omega)]
    exact Nat.min_self _

theorem backoff_le_cap (n : Nat) : (p.backoff n).nanoseconds ≤ p.cap.nanoseconds := by
  rw [nanoseconds_backoff]
  exact Nat.min_le_right _ _

/-- No sleep is shorter than one before it. -/
theorem backoff_mono : Monotone fun n => (p.backoff n).nanoseconds := by
  intro k n h
  simp only [nanoseconds_backoff]
  exact min_le_min_right _ (Nat.mul_le_mul_left _ (factor_mono h))

theorem backoff_eq_cap_iff {n : Nat} :
    p.backoff n = p.cap ↔ p.cap.nanoseconds ≤ p.initial.nanoseconds * factor n := by
  constructor
  · intro h
    rw [← h, nanoseconds_backoff]
    exact Nat.min_le_left _ _
  · intro h
    apply Duration.eq_of_nanoseconds
    rw [nanoseconds_backoff, min_eq_right h]

/-- Whether the sleeps grow up to the cap: it is no further away than the largest factor takes
the first sleep. -/
def CapInReach : Prop :=
  p.cap.nanoseconds ≤ p.initial.nanoseconds * (2 ^ 32 - 1)

/-- The sleeps that are twice the one before, or the cap. -/
theorem backoff_succ_iff (n : Nat) :
    (p.backoff (n + 1)).nanoseconds = min (2 * (p.backoff n).nanoseconds) p.cap.nanoseconds ↔
      n < 31 ∨ p.initial.nanoseconds = 0 ∨ p.CapInReach := by
  simp only [nanoseconds_backoff, CapInReach]
  rcases Nat.lt_trichotomy n 31 with h | rfl | h
  · rw [factor_succ h, Nat.mul_left_comm]
    omega
  · rw [factor_of_lt (n := 31) (by decide), factor_of_le (n := 31 + 1) (by decide)]
    omega
  · rw [factor_of_le (by omega), factor_of_le (by omega)]
    omega

/-- A cap that is ever reached is reached at attempt 32. -/
theorem reaches_cap_iff : (∃ n, p.backoff n = p.cap) ↔ p.CapInReach := by
  constructor
  · rintro ⟨n, h⟩
    exact ((backoff_eq_cap_iff p).mp h).trans (Nat.mul_le_mul_left _ (factor_le n))
  · intro h
    exact ⟨32, (backoff_eq_cap_iff p).mpr h⟩

/-! ### Sleeping in all -/

theorem total_eq_sum (n : Nat) :
    p.total n = (((List.range n).map p.backoff).map Duration.nanoseconds).sum := by
  induction n with
  | zero => rfl
  | succ n ih => simp [total, ih, List.range_succ]

theorem total_mono : Monotone p.total :=
  monotone_nat_of_le_succ fun _ => Nat.le_add_right _ _

theorem maxWait_eq_some {span : Duration} :
    p.maxWait = some span ↔ span.nanoseconds = p.total (p.attempts - 1) := by
  rw [maxWait, Duration.ofNanoseconds?_eq_some, slept_eq_total]

theorem maxWait_eq_none :
    p.maxWait = none ↔ UInt64.size * 1000000000 ≤ p.total (p.attempts - 1) := by
  rw [maxWait, Duration.ofNanoseconds?_eq_none, slept_eq_total]

/-! ### The schedule -/

/-- The first sleep is the initial one, unless the cap is shorter. A later one is twice the one
before, or the cap, if that one came after one of the first 31 attempts, if nobody sleeps at all,
or if the cap is in reach. The cap is reached if it is in reach, and then for good. -/
theorem backoff_exact :
    (p.backoff 0).nanoseconds = min p.initial.nanoseconds p.cap.nanoseconds ∧
      (∀ n, (p.backoff (n + 1)).nanoseconds =
          min (2 * (p.backoff n).nanoseconds) p.cap.nanoseconds ↔
        n < 31 ∨ p.initial.nanoseconds = 0 ∨ p.CapInReach) ∧
      ((∃ n, p.backoff n = p.cap) ↔ p.CapInReach) ∧
      ∀ k n, k ≤ n → p.backoff k = p.cap → p.backoff n = p.cap := by
  refine ⟨?_, p.backoff_succ_iff, p.reaches_cap_iff, fun k n hle h => ?_⟩
  · rw [nanoseconds_backoff, factor_of_lt (by decide), Nat.pow_zero, Nat.mul_one]
  · rw [backoff_eq_cap_iff] at h ⊢
    exact h.trans (Nat.mul_le_mul_left _ (factor_mono hle))

/-- The usual sleeps double up to the cap of 200 milliseconds and stay there. -/
theorem backoff_of_standard :
    (standard.backoff 4).nanoseconds =
        min (2 * (standard.backoff 3).nanoseconds) standard.cap.nanoseconds ∧
      standard.backoff 1000 = standard.cap := by
  obtain ⟨-, hdoubles, -, hstays⟩ := backoff_exact standard
  exact ⟨(hdoubles 3).mpr (.inl (by decide)), hstays 6 1000 (by decide) (by decide)⟩

/-- With a first sleep of a nanosecond and a cap of ten seconds, the sleep after attempt 32 is a
nanosecond short of twice the one before, and the cap is never reached. -/
theorem backoff_of_distant_cap :
    let p : RetryPolicy := ⟨8, ⟨1, by decide⟩, ⟨10000000000, by decide⟩⟩
    (p.backoff 32).nanoseconds ≠ min (2 * (p.backoff 31).nanoseconds) p.cap.nanoseconds ∧
      ∀ n, p.backoff n ≠ p.cap := by
  intro p
  have hfar : ¬ p.CapInReach := by
    unfold CapInReach
    decide
  refine ⟨fun h => ?_, fun n h => hfar (p.reaches_cap_iff.mp ⟨n, h⟩)⟩
  rcases (p.backoff_succ_iff 31).mp h with h | h | h
  · exact absurd h (by decide)
  · exact absurd h (by decide)
  · exact hfar h

end RetryPolicy

end ScriptCache
