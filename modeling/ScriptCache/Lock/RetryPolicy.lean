import ScriptCache.Duration

/-! How often and how patiently a lock is asked for.

After a failed attempt comes a sleep, the first of them `initial` long and each twice
the one before, up to `cap`. No sleep follows the last attempt. -/
namespace ScriptCache

structure RetryPolicy where
  maxAttempts : UInt32
  /-- The sleep after the first failed attempt. -/
  initial : Duration
  /-- The longest sleep. -/
  cap : Duration
  deriving DecidableEq

namespace RetryPolicy

/-- Eight attempts, five milliseconds at first and 200 at most. -/
def standard : RetryPolicy :=
  ⟨8, .ofMilliseconds 5, .ofMilliseconds 200⟩

/-- A single attempt. -/
def once : RetryPolicy :=
  ⟨1, .zero, .zero⟩

/-- What the first sleep is multiplied by after attempt `n`, in 32 bits. -/
def factor (n : Nat) : Nat :=
  if n < 32 then 1 <<< n else UInt32.size - 1

/-- The sleep after failed attempt `n`, the first one being attempt zero. -/
def backoff (p : RetryPolicy) (n : Nat) : Duration :=
  ((p.initial.times? (factor n)).getD p.cap).min p.cap

/-- How many attempts are made: at least one. -/
def attempts (p : RetryPolicy) : Nat :=
  Nat.max p.maxAttempts.toNat 1

/-- The nanoseconds of the first `n` sleeps, added one by one. -/
def total (p : RetryPolicy) : Nat → Nat
  | 0 => 0
  | n + 1 => p.total n + (p.backoff n).nanoseconds

/-- The nanoseconds slept in all after the first `n` failed attempts. From attempt 32 on
every sleep is the same. -/
def slept (p : RetryPolicy) (n : Nat) : Nat :=
  p.total (Nat.min n 32) + (n - 32) * (p.backoff 32).nanoseconds

/-- The longest time slept in all; nothing when that is no span. -/
def maxWait (p : RetryPolicy) : Option Duration :=
  Duration.ofNanoseconds? (p.slept (p.attempts - 1))

theorem backoff_of_le {n : Nat} (p : RetryPolicy) (late : 32 ≤ n) : p.backoff n = p.backoff 32 := by
  simp [backoff, factor, Nat.not_lt.mpr late]

/-- Where every sleep after attempt `k` is the same, the total grows by it each time. -/
theorem total_of_constant (p : RetryPolicy) {k : Nat}
    (constant : ∀ n, k ≤ n → p.backoff n = p.backoff k) (n : Nat) :
    p.total (k + n) = p.total k + n * (p.backoff k).nanoseconds := by
  induction n with
  | zero => simp
  | succ n ih =>
    rw [← Nat.add_assoc, total, ih, constant _ (Nat.le_add_right k n), Nat.succ_mul, Nat.add_assoc]

/-- What is slept in all is the sum of the sleeps. -/
theorem slept_eq_total (p : RetryPolicy) (n : Nat) : p.slept n = p.total n := by
  unfold slept
  by_cases h : n ≤ 32
  · have first : Nat.min n 32 = n := Nat.min_eq_left h
    rw [first, Nat.sub_eq_zero_of_le h, Nat.zero_mul, Nat.add_zero]
  · have late : 32 ≤ n := Nat.le_of_not_le h
    have first : Nat.min n 32 = 32 := Nat.min_eq_right late
    rw [first, ← total_of_constant p fun _ => p.backoff_of_le, Nat.add_sub_cancel' late]

end RetryPolicy

end ScriptCache
