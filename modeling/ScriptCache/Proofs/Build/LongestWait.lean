import Mathlib
import ScriptCache.Build.Driver
import ScriptCache.Proofs.Lock.Backoff

/-! How long a driver waits for a lock at most.

A driver asks for locks as its settings say, and the settings say it in milliseconds. So the longest
wait is a number of milliseconds (`LockSettings.longestWait`), and there is such a span of time
unless this number takes more than `2 ^ 64` seconds (`longestWait_exact`). A thousand sleeps never
take so long, whatever the settings are; more than that may, since settings go together whenever the
first sleep is not longer than the cap (`accepted_without_longestWait`). -/
namespace ScriptCache

namespace LockSettings

variable (s : LockSettings)

/-- The milliseconds of the sleep after a failed attempt. -/
def sleep (n : Nat) : Nat :=
  min (s.initialBackoff.toNat * RetryPolicy.factor n) s.maxBackoff.toNat

/-- The milliseconds that are slept in all when no attempt succeeds. -/
def longestWait : Nat :=
  ((List.range (s.maxAttempts.toNat - 1)).map s.sleep).sum

theorem nanoseconds_backoff (n : Nat) :
    (s.policy.backoff n).nanoseconds = s.sleep n * 1000000 := by
  have hinitial : s.policy.initial.nanoseconds = s.initialBackoff.toNat * 1000000 := rfl
  have hcap : s.policy.cap.nanoseconds = s.maxBackoff.toNat * 1000000 := rfl
  rw [RetryPolicy.nanoseconds_backoff, hinitial, hcap, Nat.mul_right_comm, sleep]
  exact Nat.mul_min_mul_right _ _ _

theorem total_eq (n : Nat) :
    s.policy.total n = ((List.range n).map s.sleep).sum * 1000000 := by
  induction n with
  | zero => exact (Nat.zero_mul _).symm
  | succ n ih =>
    rw [RetryPolicy.total, ih, nanoseconds_backoff, List.range_succ, List.map_append,
      List.sum_append, ← Nat.add_mul]
    rfl

theorem total_attempts :
    s.policy.total (s.policy.attempts - 1) = s.longestWait * 1000000 := by
  have hattempts : s.policy.attempts - 1 = s.maxAttempts.toNat - 1 := by
    show max s.maxAttempts.toNat 1 - 1 = s.maxAttempts.toNat - 1
    omega
  rw [hattempts, total_eq, longestWait]

theorem maxWait_eq_none : s.policy.maxWait = none ↔ 2 ^ 64 * 1000 ≤ s.longestWait := by
  rw [RetryPolicy.maxWait_eq_none, total_attempts, UInt64.size]
  omega

/-- So many sleeps, each as long as the cap. -/
theorem longestWait_le : s.longestWait ≤ (s.maxAttempts.toNat - 1) * s.maxBackoff.toNat := by
  have hsleep : ∀ span ∈ (List.range (s.maxAttempts.toNat - 1)).map s.sleep,
      span ≤ s.maxBackoff.toNat := by
    intro span hspan
    obtain ⟨n, -, rfl⟩ := List.mem_map.mp hspan
    exact Nat.min_le_right _ _
  have hsum := List.sum_le_card_nsmul _ _ hsleep
  rwa [List.length_map, List.length_range, smul_eq_mul] at hsum

end LockSettings

namespace Driver

variable {σ : Type} {settings : Settings} {compiler : σ} {d : Driver σ}

/-- A driver asks for locks as its settings say. -/
theorem policy_of_ok (h : Driver.of settings compiler = .ok d) :
    d.store.policy = settings.lock.policy := by
  obtain ⟨-, hmade⟩ := of_eq_ok.mp h
  rw [hmade]

/-- The longest wait of a driver is a span unless it takes `2 ^ 64` seconds, and then it is the sum
of the sleeps. With at most a thousand sleeps it is a span, and wherever so many sleeps as long as
the cap are one. -/
theorem longestWait_exact (h : Driver.of settings compiler = .ok d) :
    (d.store.policy.maxWait = none ↔ 2 ^ 64 * 1000 ≤ settings.lock.longestWait) ∧
      (∀ longest, d.store.policy.maxWait = some longest →
        longest.nanoseconds = settings.lock.longestWait * 1000000) ∧
      (settings.lock.maxAttempts ≤ 1001 → d.store.policy.maxWait ≠ none) ∧
      ((settings.lock.maxAttempts.toNat - 1) * settings.lock.maxBackoff.toNat < 2 ^ 64 * 1000 →
        d.store.policy.maxWait ≠ none) := by
  rw [policy_of_ok h]
  have hbound := settings.lock.longestWait_le
  have hfits : (settings.lock.maxAttempts.toNat - 1) * settings.lock.maxBackoff.toNat <
      2 ^ 64 * 1000 → settings.lock.policy.maxWait ≠ none := fun hshort hnone =>
    absurd (settings.lock.maxWait_eq_none.mp hnone) (Nat.not_le_of_lt (hbound.trans_lt hshort))
  refine ⟨settings.lock.maxWait_eq_none, fun longest hlongest => ?_, fun hfew => hfits ?_, hfits⟩
  · rw [(RetryPolicy.maxWait_eq_some _).mp hlongest, LockSettings.total_attempts]
  · have hsleeps : settings.lock.maxAttempts.toNat - 1 ≤ 1000 :=
      Nat.sub_le_sub_right (UInt32.le_iff_toNat_le.mp hfew) 1
    have hcap : settings.lock.maxBackoff.toNat < 2 ^ 64 := settings.lock.maxBackoff.toNat_lt
    calc (settings.lock.maxAttempts.toNat - 1) * settings.lock.maxBackoff.toNat
        ≤ 1000 * settings.lock.maxBackoff.toNat := Nat.mul_le_mul_right _ hsleeps
      _ < 2 ^ 64 * 1000 := by omega

/-- As many attempts as there can be, with the usual sleeps. -/
theorem longestWait_of_most_attempts :
    let settings : Settings := { lock := ⟨4294967295, 5, 200⟩ }
    ∃ d, Driver.of settings () = .ok d ∧ d.store.policy.maxWait ≠ none := by
  intro settings
  have hmade : Driver.of settings () = .ok _ := rfl
  obtain ⟨-, -, -, hfits⟩ := longestWait_exact hmade
  exact ⟨_, hmade, hfits (by decide)⟩

/-- Settings that go together, with 2001 sleeps of `2 ^ 63 - 1` milliseconds: no span is so long. -/
theorem accepted_without_longestWait :
    let settings : Settings :=
      { lock := ⟨2002, 9223372036854775807, 9223372036854775807⟩ }
    ∃ d, Driver.of settings () = .ok d ∧ d.store.policy.maxWait = none := by
  intro settings
  have hmade : Driver.of settings () = .ok _ := rfl
  refine ⟨_, hmade, ?_⟩
  rw [policy_of_ok hmade]
  decide

end Driver

end ScriptCache
