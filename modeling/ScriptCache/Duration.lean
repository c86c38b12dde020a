/-! Spans of time, exact to the nanosecond.

A span holds at most `2 ^ 64` seconds less one nanosecond, so products and sums are
partial; a number of milliseconds that fits 64 bits is always a span. -/
namespace ScriptCache

/-- A span of time. -/
structure Duration where
  nanoseconds : Nat
  bounded : nanoseconds < UInt64.size * 1000000000 := by decide
  deriving DecidableEq

namespace Duration

def zero : Duration where
  nanoseconds := 0

/-- A number of nanoseconds, where it is not too long. -/
def ofNanoseconds? (n : Nat) : Option Duration :=
  if h : n < UInt64.size * 1000000000 then some ⟨n, h⟩ else none

/-- Seconds and a fraction of one. -/
def ofParts? (seconds fraction : Nat) : Option Duration :=
  ofNanoseconds? (seconds * 1000000000 + fraction)

def ofMilliseconds (n : UInt64) : Duration where
  nanoseconds := n.toNat * 1000000
  bounded := by have := n.toNat_lt_size; simp only [UInt64.size] at *; omega

def seconds (d : Duration) : Nat := d.nanoseconds / 1000000000
def fraction (d : Duration) : Nat := d.nanoseconds % 1000000000

/-- The span `n` times over, where it is not too long. -/
def times? (d : Duration) (n : Nat) : Option Duration :=
  ofNanoseconds? (d.nanoseconds * n)

/-- The shorter of two spans. -/
def min (a b : Duration) : Duration :=
  if a.nanoseconds ≤ b.nanoseconds then a else b

@[simp] theorem nanoseconds_min (a b : Duration) :
    (min a b).nanoseconds = Nat.min a.nanoseconds b.nanoseconds := by
  unfold min
  simp only [Nat.min_def]
  split <;> rfl

theorem nanoseconds_times? {d e : Duration} {n : Nat} (h : d.times? n = some e) :
    e.nanoseconds = d.nanoseconds * n := by
  unfold times? ofNanoseconds? at h
  split at h
  · cases h; rfl
  · cases h

end Duration

end ScriptCache
