/-! Lengths of time.

A duration is a whole number of nanoseconds, at most one short of `2^64` seconds. Adding can
leave that range and then has no answer; doubling stops at the longest duration. -/
namespace SnapshotFeed

/-- Nanoseconds in a second. -/
def nanosPerSecond : Nat := 1000000000

/-- The nanoseconds of the longest duration. -/
def longestNanos : Nat := 0x10000000000000000 * nanosPerSecond - 1

/-- A length of time in nanoseconds. -/
structure Duration where
  nanos : Nat
  nanos_le : nanos ≤ longestNanos
  deriving DecidableEq, Repr

namespace Duration

@[ext]
theorem ext {a b : Duration} (h : a.nanos = b.nanos) : a = b := by
  cases a
  cases b
  cases h
  rfl

def zero : Duration := ⟨0, Nat.zero_le _⟩

def longest : Duration := ⟨longestNanos, Nat.le_refl _⟩

/-- The duration of that many nanoseconds, if there is one. -/
def ofNanos? (n : Nat) : Option Duration :=
  if h : n ≤ longestNanos then some ⟨n, h⟩ else none

/-- The duration of that many nanoseconds, or the longest one. -/
def clamp (n : Nat) : Duration := ⟨min n longestNanos, Nat.min_le_right _ _⟩

/-- Whole seconds and the nanoseconds beyond them. -/
def ofParts (seconds nanos : Nat) : Duration := clamp (seconds * nanosPerSecond + nanos)

def ofSeconds (seconds : Nat) : Duration := ofParts seconds 0

def seconds (d : Duration) : Nat := d.nanos / nanosPerSecond

def subsecondNanos (d : Duration) : Nat := d.nanos % nanosPerSecond

/-- Whole milliseconds, as a 64-bit word. -/
def millis (d : Duration) : UInt64 := UInt64.ofNat (d.nanos / 1000000)

instance : LE Duration := ⟨fun a b => a.nanos ≤ b.nanos⟩
instance : LT Duration := ⟨fun a b => a.nanos < b.nanos⟩
instance (a b : Duration) : Decidable (a ≤ b) := inferInstanceAs (Decidable (a.nanos ≤ b.nanos))
instance (a b : Duration) : Decidable (a < b) := inferInstanceAs (Decidable (a.nanos < b.nanos))
instance : Min Duration := ⟨fun a b => if a ≤ b then a else b⟩

/-- The sum, if it is a duration. -/
def add? (a b : Duration) : Option Duration := ofNanos? (a.nanos + b.nanos)

/-- Twice as long, or the longest duration. -/
def double (d : Duration) : Duration := clamp (2 * d.nanos)

/-- Half as long, rounded down. -/
def half (d : Duration) : Duration :=
  ⟨d.nanos / 2, Nat.le_trans (Nat.div_le_self _ _) d.nanos_le⟩

/-! ### In nanoseconds -/

theorem ofNanos?_eq_some {n : Nat} {d : Duration} : ofNanos? n = some d ↔ d.nanos = n := by
  unfold ofNanos?
  split
  · simp only [Option.some.injEq]
    exact ⟨fun h => h ▸ rfl, fun h => ext h.symm⟩
  · rename_i hn
    simp only [reduceCtorEq, false_iff]
    intro h
    exact hn (h ▸ d.nanos_le)

theorem add?_eq_some {a b d : Duration} : a.add? b = some d ↔ d.nanos = a.nanos + b.nanos :=
  ofNanos?_eq_some

theorem ofNanos?_eq_none {n : Nat} : ofNanos? n = none ↔ longestNanos < n := by
  unfold ofNanos?
  split <;> simp <;> omega

theorem add?_eq_none {a b : Duration} : a.add? b = none ↔ longestNanos < a.nanos + b.nanos :=
  ofNanos?_eq_none

theorem double_nanos (d : Duration) : d.double.nanos = min (2 * d.nanos) longestNanos := rfl

theorem min_nanos (a b : Duration) : (min a b).nanos = min a.nanos b.nanos := by
  show (if a ≤ b then a else b).nanos = _
  split
  · exact (Nat.min_eq_left ‹_›).symm
  · rename_i h
    have : ¬a.nanos ≤ b.nanos := h
    omega

end Duration

end SnapshotFeed
