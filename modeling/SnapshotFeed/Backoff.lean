import SnapshotFeed.Duration

/-! The delay between two attempts.

It starts at `initial`, doubles with every attempt up to `longest`, and goes back to `initial`
on `reset`. Every delay handed out carries a jitter drawn below `initial`; the draw is an
argument, so a run is a function of its draws. A delay too long to be a duration is no delay,
and leaves the backoff as it was. -/
namespace SnapshotFeed

structure Backoff where
  initial : Duration
  longest : Duration
  /-- The delay of the next attempt, without jitter. -/
  current : Duration
  deriving DecidableEq, Repr

namespace Backoff

/-- A backoff that has made no attempt. -/
def new (initial longest : Duration) : Backoff := ⟨initial, longest, initial⟩

def reset (b : Backoff) : Backoff := {b with current := b.initial}

/-- The backoff after an attempt. -/
def grow (b : Backoff) : Backoff := {b with current := min b.current.double b.longest}

/-- A jitter that may be drawn: below `initial`, or nothing when that is nothing. -/
def Admits (b : Backoff) (jitter : Duration) : Prop :=
  jitter < b.initial ∨ b.initial = .zero ∧ jitter = .zero

instance (b : Backoff) (jitter : Duration) : Decidable (b.Admits jitter) :=
  inferInstanceAs (Decidable (_ ∨ _))

/-- The delay with the drawn jitter, and the backoff for the attempt after it. -/
def next? (b : Backoff) (jitter : Duration) : Option (Duration × Backoff) :=
  (b.current.add? jitter).map fun delay => (delay, b.grow)

/-- What is said of a delay that is no duration. -/
def overflowText : String := "overflow when adding durations"

/-- The draw in the middle of the admitted ones. -/
def middleDraw (b : Backoff) : Duration := b.initial.half

theorem admits_middleDraw (b : Backoff) : b.Admits b.middleDraw := by
  by_cases h : b.initial.nanos = 0
  · refine Or.inr ⟨Duration.ext h, Duration.ext ?_⟩
    show b.initial.nanos / 2 = 0
    omega
  · refine Or.inl ?_
    show b.initial.nanos / 2 < b.initial.nanos
    omega

end Backoff

end SnapshotFeed
