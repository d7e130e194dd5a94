/-! The switch that stops the worker.

Only the caller that finds the switch unset sets it; that one then releases the transport and
leaves one message for the pause the worker may be in. The steps of a call are kept apart, so
that calls can be interleaved: `trySet`, `release`, `wake`. A pause ends early when the message is
there, which it takes, or when no owner is left to stop the worker. -/
namespace SnapshotFeed

/-- How a pause ended. -/
inductive PauseEnd where
  | elapsed
  | stopped
  deriving DecidableEq, Repr

structure Switch where
  isSet : Bool
  /-- How often the transport was told to close. -/
  closed : Nat
  /-- Messages waiting for a pause. -/
  pending : Nat
  hasOwner : Bool
  deriving DecidableEq, Repr

namespace Switch

def new : Switch := ⟨false, 0, 0, true⟩

/-- Sets the switch. True for the call that finds it unset. -/
def trySet (s : Switch) : Bool × Switch :=
  if s.isSet then (false, s) else (true, {s with isSet := true})

/-- Closes the transport. -/
def release (s : Switch) : Switch := {s with closed := s.closed + 1}

/-- Leaves a message, unless one is there. -/
def wake (s : Switch) : Switch := if s.pending = 0 then {s with pending := 1} else s

/-- A call from its start to its end: whether it released the transport. -/
def request (s : Switch) : Bool × Switch :=
  match s.trySet with
  | (true, s) => (true, s.release.wake)
  | (false, s) => (false, s)

/-- Several calls, and how many of them released the transport. -/
def requestTimes : Nat → Switch → Nat × Switch
  | 0, s => (0, s)
  | n + 1, s =>
    let (first, s) := s.request
    let (others, s) := requestTimes n s
    ((if first then 1 else 0) + others, s)

/-- The owner goes away. -/
def disown (s : Switch) : Switch := {s with hasOwner := false}

/-- A pause whose time passes unless something ends it. -/
def pause (s : Switch) : PauseEnd × Switch :=
  if 0 < s.pending then (.stopped, {s with pending := s.pending - 1})
  else if s.hasOwner then (.elapsed, s)
  else (.stopped, s)

end Switch

end SnapshotFeed
