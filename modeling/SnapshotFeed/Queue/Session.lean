import SnapshotFeed.Message
import SnapshotFeed.Queue.Bounded

/-! The queue between a session and the worker.

A session waits while the queue is full, and learns that the worker has left by an answer of
false. The worker waits while the queue is empty, and learns that the session has left once it
has read everything. -/
namespace SnapshotFeed.Queue

abbrev Session := Bounded Message

/-- Why there is no queue of some capacity. -/
inductive CapacityFault where
  | zero
  | tooLarge
  deriving DecidableEq, Repr

/-- The most messages a queue may be asked to hold, one short of `2^61`. -/
def largestCapacity : Nat := 0x1FFFFFFFFFFFFFFF

def CapacityFault.message : CapacityFault → String
  | zero => "mpsc bounded channel requires buffer > 0"
  | tooLarge => "a semaphore may not have more than MAX_PERMITS permits (" ++
      toString largestCapacity ++ ")"

namespace Session

/-- A queue for one session. -/
def new (capacity : Nat) : Except CapacityFault Session :=
  if capacity = 0 then .error .zero
  else if largestCapacity < capacity then .error .tooLarge
  else .ok (Bounded.new capacity)

/-- Whether the worker is still there; none when the session has to wait for room. -/
def offer (q : Session) (m : Message) : Option Bool × Session :=
  match q.send m with
  | (.stored, q) => (some true, q)
  | (.full, q) => (none, q)
  | (.closed, q) => (some false, q)

def isClosed (q : Session) : Bool := q.receivers == 0

/-- The next message, or none after the last; no answer when the worker has to wait. -/
def next (q : Session) : Option (Option Message) × Session :=
  match q.receive with
  | (.item m, q) => (some (some m), q)
  | (.empty, q) => (none, q)
  | (.closed, q) => (some none, q)

end Session

end SnapshotFeed.Queue
