import SnapshotFeed.Error
import SnapshotFeed.Payload
import SnapshotFeed.Queue.Bounded

/-! The queue between the worker and its consumers.

The worker never waits: a payload that finds the queue full is dropped, and one that finds no
consumer is missed by nobody. Every payload goes to one consumer. -/
namespace SnapshotFeed.Queue

abbrev Delivery := Bounded Payload

/-- Why there is no room for some number of payloads. -/
inductive RoomFault where
  /-- So many places cannot be numbered. -/
  | tooMany
  /-- So many places cannot be in memory. -/
  | tooLarge
  deriving DecidableEq, Repr

def RoomFault.message : RoomFault → String
  | tooMany => "bounded channel capacity is too large"
  | tooLarge => "capacity overflow"

namespace Delivery

/-- What a payload takes in memory, in bytes. -/
def placeSize : Nat := 40

/-- The most bytes one thing in memory may have, a word less than `2^63`. -/
def largestSize : Nat := 0x7FFFFFFFFFFFFFF8

/-- The most payloads a queue may be asked to hold, one short of `2^62`. -/
def largestCount : Nat := 0x3FFFFFFFFFFFFFFF

/-- A queue with room for so many payloads, which is set aside at once. -/
def new (capacity : Nat) : Except RoomFault Delivery :=
  if largestCount < capacity then .error .tooMany
  else if largestSize < placeSize * capacity then .error .tooLarge
  else .ok (Bounded.new capacity)

/-- Whether the payload was not dropped for want of room. -/
def offer (q : Delivery) (p : Payload) : Bool × Delivery :=
  match q.send p with
  | (.full, q) => (false, q)
  | (_, q) => (true, q)

/-- The next payload; none when a consumer has to wait for it. The stream is closed when no
producer is left and every payload was taken. -/
def take (q : Delivery) : Option (Except Error Payload) × Delivery :=
  match q.receive with
  | (.item p, q) => (some (.ok p), q)
  | (.empty, q) => (none, q)
  | (.closed, q) => (some (.error .streamClosed), q)

/-- The next payload, if there is one now. -/
def tryTake (q : Delivery) : Option Payload × Delivery :=
  match q.receive with
  | (.item p, q) => (some p, q)
  | (_, q) => (none, q)

/-- The next payload, or none if none comes in time. -/
def takeTimeout (q : Delivery) : Except Error (Option Payload) × Delivery :=
  match q.receive with
  | (.item p, q) => (.ok (some p), q)
  | (.empty, q) => (.ok none, q)
  | (.closed, q) => (.error .streamClosed, q)

/-- Every payload there is; none when there is none and a consumer has to wait for the first. -/
def drain (q : Delivery) : Option (List Payload) × Delivery :=
  if q.items = [] ∧ 0 < q.senders then (none, q) else (some q.items, {q with items := []})

end Delivery

end SnapshotFeed.Queue
