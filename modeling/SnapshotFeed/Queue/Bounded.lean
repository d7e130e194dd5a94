/-! A bounded queue with handles at both ends.

Items leave in the order they came. The queue holds at most `capacity` of them: what comes while
it is full is not stored. It is drained before its receivers learn that every sender is gone;
once every receiver is gone, what it held is gone too and nothing is stored any more. Nothing
here waits: an answer says when a caller would have to. -/
namespace SnapshotFeed.Queue

structure Bounded (α : Type) where
  capacity : Nat
  /-- First to leave first. -/
  items : List α
  senders : Nat
  receivers : Nat
  deriving DecidableEq, Repr

/-- What became of an item. -/
inductive Sent where
  | stored
  | full
  /-- There is no receiver. -/
  | closed
  deriving DecidableEq, Repr

/-- What a receiver finds. -/
inductive Received (α : Type) where
  | item (a : α)
  /-- Nothing yet. -/
  | empty
  /-- Nothing, and no sender. -/
  | closed
  deriving DecidableEq, Repr

namespace Bounded
variable {α : Type}

/-- An empty queue with one handle at each end. -/
def new (capacity : Nat) : Bounded α := ⟨capacity, [], 1, 1⟩

def send (q : Bounded α) (a : α) : Sent × Bounded α :=
  if q.receivers = 0 then (.closed, q)
  else if q.items.length < q.capacity then (.stored, {q with items := q.items ++ [a]})
  else (.full, q)

def receive (q : Bounded α) : Received α × Bounded α :=
  match q.items with
  | a :: rest => (.item a, {q with items := rest})
  | [] => (if q.senders = 0 then .closed else .empty, q)

/-- A handle is cloned from one that is there. -/
def cloneSender (q : Bounded α) : Bounded α :=
  {q with senders := if q.senders = 0 then 0 else q.senders + 1}

def dropSender (q : Bounded α) : Bounded α := {q with senders := q.senders - 1}

def cloneReceiver (q : Bounded α) : Bounded α :=
  {q with receivers := if q.receivers = 0 then 0 else q.receivers + 1}

/-- The last receiver takes the items with it. -/
def dropReceiver (q : Bounded α) : Bounded α :=
  {q with receivers := q.receivers - 1, items := if q.receivers ≤ 1 then [] else q.items}

/-! ### What an answer says -/

section Answers
variable {q r : Bounded α} {a : α}

theorem send_eq_stored_iff : q.send a = (.stored, r) ↔
    q.receivers ≠ 0 ∧ q.items.length < q.capacity ∧ r = {q with items := q.items ++ [a]} := by
  unfold send
  by_cases hreceivers : q.receivers = 0
  · simp [hreceivers]
  · by_cases hroom : q.items.length < q.capacity <;> simp [hreceivers, hroom, eq_comm]

theorem send_eq_full_iff : q.send a = (.full, r) ↔
    q.receivers ≠ 0 ∧ q.capacity ≤ q.items.length ∧ r = q := by
  unfold send
  by_cases hreceivers : q.receivers = 0
  · simp [hreceivers]
  · by_cases hroom : q.items.length < q.capacity
    · simp [hreceivers, hroom, Nat.not_le.mpr hroom]
    · simp [hreceivers, hroom, Nat.not_lt.mp hroom, eq_comm]

theorem send_eq_closed_iff : q.send a = (.closed, r) ↔ q.receivers = 0 ∧ r = q := by
  unfold send
  by_cases hreceivers : q.receivers = 0
  · simp [hreceivers, eq_comm]
  · by_cases hroom : q.items.length < q.capacity <;> simp [hreceivers, hroom]

theorem receive_eq_item_iff : q.receive = (.item a, r) ↔
    ∃ rest, q.items = a :: rest ∧ r = {q with items := rest} := by
  unfold receive
  cases hitems : q.items with
  | cons b rest => simp [eq_comm, and_assoc]
  | nil => by_cases hsenders : q.senders = 0 <;> simp [hsenders]

theorem receive_eq_empty_iff : q.receive = (.empty, r) ↔
    q.items = [] ∧ q.senders ≠ 0 ∧ r = q := by
  unfold receive
  cases hitems : q.items with
  | cons b rest => simp
  | nil => by_cases hsenders : q.senders = 0 <;> simp [hsenders, eq_comm]

theorem receive_eq_closed_iff : q.receive = (.closed, r) ↔
    q.items = [] ∧ q.senders = 0 ∧ r = q := by
  unfold receive
  cases hitems : q.items with
  | cons b rest => simp
  | nil => by_cases hsenders : q.senders = 0 <;> simp [hsenders, eq_comm]

end Answers

end Bounded

end SnapshotFeed.Queue
