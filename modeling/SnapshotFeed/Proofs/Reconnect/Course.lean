import SnapshotFeed.Config
import SnapshotFeed.Proofs.Reconnect.History
import SnapshotFeed.Proofs.Terminal
import SnapshotFeed.Queue.Delivery

/-! A course of sessions.

The loop is given sessions, one after another, and whatever they send. The switch is set in the
pause after the last one and not before. All else around the loop is its host, of which nothing is
known: consumers take when they like and as much as they like, the log does what it likes, and
chance draws any jitter that may be drawn. -/
namespace SnapshotFeed.Reconnect

/-- What comes of a request for a session. -/
inductive Outcome where
  | refused (cause : Error)
  /-- A session that sends these messages and leaves. -/
  | plays (messages : List Message)
  deriving DecidableEq, Repr

/-- What surrounds the loop, but for its sessions and the switch. -/
structure Host (World : Type) where
  /-- What goes on while the loop takes a turn. -/
  pass : State → World → World
  /-- Whether an offer is not dropped. -/
  accepts : Payload → World → Bool
  draw : (b : Backoff) → World → {jitter : Duration // b.Admits jitter}

structure Course (World : Type) where
  /-- The sessions not yet asked for. -/
  coming : List Outcome
  /-- What the session at hand has still to send. -/
  sending : List Message
  isSet : Bool
  host : World

namespace Course
variable {World : Type}

/-- A course of which nothing has happened. -/
def new (sessions : List Outcome) (host : World) : Course World := ⟨sessions, [], false, host⟩

/-- The loop of a configuration before a course. -/
def start (c : Config) (sessions : List Outcome) (host : World) : State × Course World :=
  (.start c.initialBackoff c.maxBackoff c.receiveQueueCapacity, .new sessions host)

/-- Where a course leaves the loop: with no session to come, it waits for one. -/
def leaves (sessions : List Outcome) : Phase := if sessions.isEmpty then .opening else .ended

/-- A session is asked for. -/
def openSession (w : Course World) : Option (Opening × Course World) :=
  match w.coming with
  | [] => none
  | .refused cause :: coming => some (.refused cause, {w with coming})
  | .plays sending :: coming => some (.opened, {w with coming, sending})

/-- The next message, or none after the last. -/
def receive (w : Course World) : Option Message × Course World :=
  match w.sending with
  | [] => (none, w)
  | m :: sending => (some m, {w with sending})

/-- Pauses pass, and the last one sets the switch, however it ends. -/
def pause (last : PauseEnd) (w : Course World) : PauseEnd × Course World :=
  match w.coming with
  | [] => (last, {w with isSet := true})
  | _ => (.elapsed, w)

end Course

namespace Host
variable {World : Type} (H : Host World) (last : PauseEnd)

def answer : (s : State) → Course World → Option (s.phase.Answer × Course World)
  | ⟨.connecting, _, _⟩, w | ⟨.refused _, _, _⟩, w | ⟨.streaming, _, _⟩, w
  | ⟨.received _, _, _⟩, w | ⟨.settled, _, _⟩, w => some (w.isSet, w)
  | ⟨.preparing, _, _⟩, w | ⟨.reporting .., _, _⟩, w | ⟨.releasing _, _, _⟩, w => some ((), w)
  | ⟨.opening, _, _⟩, w => w.openSession
  | ⟨.receiving, _, _⟩, w => some w.receive
  | ⟨.delivering payload, _, _⟩, w | ⟨.notifying payload, _, _⟩, w =>
    some (H.accepts payload w.host, w)
  | ⟨.drawing, backoff, _⟩, w => some ((H.draw backoff w.host).1, w)
  | ⟨.pausing _, _, _⟩, w => some (w.pause last)
  | ⟨.ended, _, _⟩, _ | ⟨.crashed _, _, _⟩, _ => none

/-- A course answers the loop, and the host goes its way. -/
def surroundings : Surroundings (Course World) where
  answer s w :=
    (H.answer last s w).map fun (answer, w) => (answer, {w with host := H.pass s w.host})

theorem step_of_isFinal {s : State} (hfinal : s.phase.isFinal = true) (w : Course World) :
    (H.surroundings last).step (s, w) = none := by
  obtain ⟨phase, b, capacity⟩ := s
  cases phase with
  | ended | crashed cause => rfl
  | _ => cases hfinal

/-- A host whose consumers leave everything in the queue. -/
def idle : Host Queue.Delivery where
  pass s q :=
    match s.phase.offer? with
    | some payload => (Queue.Delivery.offer q payload).2
    | none => q
  accepts payload q := (Queue.Delivery.offer q payload).1
  draw b _ := ⟨b.middleDraw, b.admits_middleDraw⟩

end Host

end SnapshotFeed.Reconnect
