import SnapshotFeed.Proofs.Calls
import SnapshotFeed.Proofs.Reconnect.History
import SnapshotFeed.Reconnect.Scenario

/-! The loop among sessions and calls for shutdown that go their own way.

A session sends when it likes and waits while its queue is full; calls for shutdown take their steps
between those of the loop. Nobody orders them: `Goes` is any one step of anybody, and a run is any
number of them. The transport answers a call to close by letting go of the open session, without a
word, and by refusing every later one. -/
namespace SnapshotFeed.Reconnect

/-- What comes of a request for a session while the transport is open. -/
inductive Visit where
  | refused (cause : Error)
  /-- A session that sends these messages, and then lets go of its queue or keeps silent. -/
  | opened (messages : List Message) (exit : Exit)
  deriving DecidableEq, Repr

/-- A session that holds its end of the queue. -/
structure Sender where
  sending : List Message
  exit : Exit
  deriving DecidableEq, Repr

structure Setting where
  /-- What comes of the requests not yet made. -/
  coming : List Visit
  /-- The queue of the session at hand. -/
  queue : Queue.Session
  session : Option Sender
  switch : Switch
  calls : List Call
  deriving DecidableEq, Repr

namespace Setting

/-- Nothing has happened, and these calls for shutdown are going to be made. -/
def new (visits : List Visit) (calls : List Call) : Setting :=
  ⟨visits, Queue.Bounded.new 1, none, .new, calls⟩

/-- A session is asked for. Once no visit is left, the transport does not answer. A session before,
which the loop has left, has a queue of its own and is of no more interest. -/
inductive Opens (capacity : Nat) (w : Setting) : Opening → Setting → Prop where
  | closed (cause : Error) : 0 < w.switch.closed → Opens capacity w (.refused cause) w
  | refused {cause : Error} {coming : List Visit} :
    w.switch.closed = 0 → w.coming = .refused cause :: coming →
      Opens capacity w (.refused cause) {w with coming}
  | opened {messages : List Message} {exit : Exit} {coming : List Visit} {queue : Queue.Session} :
    w.switch.closed = 0 → w.coming = .opened messages exit :: coming →
      Queue.Session.new capacity = .ok queue →
        Opens capacity w .opened {w with coming, queue, session := some ⟨messages, exit⟩}

/-- What the loop may be told, and what is left then. Consumers accept or drop as they like. -/
def Answers : (s : State) → Setting → s.phase.Answer → Setting → Prop
  | ⟨.connecting, _, _⟩, w, isSet, v | ⟨.refused _, _, _⟩, w, isSet, v
  | ⟨.streaming, _, _⟩, w, isSet, v | ⟨.received _, _, _⟩, w, isSet, v
  | ⟨.settled, _, _⟩, w, isSet, v => isSet = w.switch.isSet ∧ v = w
  | ⟨.preparing, _, _⟩, w, _, v | ⟨.reporting .., _, _⟩, w, _, v => v = w
  | ⟨.opening, _, capacity⟩, w, opening, v => w.Opens capacity opening v
  | ⟨.receiving, _, _⟩, w, message, v =>
    ∃ queue, Queue.Session.next w.queue = (some message, queue) ∧ v = {w with queue}
  | ⟨.delivering _, _, _⟩, w, _, v | ⟨.notifying _, _, _⟩, w, _, v => v = w
  | ⟨.releasing _, _, _⟩, w, _, v => v = {w with queue := w.queue.dropReceiver}
  | ⟨.drawing, b, _⟩, w, jitter, v => b.Admits jitter ∧ v = w
  | ⟨.pausing _, _, _⟩, w, ending, v =>
    ∃ switch, w.switch.Ends ending switch ∧ v = {w with switch}
  | ⟨.ended, _, _⟩, _, _, _ | ⟨.crashed _, _, _⟩, _, _, _ => False

/-- A step of a session or of a call. -/
inductive Moves (w : Setting) : Setting → Prop where
  /-- There is room. A session may send until it is cut, also after the transport was closed. -/
  | sends {m : Message} {sending : List Message} {exit : Exit} {queue : Queue.Session} :
    w.session = some ⟨m :: sending, exit⟩ → Queue.Session.offer w.queue m = (some true, queue) →
      Moves w {w with queue, session := some ⟨sending, exit⟩}
  /-- The loop has left, and the session gives up. -/
  | isDeclined {m : Message} {sending : List Message} {exit : Exit} {queue : Queue.Session} :
    w.session = some ⟨m :: sending, exit⟩ → Queue.Session.offer w.queue m = (some false, queue) →
      Moves w {w with queue := queue.dropSender, session := none}
  | leaves : w.session = some ⟨[], .leaves⟩ →
    Moves w {w with queue := w.queue.dropSender, session := none}
  /-- A closed transport lets go of the session, whatever that had still to send. -/
  | isCut {sender : Sender} : w.session = some sender → 0 < w.switch.closed →
    Moves w {w with queue := w.queue.dropSender, session := none}
  | calls {calls : List Call} {switch : Switch} : Call.StepOf w.calls w.switch calls switch →
    Moves w {w with calls, switch}

/-! ### What a step leaves alone -/

section Frame
variable {s : State} {w v : Setting} {answer : s.phase.Answer}

/-- Turns leave the calls alone, and the switch unless it stops a pause. -/
theorem Answers.switch (h : Answers s w answer v) :
    v.calls = w.calls ∧ (v.switch = w.switch ∨ w.switch.pause = (.stopped, v.switch)) := by
  obtain ⟨phase, b, capacity⟩ := s
  cases phase with
  | connecting | refused cause | streaming | received message | settled | drawing =>
    obtain ⟨-, rfl⟩ := h
    exact ⟨rfl, .inl rfl⟩
  | opening => cases h <;> exact ⟨rfl, .inl rfl⟩
  | receiving =>
    obtain ⟨queue, -, rfl⟩ := h
    exact ⟨rfl, .inl rfl⟩
  | pausing delay =>
    obtain ⟨switch, hends, rfl⟩ := h
    exact ⟨rfl, hends.eq_or_pause⟩
  | ended | crashed cause => exact answer.elim
  | _ =>
    cases h
    exact ⟨rfl, .inl rfl⟩

/-- The loop neither sets nor unsets the switch. -/
theorem Answers.isSet (h : Answers s w answer v) : v.switch.isSet = w.switch.isSet := by
  rcases h.switch.2 with hsame | hpause
  · rw [hsame]
  · rw [← w.switch.isSet_pause, hpause]

theorem Answers.switch_new (h : Answers s w answer v) (hnew : w.switch = .new) :
    v.switch = .new := by
  rcases h.switch.2 with hsame | hpause
  · rw [hsame, hnew]
  · rw [hnew] at hpause
    cases hpause

theorem Moves.isSet (h : w.Moves v) (hset : w.switch.isSet = true) : v.switch.isSet = true := by
  cases h with
  | calls hstep => exact hstep.isSet hset
  | _ => exact hset

end Frame

end Setting

/-- One step: a turn of the loop, or a move of which it does not know. -/
inductive Goes : State × Setting → Option Turn → State × Setting → Prop where
  | turn {s : State} {w v : Setting} {answer : s.phase.Answer} :
    Setting.Answers s w answer v → Goes (s, w) (some ⟨s, answer⟩) (s.next answer, v)
  | move {s : State} {w v : Setting} : w.Moves v → Goes (s, w) none (s, v)

/-- The switch stays set. -/
theorem Goes.isSet {x y : State × Setting} {step : Option Turn} (h : Goes x step y)
    (hset : x.2.switch.isSet = true) : y.2.switch.isSet = true := by
  cases h with
  | turn hanswer => exact hanswer.isSet.trans hset
  | move hmoves => exact hmoves.isSet hset

/-- Nobody has a step left. -/
def Stuck (x : State × Setting) : Prop := ∀ step y, ¬Goes x step y

/-- The turns among some steps. -/
def turns (steps : List (Option Turn)) : List Turn := steps.filterMap id

end SnapshotFeed.Reconnect
