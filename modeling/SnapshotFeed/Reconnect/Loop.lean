import SnapshotFeed.Backoff
import SnapshotFeed.Payload
import SnapshotFeed.Queue.Session
import SnapshotFeed.Reconnect.Notice
import SnapshotFeed.Shutdown

/-! The reconnect loop.

The loop opens a session, hands what it sends to consumers, and when the session ends, in any
way, pauses and opens the next, until the switch is set. Here it is a machine: a `Phase` is the
one thing the loop asks of its surroundings next, and `next` says what an answer makes of it.
Nothing happens between two phases, so the switch can be set at any point by what answers: while
a session opens, while a message is awaited, in the host's log.

`Surroundings` answer phase by phase and carry a state of their own; an answer may be missing,
and then the loop waits. `run` follows the two together. -/
namespace SnapshotFeed.Reconnect

/-- What became of a request for a session. -/
inductive Opening where
  | opened
  | refused (cause : Error)
  /-- The transport itself broke, and the worker with it. -/
  | broke (reason : String)
  deriving DecidableEq, Repr

/-- What breaks the worker. -/
inductive Crash where
  /-- The next delay is no duration. -/
  | delay
  /-- The next session can have no queue. -/
  | queue (fault : Queue.CapacityFault)
  | transport (reason : String)
  deriving DecidableEq, Repr

def Crash.message : Crash → String
  | delay => Backoff.overflowText
  | queue fault => fault.message
  | transport reason => reason

/-- What the loop does next. -/
inductive Phase where
  /-- Looks at the switch before it opens a session. -/
  | connecting
  /-- Makes the queue of the next session. -/
  | preparing
  /-- Tells the log, and goes on. -/
  | reporting (notice : Notice) (after : Phase)
  | opening
  /-- Looks at the switch after a refusal. -/
  | refused (cause : Error)
  /-- Looks at the switch before it receives. -/
  | streaming
  | receiving
  /-- Looks at the switch with a message in hand, or with none when the session has left. -/
  | received (message : Option Message)
  | delivering (payload : Payload)
  /-- Offers the notice of a failure. -/
  | notifying (payload : Payload)
  /-- Leaves the session, and goes on. -/
  | releasing (after : Phase)
  /-- Looks at the switch after a session. -/
  | settled
  /-- Draws the jitter of the next pause. -/
  | drawing
  | pausing (delay : Duration)
  | ended
  | crashed (cause : Crash)
  deriving DecidableEq, Repr

namespace Phase

/-- What a phase asks for. Looking at the switch answers whether it is set, an offer whether the
payload was not dropped. -/
abbrev Answer : Phase → Type
  | connecting | refused _ | streaming | received _ | settled => Bool
  | preparing | reporting .. | releasing _ => Unit
  | opening => Opening
  | receiving => Option Message
  | delivering _ | notifying _ => Bool
  | drawing => Duration
  | pausing _ => PauseEnd
  | ended | crashed _ => Empty

def isFinal : Phase → Bool
  | ended | crashed _ => true
  | _ => false

/-- The way out. -/
def leaving : Phase := reporting .leaving ended

/-- The way out of a session. -/
def abandoning : Phase := releasing leaving

/-- A failed session, before its notice is offered. -/
def failing : Phase := notifying .retryNotice

/-- The end of a session. -/
def settling : Phase := releasing settled

end Phase

/-- The loop between two answers. -/
structure State where
  phase : Phase
  backoff : Backoff
  /-- The capacity of each session's queue. -/
  capacity : Nat
  deriving DecidableEq, Repr

namespace State

/-- A loop that has done nothing. -/
def start (initial longest : Duration) (capacity : Nat) : State :=
  ⟨.connecting, .new initial longest, capacity⟩

def go (s : State) (phase : Phase) : State := {s with phase}

/-- The session is healthy: the next failure waits for the first delay. -/
def healthy (s : State) (phase : Phase) : State := {s with phase, backoff := s.backoff.reset}

/-- A message seen while the switch was not set. -/
def handle (s : State) (m : Message) : State :=
  match m with
  | .error cause => s.go (.reporting (.streamFailed cause s.backoff.current) .failing)
  | _ =>
    match m.classify with
    | .complete => s.go (.reporting .completed .settling)
    | .deliver payload => s.go (.delivering payload)
    | .ignore state => s.healthy (.reporting (.ignored state) .streaming)

/-- The pause after a draw; a delay that is no duration breaks the worker. -/
def pauseAfter (s : State) (jitter : Duration) : State :=
  match s.backoff.next? jitter with
  | none => s.go (.crashed .delay)
  | some (delay, backoff) => {s with phase := .reporting (.waiting delay) (.pausing delay), backoff}

/-- The queue of the next session, if it can have that capacity. -/
def prepare (s : State) : State :=
  match Queue.Session.new s.capacity with
  | .error fault => s.go (.crashed (.queue fault))
  | .ok _ => s.go (.reporting .opening .opening)

/-- What an answer makes of the loop. -/
def next : (s : State) → s.phase.Answer → State
  | s@⟨.connecting, _, _⟩, isSet => s.go (bif isSet then .leaving else .preparing)
  | s@⟨.preparing, _, _⟩, _ => s.prepare
  | s@⟨.reporting _ after, _, _⟩, _ => s.go after
  | s@⟨.opening, _, _⟩, .opened => s.go .streaming
  | s@⟨.opening, _, _⟩, .refused cause => s.go (.refused cause)
  | s@⟨.opening, _, _⟩, .broke reason => s.go (.crashed (.transport reason))
  | s@⟨.refused cause, _, _⟩, isSet =>
    s.go (bif isSet then .abandoning else .reporting (.openFailed cause) .failing)
  | s@⟨.streaming, _, _⟩, isSet => s.go (bif isSet then .abandoning else .receiving)
  | s@⟨.receiving, _, _⟩, message => s.go (.received message)
  | s@⟨.received (some m), _, _⟩, isSet => bif isSet then s.go .abandoning else s.handle m
  | s@⟨.received none, _, _⟩, isSet =>
    bif isSet then s.go (.reporting .interrupted .abandoning) else s.handle (.error .disconnected)
  | s@⟨.delivering _, _, _⟩, accepted =>
    s.healthy (bif accepted then .streaming else .reporting .snapshotDropped .streaming)
  | s@⟨.notifying _, _, _⟩, accepted =>
    s.go (bif accepted then .settling else .reporting .failureDropped .settling)
  | s@⟨.releasing after, _, _⟩, _ => s.go after
  | s@⟨.settled, _, _⟩, isSet => s.go (bif isSet then .leaving else .drawing)
  | s@⟨.drawing, _, _⟩, jitter => s.pauseAfter jitter
  | s@⟨.pausing _, _, _⟩, .elapsed => s.go .connecting
  | s@⟨.pausing _, _, _⟩, .stopped => s.go .leaving

end State

/-- What answers the loop. Without an answer the loop waits. -/
structure Surroundings (World : Type) where
  answer : (s : State) → World → Option (s.phase.Answer × World)

namespace Surroundings
variable {World : Type} (E : Surroundings World)

/-- One answer; none while the loop waits. -/
def step (s : State × World) : Option (State × World) :=
  (E.answer s.1 s.2).map fun (answer, w) => (s.1.next answer, w)

/-- Follows the loop for so many answers, or until it waits or is over. -/
def run : Nat → State × World → State × World
  | 0, s => s
  | n + 1, s =>
    match E.step s with
    | none => s
    | some s => run n s

theorem run_succ_of_step {n : Nat} {s t : State × World} (h : E.step s = some t) :
    E.run (n + 1) s = E.run n t := by
  simp [run, h]

theorem run_of_step_none {s : State × World} (h : E.step s = none) (n : Nat) : E.run n s = s := by
  cases n <;> simp [run, h]

end Surroundings

end SnapshotFeed.Reconnect
