import SnapshotFeed.Queue.Delivery
import SnapshotFeed.Reconnect.Loop

/-! A scripted run of the loop.

A scenario says what each session sends, how each pause goes, what consumers take when, and what
the host does when it reads its log; it keeps the queues and the switch, and a history of what
happened. Its script decides every interleaving: a session sends its next message when the worker
waits for it, and whoever calls for shutdown does so at one point of the script. -/
namespace SnapshotFeed.Reconnect

/-- One step of a session's script. What is not sent happens while the worker waits. -/
inductive Cue where
  | send (m : Message)
  /-- A consumer takes so many payloads, if they are there. -/
  | take (count : Nat)
  | shutdown
  deriving DecidableEq, Repr

/-- What a session does after its script. -/
inductive Exit where
  | leaves
  /-- It says nothing until the transport is closed. -/
  | stays
  deriving DecidableEq, Repr

inductive Script where
  | plays (cues : List Cue) (exit : Exit)
  /-- No session is opened; shutdown may be called for first. -/
  | refuses (cause : Error) (shutdown : Bool)
  | breaks (reason : String)
  deriving DecidableEq, Repr

/-- The steps of a script. -/
def Script.size : Script → Nat
  | plays cues _ => cues.length
  | _ => 0

/-- How a pause ends. -/
inductive RestEnd where
  | elapses
  /-- Shutdown is called for, which ends the pause. -/
  | stops
  /-- Shutdown is called for, and the pause elapses all the same. -/
  | shutsDown
  /-- The pause ends early without a call for shutdown. -/
  | isInterrupted
  deriving DecidableEq, Repr

/-- A pause: what consumers take in it, and its end. -/
structure Rest where
  takes : Nat
  ending : RestEnd
  deriving DecidableEq, Repr

/-- Where the pauses come from. -/
inductive Pauses where
  | scripted (rests : List Rest)
  /-- Pauses end by themselves if they are no longer than this, or by the switch. -/
  | timed (patience : Duration)
  deriving DecidableEq, Repr

/-- What the host does when its log shows a text that starts so. -/
structure Hook where
  start : String
  /-- How many such texts pass first. -/
  skips : Nat
  takes : Nat
  shutdown : Bool
  deriving DecidableEq, Repr

inductive Event where
  | told (notice : Notice)
  | asked
  | paused (delay : Duration)
  | took (payload : Option Payload)
  /-- A call for shutdown, and whether it released the transport. -/
  | shutdown (released : Bool)
  deriving DecidableEq, Repr

structure Scenario where
  sessions : List Script
  /-- What follows the last session. -/
  afterwards : Script
  /-- A closed transport opens no session. -/
  refusesClosed : Bool
  pauses : Pauses
  hooks : List Hook
  delivery : Queue.Delivery
  switch : Switch
  /-- The queue of the session at hand, and what is left of its script. -/
  queue : Queue.Session
  cues : List Cue
  exit : Exit
  /-- How often a session was asked for. -/
  opened : Nat
  /-- Last first. -/
  events : List Event
  deriving DecidableEq, Repr

namespace Scenario

/-- A scenario in which nothing has happened. -/
def new (sessions : List Script) (afterwards : Script) (refusesClosed : Bool) (pauses : Pauses)
    (hooks : List Hook) (delivery : Queue.Delivery) : Scenario where
  sessions
  afterwards
  refusesClosed
  pauses
  hooks
  delivery
  switch := .new
  queue := Queue.Bounded.new 1
  cues := []
  exit := .leaves
  opened := 0
  events := []

def record (w : Scenario) (e : Event) : Scenario := {w with events := e :: w.events}

/-- What happened, in order. -/
def history (w : Scenario) : List Event := w.events.reverse

/-! ### Consumers, the log, and shutdown -/

def takeOne (w : Scenario) : Scenario :=
  let (payload, delivery) := Queue.Delivery.tryTake w.delivery
  {w with delivery}.record (.took payload)

def takeMany : Nat → Scenario → Scenario
  | 0, w => w
  | n + 1, w => takeMany n w.takeOne

/-- The first hook the text starts, if it acts now, and the hooks left. -/
def callHook (text : String) : List Hook → Option Hook × List Hook
  | [] => (none, [])
  | h :: rest =>
    if text.startsWith h.start then
      if h.skips = 0 then (some h, rest) else (none, {h with skips := h.skips - 1} :: rest)
    else
      let (called, rest) := callHook text rest
      (called, h :: rest)

/-- The log shows a notice; `shutdown` is what a call for shutdown does now. -/
def tellWith (shutdown : Scenario → Scenario) (w : Scenario) (n : Notice) : Scenario :=
  let w := w.record (.told n)
  let (called, hooks) := callHook n.text w.hooks
  let w := {w with hooks}
  match called with
  | none => w
  | some h => bif h.shutdown then shutdown (takeMany h.takes w) else takeMany h.takes w

/-- A call for shutdown that comes too late to do anything. -/
def shutdownAgain (w : Scenario) : Scenario := w.record (.shutdown false)

/-- A call for shutdown. The log hears of it after the switch is set and before the transport is
closed, so a call from there comes too late. -/
def shutdown (w : Scenario) : Scenario :=
  match w.switch.trySet with
  | (false, _) => w.shutdownAgain
  | (true, switch) =>
    let w := {w with switch}.tellWith shutdownAgain .shutdownRequested
    {w with switch := w.switch.release.wake}.record (.shutdown true)

def tell (w : Scenario) (n : Notice) : Scenario := w.tellWith shutdown n

/-! ### Sessions and pauses -/

def isClosed (w : Scenario) : Bool := 0 < w.switch.closed

/-- The next session, or what comes after the last. -/
def nextSession (w : Scenario) : Script × Scenario :=
  match w.sessions with
  | script :: sessions => (script, {w with sessions})
  | [] => (w.afterwards, w)

/-- A session is asked for. -/
def openSession (w : Scenario) : Opening × Scenario :=
  if w.refusesClosed && w.isClosed then (.refused .transportClosed, w)
  else
    let (script, w) := {w with opened := w.opened + 1}.record .asked |>.nextSession
    match script with
    | .plays cues exit => (.opened, {w with cues, exit})
    | .refuses cause false => (.refused cause, w)
    | .refuses cause true => (.refused cause, w.shutdown)
    | .breaks reason => (.broke reason, w)

/-- The queue of the next session. -/
def prepareQueue (capacity : Nat) (w : Scenario) : Scenario :=
  {w with queue := Queue.Bounded.new capacity, cues := [], exit := .leaves}

/-- What the worker finds in the queue. -/
def poll (w : Scenario) : Option (Option Message × Scenario) :=
  match Queue.Session.next w.queue with
  | (some found, queue) => some (found, {w with queue})
  | (none, _) => none

/-- The script goes on while the worker waits, up to the next message. -/
def play (w : Scenario) : List Cue → Option (Option Message × Scenario)
  | [] =>
    if w.exit = .leaves ∨ w.isClosed then
      {w with queue := w.queue.dropSender, cues := []}.poll
    else none
  | .send m :: cues => {w with queue := (w.queue.send m).2, cues}.poll
  | .take count :: cues => play (takeMany count w) cues
  | .shutdown :: cues => play w.shutdown cues

/-- The worker waits for a message. -/
def receive (w : Scenario) : Option (Option Message × Scenario) :=
  match w.poll with
  | some found => some found
  | none => w.play w.cues

/-- The worker leaves the session, and nothing of its script matters any more. -/
def leaveSession (w : Scenario) : Scenario :=
  {w with queue := w.queue.dropReceiver, cues := [], exit := .leaves}

def rest (w : Scenario) (r : Rest) : PauseEnd × Scenario :=
  let w := takeMany r.takes w
  match r.ending with
  | .elapses => (.elapsed, w)
  | .stops => (.stopped, w.shutdown)
  | .shutsDown => (.elapsed, w.shutdown)
  | .isInterrupted => (.stopped, w)

/-- The worker pauses. After the last scripted pause comes one that stops. -/
def pause (w : Scenario) (delay : Duration) : Option (PauseEnd × Scenario) :=
  match w.pauses with
  | .scripted [] => some ((w.record (.paused delay)).rest ⟨0, .stops⟩)
  | .scripted (r :: rests) =>
    some ({w with pauses := .scripted rests}.record (.paused delay) |>.rest r)
  | .timed patience =>
    if delay ≤ patience ∨ 0 < w.switch.pending ∨ ¬w.switch.hasOwner then
      let (ending, switch) := w.switch.pause
      some (ending, {w with switch}.record (.paused delay))
    else none

def offer (w : Scenario) (p : Payload) : Bool × Scenario :=
  let (accepted, delivery) := Queue.Delivery.offer w.delivery p
  (accepted, {w with delivery})

/-! ### The surroundings -/

/-- A scenario answers the loop. Every draw is the one in the middle. -/
def surroundings : Surroundings Scenario where
  answer
    | ⟨.connecting, _, _⟩, w | ⟨.refused _, _, _⟩, w | ⟨.streaming, _, _⟩, w
    | ⟨.received _, _, _⟩, w | ⟨.settled, _, _⟩, w => some (w.switch.isSet, w)
    | ⟨.preparing, _, capacity⟩, w => some ((), w.prepareQueue capacity)
    | ⟨.reporting notice _, _, _⟩, w => some ((), w.tell notice)
    | ⟨.opening, _, _⟩, w => some w.openSession
    | ⟨.receiving, _, _⟩, w => w.receive
    | ⟨.delivering payload, _, _⟩, w | ⟨.notifying payload, _, _⟩, w => some (w.offer payload)
    | ⟨.releasing _, _, _⟩, w => some ((), w.leaveSession)
    | ⟨.drawing, backoff, _⟩, w => some (backoff.middleDraw, w)
    | ⟨.pausing delay, _, _⟩, w => w.pause delay
    | ⟨.ended, _, _⟩, _ | ⟨.crashed _, _, _⟩, _ => none

/-- Enough answers for everything the scenario holds. From one pause to the next the loop asks at
most sixteen times, and five times more for each message. -/
def budget (w : Scenario) : Nat :=
  let rests := match w.pauses with
    | .scripted rests => rests.length
    | .timed _ => min w.delivery.capacity 1024
  let cycles := w.sessions.length + rests + 2
  cycles * (16 + 5 * w.afterwards.size) +
    5 * (w.cues.length + (w.sessions.map Script.size).foldl (· + ·) 0)

/-- The loop and its scenario, followed until the loop waits or is over. -/
def follow (s : State × Scenario) : State × Scenario := surroundings.run s.2.budget s

/-- A scenario without a consumer. -/
def withoutConsumer (w : Scenario) : Scenario := {w with delivery := w.delivery.dropReceiver}

/-- A scenario in which shutdown was called for before anything was logged. -/
def alreadyShutDown (w : Scenario) : Scenario :=
  let (released, switch) := w.switch.request
  {w with switch}.record (.shutdown released)

end Scenario

end SnapshotFeed.Reconnect
