import SnapshotFeed.Http.Transport

/-! The connector: a worker, and the owner who stops it.

The worker runs on its own, here always as far as it can before anybody looks. The owner may go
away by waiting for the end of the worker, or without; the queue outlives both. -/
namespace SnapshotFeed

open Reconnect

structure Connector where
  loop : Reconnect.State
  scenario : Scenario
  /-- The owner has neither shut the connector down nor dropped it. -/
  isOwned : Bool
  deriving DecidableEq, Repr

namespace Connector

/-- The worker goes on until it waits or is over; then it gives up its end of the queue. -/
def settle (c : Connector) : Connector :=
  let (loop, scenario) := Scenario.follow (c.loop, c.scenario)
  let scenario :=
    if loop.phase.isFinal then {scenario with delivery := scenario.delivery.dropSender} else scenario
  {c with loop, scenario}

/-- Why no connector starts. -/
inductive StartFault where
  | refused (cause : Error)
  /-- There is no room for the delivery queue. -/
  | noRoom (cause : Queue.RoomFault)
  deriving DecidableEq, Repr

/-- A connector over any transport, from its scenario over the delivery queue. -/
def startWith (c : Config) (scenario : Queue.Delivery → Scenario) : Except StartFault Connector := do
  let delivery ← (Queue.Delivery.new c.deliveryQueueCapacity).mapError .noRoom
  let loop := Reconnect.State.start c.initialBackoff c.maxBackoff c.receiveQueueCapacity
  .ok (settle ⟨loop, scenario delivery, true⟩)

/-- The server does not answer for longer than this. -/
def patience : Duration := .ofSeconds 60

/-- A connector over HTTP, to a server with these replies. -/
def start (c : Config) (replies : List Http.Reply) : Except StartFault Connector := do
  c.validate.mapError .refused
  let t ← (Http.Transport.ofConfig c).mapError .refused
  startWith c (t.scenario replies (.timed patience) [])

/-- A connector over scripted sessions; after the last one a session stays silent. -/
def startScripted (c : Config) (sessions : List Script) : Except StartFault Connector := do
  c.validate.mapError .refused
  startWith c (.new sessions (.plays [] .stays) false (.timed patience) [])

/-! ### Consumers -/

/-- What a consumer does with the queue, after which the worker goes on. -/
def consume {α : Type} (c : Connector) (f : Queue.Delivery → α × Queue.Delivery) : α × Connector :=
  let (a, delivery) := f c.scenario.delivery
  (a, {c with scenario := {c.scenario with delivery}}.settle)

def take (c : Connector) : Option (Except Error Payload) × Connector := c.consume Queue.Delivery.take

def takeTimeout (c : Connector) : Except Error (Option Payload) × Connector :=
  c.consume Queue.Delivery.takeTimeout

def tryTake (c : Connector) : Option Payload × Connector := c.consume Queue.Delivery.tryTake

def drain (c : Connector) : Option (List Payload) × Connector := c.consume Queue.Delivery.drain

def length (c : Connector) : Nat := c.scenario.delivery.items.length

/-! ### The owner -/

def stop (c : Connector) : Connector := {c with scenario := c.scenario.shutdown}.settle

def isStopped (c : Connector) : Bool := c.scenario.switch.isSet

/-- Stops the worker and waits for its end, which must not be a crash. -/
def shutdown (c : Connector) : Except Error Unit × Connector :=
  let c := c.stop
  let result := match c.loop.phase with
    | .crashed _ => .error .workerCrashed
    | _ => .ok ()
  (result, {c with isOwned := false})

/-- Stops the worker without waiting for its end. -/
def drop (c : Connector) : Connector := {c.stop with isOwned := false}

end Connector

end SnapshotFeed
