import SnapshotFeed.Duration
import SnapshotFeed.Error

/-! The configuration of a client. -/
namespace SnapshotFeed

structure Config where
  baseUrl : String
  token : Option String
  initialBackoff : Duration
  maxBackoff : Duration
  receiveQueueCapacity : Nat
  deliveryQueueCapacity : Nat
  connectTimeout : Duration
  maxFrameSize : Nat
  deriving DecidableEq, Repr

namespace Config

/-- What is used where nothing is configured. -/
def standard : Config where
  baseUrl := "http://localhost:8015"
  token := none
  initialBackoff := .ofSeconds 2
  maxBackoff := .ofSeconds 120
  receiveQueueCapacity := 5
  deliveryQueueCapacity := 5
  connectTimeout := .ofSeconds 10
  maxFrameSize := 4 * 1024 * 1024

/-- The first fault, in the order receive queue, delivery queue, frame size, delays. -/
def fault? (c : Config) : Option ConfigFault :=
  if c.receiveQueueCapacity = 0 then some .noReceiveQueue
  else if c.deliveryQueueCapacity = 0 then some .noDeliveryQueue
  else if c.maxFrameSize = 0 then some .noFrameSize
  else if c.maxBackoff < c.initialBackoff then some .delaysReversed
  else none

def validate (c : Config) : Except Error Unit :=
  match c.fault? with
  | some fault => .error (.invalidConfiguration fault)
  | none => .ok ()

end Config

end SnapshotFeed
