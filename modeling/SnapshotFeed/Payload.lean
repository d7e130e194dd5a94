import SnapshotFeed.Message

/-! What consumers get, and what a message means for them.

Consumers replace their whole configuration with every payload, so only full snapshots are
delivered. An error of any cause becomes the same notice. -/
namespace SnapshotFeed

inductive Payload.Kind where
  | data
  | error
  deriving DecidableEq, Repr

def Payload.Kind.name : Payload.Kind → String
  | data => "DATA"
  | error => "ERROR"

structure Payload where
  kind : Payload.Kind
  content : String
  deriving DecidableEq, Repr

namespace Payload

/-- A full flag configuration. -/
def snapshot (content : String) : Payload := ⟨.data, content⟩

def failure (content : String) : Payload := ⟨.error, content⟩

/-- What consumers are told when the stream fails. -/
def retryNotice : Payload := failure "connection error, retrying"

end Payload

/-- What to do with a message. -/
inductive Action where
  | deliver (payload : Payload)
  | ignore (state : SyncState)
  | complete
  deriving DecidableEq, Repr

def Message.classify : Message → Action
  | .error _ => .deliver .retryNotice
  | .complete => .complete
  | .response r => if r.state = .all then .deliver (.snapshot r.flagConfiguration) else .ignore r.state

end SnapshotFeed
