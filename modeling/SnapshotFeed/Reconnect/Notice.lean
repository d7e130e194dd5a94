import SnapshotFeed.Duration
import SnapshotFeed.Error
import SnapshotFeed.Message

/-! What the worker and the switch tell the host's log. -/
namespace SnapshotFeed.Reconnect

inductive Level where
  | debug
  | info
  | warn
  deriving DecidableEq, Repr

def Level.name : Level → String
  | debug => "DEBUG"
  | info => "INFO"
  | warn => "WARN"

inductive Notice where
  | opening
  | openFailed (cause : Error)
  /-- The stream failed; `delay` is the next delay without jitter. -/
  | streamFailed (cause : StreamError) (delay : Duration)
  | completed
  | snapshotDropped
  | ignored (state : SyncState)
  | failureDropped
  | waiting (delay : Duration)
  /-- The switch was set while the worker waited for a message. -/
  | interrupted
  | leaving
  | shutdownRequested
  deriving DecidableEq, Repr

namespace Notice

def level : Notice → Level
  | openFailed _ | streamFailed .. | snapshotDropped | failureDropped => .warn
  | ignored _ | interrupted | leaving => .info
  | opening | completed | waiting _ | shutdownRequested => .debug

def text : Notice → String
  | opening => "opening sync stream"
  | openFailed cause => "failed to open sync stream: " ++ cause.message
  | streamFailed cause _ => "error from sync stream, retrying: " ++ cause.message
  | completed => "sync stream completed"
  | snapshotDropped => "delivery queue is full, dropping flag configuration"
  | ignored state => "ignored sync message of state " ++ state.name
  | failureDropped => "failed to convey error status, queue is full"
  | waiting _ => "waiting before reconnecting to sync stream"
  | interrupted => "sync stream receive interrupted by shutdown"
  | leaving => "shutdown invoked, exiting sync stream listener"
  | shutdownRequested => "shutdown requested, closing transport"

/-- The delay that goes with the text. -/
def delay? : Notice → Option Duration
  | streamFailed _ delay | waiting delay => some delay
  | _ => none

end Notice

end SnapshotFeed.Reconnect
