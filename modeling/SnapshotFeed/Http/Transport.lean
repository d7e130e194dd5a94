import SnapshotFeed.Endpoint
import SnapshotFeed.Http.Request
import SnapshotFeed.Http.Session
import SnapshotFeed.Reconnect.Scenario

/-! The transport over HTTP, and the loop over it.

Each session posts the request; each request that is sent gets the next reply of the server. A
closed transport opens no session. -/
namespace SnapshotFeed.Http

open Reconnect

structure Transport where
  url : Url
  token : Option String
  maxFrameSize : Nat
  deriving DecidableEq, Repr

namespace Transport

def ofConfig (c : Config) : Except Error Transport := do
  .ok ⟨← Endpoint.ofBase c.baseUrl, c.token, c.maxFrameSize⟩

def request (t : Transport) : Except StreamError Request := Request.post t.url t.token

/-- What comes of a request that the server answers so. -/
def exchange (t : Transport) (reply : Reply) : Exchange :=
  match t.request with
  | .ok _ => reply.exchange
  | .error cause => .failed cause

/-- Everything a session sends to a worker that takes it all. -/
def messages (t : Transport) (e : Exchange) : List Message :=
  Session.messages patient t.maxFrameSize e

/-- A session as a script. -/
def script (t : Transport) (e : Exchange) : Script :=
  let exit := match e with
    | .answered ⟨_, _, .stays⟩ | .unanswered => Exit.stays
    | _ => Exit.leaves
  .plays ((t.messages e).map .send) exit

/-- The sessions that some replies make; none of the replies is used up if nothing is sent. -/
def sessions (t : Transport) (replies : List Reply) : List Script :=
  match t.request with
  | .ok _ => replies.map fun reply => t.script (t.exchange reply)
  | .error _ => []

/-- A session when no reply is left. -/
def exhausted (t : Transport) : Script :=
  t.script (.failed (match t.request with
    | .ok _ => .unsent
    | .error cause => cause))

/-- A scenario over this transport. -/
def scenario (t : Transport) (replies : List Reply) (pauses : Pauses) (hooks : List Hook)
    (delivery : Queue.Delivery) : Scenario :=
  .new (t.sessions replies) t.exhausted true pauses hooks delivery

/-- How many requests the server saw, of a scenario that began with so many replies. -/
def answered (t : Transport) (replies : List Reply) (w : Scenario) : Nat :=
  min w.opened (t.sessions replies).length

end Transport

end SnapshotFeed.Http
