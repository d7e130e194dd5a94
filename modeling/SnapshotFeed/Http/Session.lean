import SnapshotFeed.Frame
import SnapshotFeed.Lines

/-! A session over HTTP.

An answer with a success status is a stream of lines. Every line that is a result becomes a
response; the first that is not, a line that is too long, a body that breaks off or one that ends
becomes the terminal message, and nothing is sent after it. Nor is anything sent after a message
the worker did not take. -/
namespace SnapshotFeed.Http

/-- How the body of an answer ends. -/
inductive BodyEnd where
  | closes
  /-- It breaks off before its end. -/
  | breaks
  /-- It does not end. -/
  | stays
  deriving DecidableEq, Repr

structure Reply where
  status : Nat
  chunks : List (List UInt8)
  ending : BodyEnd
  deriving DecidableEq, Repr

/-- What comes of a request. -/
inductive Exchange where
  | failed (cause : StreamError)
  | answered (reply : Reply)
  /-- The answer does not come. -/
  | unanswered
  deriving DecidableEq, Repr

namespace Reply

def isSuccess (r : Reply) : Bool := 200 ≤ r.status && r.status ≤ 299

/-- Answers of some statuses end with their head. -/
def isBodiless (r : Reply) : Bool := r.status < 200 || r.status == 204 || r.status == 304

/-- The answer as it is read: a chunk that is not empty is one piece of the body. -/
def received (r : Reply) : Reply :=
  if r.isBodiless then {r with chunks := [], ending := .closes}
  else {r with chunks := r.chunks.filter (· ≠ [])}

/-- A head with such a status only announces the answer. -/
def isInterim (r : Reply) : Bool := 100 ≤ r.status && r.status ≤ 199 && r.status != 101

/-- What comes of a request with this reply. A status has three digits. After a head that announces
the answer, no chunk is one. -/
def exchange (r : Reply) : Exchange :=
  if r.status < 100 ∨ 999 < r.status then .failed .unsent
  else if r.isInterim then
    if r.ending = .stays ∧ r.chunks.all (· = []) then .unanswered else .failed .unsent
  else .answered r.received

end Reply

namespace Session
variable (accepts : Nat → Bool)

/-- The messages of some lines, when `sent` were sent before, and whether the session goes on
after them. `accepts n` says whether the worker takes the message after `n` others. -/
def forward (sent : Nat) : List (List UInt8) → List Message × Bool
  | [] => ([], true)
  | line :: rest =>
    let m := Message.ofLine line
    if m.isTerminal || !accepts sent then ([m], false)
    else
      let (ms, goesOn) := forward (sent + 1) rest
      (m :: ms, goesOn)

/-- The messages at the end of the body. -/
def conclude (sent : Nat) (d : LineDecoder) : BodyEnd → List Message
  | .closes =>
    let (ms, goesOn) := forward accepts sent d.finish.1.toList
    if goesOn then ms ++ [.complete] else ms
  | .breaks => [.error .brokenOff]
  | .stays => []

/-- The messages of the chunks. -/
def stream (ending : BodyEnd) (sent : Nat) (d : LineDecoder) : List (List UInt8) → List Message
  | [] => conclude accepts sent d ending
  | chunk :: rest =>
    match d.push chunk with
    | (.error cause, _) => [.error cause]
    | (.ok lines, d) =>
      let (ms, goesOn) := forward accepts sent lines
      if goesOn then ms ++ stream ending (sent + ms.length) d rest else ms

/-- Everything a session sends. -/
def messages (maxFrameSize : Nat) : Exchange → List Message
  | .failed cause => [.error cause]
  | .answered reply =>
    if reply.isSuccess then stream accepts reply.ending 0 (.new maxFrameSize) reply.chunks
    else [.error (.status reply.status)]
  | .unanswered => []

end Session

/-- A worker that takes every message. -/
def patient (_ : Nat) : Bool := true

/-! ### Reading a session -/

/-- What the reader of a session does besides reading. -/
inductive Reading where
  | toEnd
  /-- Closes the transport after so many messages. -/
  | closingAfter (count : Nat)
  /-- Goes away after so many messages. -/
  | abandoningAfter (count : Nat)
  deriving DecidableEq, Repr

/-- What a reader gets, and whether it is the one to go. A session that was closed leaves. -/
def Reading.read (sent : List Message) : Reading → List Message × Bool
  | toEnd => (sent, false)
  | closingAfter count => (sent.take count, false)
  | abandoningAfter count => (sent.take count, count ≤ sent.length)

end SnapshotFeed.Http
