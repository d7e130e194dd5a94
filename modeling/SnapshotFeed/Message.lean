/-! What a stream session says.

A session sends responses, and may end them with one terminal message: an error, or the
completion of the stream. Each response carries the state of the sync, by name or by number;
names and numbers nobody knows mean `unrecognized`. -/
namespace SnapshotFeed

/-- What kind of update a response is. -/
inductive SyncState where
  | unspecified
  | all
  | add
  | update
  | delete
  | ping
  | unrecognized
  deriving DecidableEq, Repr

namespace SyncState

/-- The name on the wire and in the log. -/
def name : SyncState → String
  | unspecified => "SYNC_STATE_UNSPECIFIED"
  | all => "SYNC_STATE_ALL"
  | add => "SYNC_STATE_ADD"
  | update => "SYNC_STATE_UPDATE"
  | delete => "SYNC_STATE_DELETE"
  | ping => "SYNC_STATE_PING"
  | unrecognized => "UNRECOGNIZED"

/-- The states with a number, in the order of their numbers. -/
def numbered : List SyncState := [unspecified, all, add, update, delete, ping]

def ofName (name : String) : SyncState :=
  (numbered.find? (·.name == name)).getD unrecognized

def ofNumber (number : Int) : SyncState :=
  if number < 0 then unrecognized else numbered.getD number.toNat unrecognized

theorem ofName_name (s : SyncState) : ofName s.name = s := by
  cases s <;> decide +kernel

end SyncState

/-- One message of the subscription. The configuration means something for `all` only. -/
structure Response where
  flagConfiguration : String
  state : SyncState
  deriving DecidableEq, Repr

/-- A response that says nothing. -/
def Response.blank : Response := ⟨"", .unspecified⟩

/-- Why a session failed. -/
inductive StreamError where
  /-- The connection could not be made, or broke; the text is the network's. -/
  | network (text : String)
  /-- The answer has a status that is no success. -/
  | status (code : Nat)
  /-- The server ended the stream with an error of its own. -/
  | remote (code : Int) (text : String)
  | malformedFrame
  | frameTooLarge (limit : Nat)
  /-- The session went away without a terminal message. -/
  | disconnected
  deriving DecidableEq, Repr

namespace StreamError

/-- No request could be made. -/
def unbuilt : StreamError := .network "builder error"

/-- The request could not be sent, or no answer came. -/
def unsent : StreamError := .network "error sending request"

/-- The body of the answer broke off. -/
def brokenOff : StreamError := .network "error decoding response body"

def message : StreamError → String
  | network text => text
  | status code => "unexpected HTTP status " ++ toString code
  | remote code text => "stream aborted by server (code " ++ toString code ++ "): " ++ text
  | malformedFrame => "malformed stream frame"
  | frameTooLarge limit => "stream frame exceeds " ++ toString limit ++ " bytes"
  | disconnected => "stream session disconnected"

/-- Whether another failure lies beneath this one: the network's, or the reader's. -/
def hasCause : StreamError → Bool
  | network _ | malformedFrame => true
  | _ => false

end StreamError

/-- What a session sends. -/
inductive Message where
  | response (r : Response)
  | error (cause : StreamError)
  | complete
  deriving DecidableEq, Repr

/-- Nothing follows an error or the completion. -/
def Message.isTerminal : Message → Bool
  | .response _ => false
  | _ => true

end SnapshotFeed
