import SnapshotFeed.Digits
import SnapshotFeed.Message
import SnapshotFeed.Url.Basic

/-! The request of a subscription.

It is the same for every session: an empty JSON object is posted to the service, which asks for
full snapshots. A user in the URL goes into the authorization; a token does, if there is no user.
A token that no header can hold, or a URL that no request line can hold or that is not dialed,
makes every session fail before anything is sent. -/
namespace SnapshotFeed.Http

structure Request where
  method : String
  target : String
  host : String
  accept : String
  contentType : String
  authorization : Option String
  userAgent : String
  body : String
  deriving DecidableEq, Repr

namespace Request

/-- A header can hold any byte but a control, tab apart. -/
def isHeaderChar (c : Char) : Bool := c == '\t' || !Url.isControl c

/-- The authorization of the user in a URL. -/
def basic? (a : Url.Authority) : Option String := do
  let username ← Url.decodeText? a.username
  let password := if a.password = [] then none else Url.decodeText? a.password
  if username = [] ∧ password = none then none
  else
    let credentials := username ++ [':'] ++ password.getD []
    some ("Basic " ++ .ofList (base64 (credentials.flatMap String.utf8EncodeChar)))

def authorization? (a : Url.Authority) (token : Option String) : Option String :=
  basic? a <|> token.map ("Bearer " ++ ·)

/-- A request names no host with such a character. -/
def isForbiddenInHost (c : Char) : Bool := ['"', '`', '\x7b', '\x7d'].contains c

/-- A request is for no longer URL, in bytes. -/
def longestUrl : Nat := 65534

/-- A user who goes into the authorization is left out of the URL. -/
def withoutUser (a : Url.Authority) : Url.Authority :=
  if (basic? a).isSome then {a with username := [], password := []} else a

/-- A request can be for the URL. -/
def isRequestable (u : Url) : Bool :=
  !u.authority.any (fun a => a.renderHost.any isForbiddenInHost) &&
    {u with authority := u.authority.map withoutUser}.render.utf8ByteSize ≤ longestUrl

/-- The request to a URL, or why there can be none. -/
def post (u : Url) (token : Option String) : Except StreamError Request :=
  if !token.all (fun t => t.toList.all isHeaderChar) || !isRequestable u then .error .unbuilt
  else
    match String.ofList u.scheme, u.authority with
    | "http", some a => .ok {
        method := "POST"
        target := u.target
        host := .ofList a.renderHost
        accept := "application/x-ndjson"
        contentType := "application/json"
        authorization := authorization? a token
        userAgent := "flagd-sync/0.1.0"
        body := "\x7b\x7d" }
    | "https", some _ => .error .unsent
    | _, _ => .error .unbuilt

end Request

end SnapshotFeed.Http
