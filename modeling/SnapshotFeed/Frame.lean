import SnapshotFeed.Json.Text
import SnapshotFeed.Message

/-! Frames: the lines of the stream.

A frame is an object with one member, `result` or `error`. A response and a status are objects
whose known members occur at most once, in any order, among members nobody knows; or arrays that
give the known members by position. What is missing has its default. Keys must say something;
the values of unknown members need only be well-formed. -/
namespace SnapshotFeed

open Json (Value)

/-- How a server ends a stream with an error. -/
structure Status where
  code : Int
  text : String
  deriving DecidableEq, Repr

/-- A status that says nothing. -/
def Status.blank : Status := ⟨0, ""⟩

inductive Frame where
  | result (r : Response)
  | error (s : Status)
  deriving DecidableEq, Repr

/-- The members with what their keys say; fails if one says nothing. -/
def keyed? (members : List (List Json.Piece × Value)) : Option (List (String × Value)) :=
  members.mapM fun (key, v) => (Json.text? key).map (·, v)

/-- A known member read by `read`, or the default if it is absent. It must not occur twice. -/
def field? {α : Type} (name : String) (read : Value → Option α) (absent : α)
    (members : List (String × Value)) : Option α :=
  match members.filter (·.1 == name) with
  | [] => some absent
  | [(_, v)] => read v
  | _ => none

/-- A state is a name, or a number of 64 bits. -/
def SyncState.ofValue? : Value → Option SyncState
  | .string s => (Json.text? s).map ofName
  | .number n => do
    let i ← n.toInt?
    if -0x8000000000000000 ≤ i ∧ i < 0x8000000000000000 then some (ofNumber i) else none
  | _ => none

/-- A code is a number of 32 bits. -/
def Status.code? (v : Value) : Option Int := do
  let i ← v.int?
  if -0x80000000 ≤ i ∧ i < 0x80000000 then some i else none

def Response.ofValue? : Value → Option Response
  | .object members => do
    let members ← keyed? members
    let flagConfiguration ← field? "flagConfiguration" Value.text? "" members
    let state ← field? "state" SyncState.ofValue? .unspecified members
    some ⟨flagConfiguration, state⟩
  | .array [] => some .blank
  | .array [c] => do some {Response.blank with flagConfiguration := ← c.text?}
  | .array [c, s] => do some ⟨← c.text?, ← SyncState.ofValue? s⟩
  | _ => none

def Status.ofValue? : Value → Option Status
  | .object members => do
    let members ← keyed? members
    let code ← field? "code" Status.code? 0 members
    let text ← field? "message" Value.text? "" members
    some ⟨code, text⟩
  | .array [] => some .blank
  | .array [c] => do some {Status.blank with code := ← Status.code? c}
  | .array [c, t] => do some ⟨← Status.code? c, ← t.text?⟩
  | _ => none

def Frame.ofValue? : Value → Option Frame
  | .object [(key, v)] =>
    match Json.text? key with
    | some "result" => (Response.ofValue? v).map .result
    | some "error" => (Status.ofValue? v).map .error
    | _ => none
  | _ => none

/-- The response a text holds. -/
def Response.decode? (text : List UInt8) : Option Response := (Value.parse? text).bind ofValue?

/-- The frame a line holds. -/
def Frame.decode? (line : List UInt8) : Option Frame := (Value.parse? line).bind ofValue?

/-- The message a line of the stream is. A line that is no frame is an error. -/
def Message.ofLine (line : List UInt8) : Message :=
  match Frame.decode? line with
  | some (.result r) => .response r
  | some (.error s) => .error (.remote s.code s.text)
  | none => .error .malformedFrame

end SnapshotFeed
