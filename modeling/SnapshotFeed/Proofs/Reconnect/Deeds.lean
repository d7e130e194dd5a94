import SnapshotFeed.Proofs.Reconnect.Reference
import SnapshotFeed.Proofs.Reconnect.Setting

/-! What the loop does of which anyone learns.

It asks for sessions, handles messages, offers payloads and starts pauses. `course` tells from the
visits alone, with no queue and no loop in sight, what it does over them. -/
namespace SnapshotFeed

namespace Backoff

/-- The backoff after these messages were handled: any response resets it. -/
def afterHearing (b : Backoff) (ms : List Message) : Backoff :=
  if ms.all Message.isTerminal then b else b.reset

end Backoff

namespace Reconnect

/-- Something the loop does of which anyone learns. -/
inductive Deed where
  | asks (opening : Opening)
  | hears (m : Message)
  /-- An offer, whether it is accepted or not. -/
  | offers (payload : Payload)
  /-- The start of a pause, with its delay before the jitter. -/
  | rests (base : Duration)
  deriving DecidableEq, Repr

def Deed.payload? : Deed → Option Payload
  | offers payload => some payload
  | _ => none

/-- What a loop does in a turn. -/
def Turn.deed? : Turn → Option Deed
  | ⟨⟨.opening, _, _⟩, opening⟩ => some (.asks opening)
  | ⟨⟨.received message, _, _⟩, isSet⟩ =>
    bif isSet then none else some (.hears (message.getD (.error .disconnected)))
  | ⟨⟨.delivering payload, _, _⟩, _⟩ | ⟨⟨.notifying payload, _, _⟩, _⟩ => some (.offers payload)
  | ⟨⟨.drawing, b, _⟩, _⟩ => some (.rests b.current)
  | _ => none

def deeds (ts : List Turn) : List Deed := ts.filterMap Turn.deed?

theorem offered_eq_deeds (ts : List Turn) : offered ts = (deeds ts).filterMap Deed.payload? := by
  rw [offered, deeds, List.filterMap_filterMap]
  congr 1
  funext t
  obtain ⟨⟨phase, b, capacity⟩, answer⟩ := t
  cases phase with
  | received message => cases answer <;> rfl
  | _ => rfl

/-! ### The course of a loop -/

/-- What the loop does with a message. -/
def Deed.onHearing (m : Message) : List Deed :=
  match m with
  | .response _ => .hears m :: (Message.snapshot? m).toList.map .offers
  | .error _ => [.hears m, .offers .retryNotice]
  | .complete => [.hears m]

/-- What is heard of a session: all it sends up to the first terminal message. If there is none, a
session that lets go is heard as an error, and a silent one is not heard again. -/
def Exit.heard (exit : Exit) (messages : List Message) : List Message :=
  match exit with
  | .leaves => Message.followedBy messages [.error .disconnected]
  | .stays => Message.upToTerminal messages

/-- What the loop does over the visits to come, until it waits for another or for a session that
keeps silent. -/
def course (b : Backoff) : List Visit → List Deed
  | [] => []
  | .refused cause :: coming =>
    .asks (.refused cause) :: .offers .retryNotice :: .rests b.current :: course b.grow coming
  | .opened messages exit :: coming =>
    let heard := exit.heard messages
    let b := b.afterHearing heard
    .asks .opened :: heard.flatMap Deed.onHearing ++
      if heard.any Message.isTerminal then .rests b.current :: course b.grow coming else []

/-- The rest of the course from the end of a session. -/
def afterSession (b : Backoff) (coming : List Visit) : List Deed :=
  .rests b.current :: course b.grow coming

/-- The rest of the course, with these messages yet to be heard of a session. -/
def fromSession (b : Backoff) (heard : List Message) (coming : List Visit) : List Deed :=
  heard.flatMap Deed.onHearing ++
    if heard.any Message.isTerminal then afterSession (b.afterHearing heard) coming else []

theorem heard_response (exit : Exit) (r : Response) (ms : List Message) :
    exit.heard (.response r :: ms) = .response r :: exit.heard ms := by
  cases exit with
  | stays => rfl
  | leaves =>
    simp only [Exit.heard, Message.followedBy, List.any_cons, Message.isTerminal_response,
      Bool.false_or]
    split <;> rfl

theorem heard_terminal (exit : Exit) {m : Message} (hterminal : m.isTerminal = true)
    (ms : List Message) : exit.heard (m :: ms) = [m] := by
  cases exit <;> simp [Exit.heard, Message.followedBy, Message.upToTerminal, hterminal]

/-- A session that leaves is heard to its end. -/
theorem any_isTerminal_heard_leaves (messages : List Message) :
    (Exit.heard .leaves messages).any Message.isTerminal = true := by
  rw [Exit.heard, Message.any_isTerminal_followedBy]
  exact Bool.or_true _

theorem fromSession_response (b : Backoff) (r : Response) (heard : List Message)
    (coming : List Visit) :
    fromSession b (.response r :: heard) coming =
      Deed.onHearing (.response r) ++ fromSession b.reset heard coming := by
  have hafter : b.afterHearing (.response r :: heard) = b.reset.afterHearing heard := by
    unfold Backoff.afterHearing
    rw [List.all_cons, Message.isTerminal_response, Bool.false_and, if_neg Bool.false_ne_true]
    split <;> rfl
  rw [fromSession, fromSession, hafter, List.flatMap_cons, List.any_cons,
    Message.isTerminal_response, Bool.false_or, List.append_assoc]

theorem fromSession_terminal (b : Backoff) {m : Message} (hterminal : m.isTerminal = true)
    (coming : List Visit) :
    fromSession b [m] coming = Deed.onHearing m ++ afterSession b coming := by
  have hafter : b.afterHearing [m] = b := by
    rw [Backoff.afterHearing, List.all_cons, hterminal]
    rfl
  rw [fromSession, hafter, List.flatMap_singleton, List.any_cons, hterminal]
  rfl

end Reconnect

end SnapshotFeed
