import Mathlib.Data.List.Forall2
import SnapshotFeed.Proofs.Reconnect.Deeds
import SnapshotFeed.Proofs.Reconnect.Projection

/-! That a session failed is seen, and not why.

A session fails by an error, by letting go of its queue, or by a refusal before it sends anything;
what the loop ignores may have any content. `Visit.Alike` pairs visits that differ in no more than
that. Consumers, the pauses, the draws and whoever sets the switch are told of every other turn
(`Turn.glimpse?`), and `glimpses_of_causes` says that they are told the same over alike visits.

The loop takes different turns to the same end: it looks at the switch once after a refusal, and
twice around an error. Those turns are not seen. So a switch set between two turns that are seen may
be set anywhere among them, and each run may find it so sooner or later than the other
(`SwitchTiming`). -/
namespace SnapshotFeed

/-- The message without what consumers cannot tell. -/
def Message.plain : Message → Message
  | .response r => .response (if r.state = .all then r else .blank)
  | .error _ => .error .disconnected
  | .complete => .complete

namespace Reconnect

/-! ### Visits that differ in causes -/

namespace Sender

/-- The session fails before it sends anything more. -/
inductive Fails : Sender → Prop where
  | error {cause : StreamError} {rest : List Message} {exit : Exit} :
    Fails ⟨.error cause :: rest, exit⟩
  | leaves : Fails ⟨[], .leaves⟩

/-- Two sessions of which the loop makes the same. -/
inductive Alike : Sender → Sender → Prop where
  | response {r : Response} {ms ms' : List Message} {exit exit' : Exit} :
    Alike ⟨ms, exit⟩ ⟨ms', exit'⟩ → Alike ⟨.response r :: ms, exit⟩ ⟨.response r :: ms', exit'⟩
  | ignored {r r' : Response} {ms ms' : List Message} {exit exit' : Exit} :
    r.state ≠ .all → r'.state ≠ .all → Alike ⟨ms, exit⟩ ⟨ms', exit'⟩ →
      Alike ⟨.response r :: ms, exit⟩ ⟨.response r' :: ms', exit'⟩
  /-- Nothing is heard after the completion. -/
  | complete {ms ms' : List Message} {exit exit' : Exit} :
    Alike ⟨.complete :: ms, exit⟩ ⟨.complete :: ms', exit'⟩
  | stays : Alike ⟨[], .stays⟩ ⟨[], .stays⟩
  | fails {a b : Sender} : a.Fails → b.Fails → Alike a b

/-- What is heard of a session, without its causes. -/
def plain (a : Sender) : List Message := (a.exit.heard a.sending).map Message.plain

theorem plain_response (r : Response) (ms : List Message) (exit : Exit) :
    plain ⟨.response r :: ms, exit⟩ = (Message.response r).plain :: plain ⟨ms, exit⟩ := by
  rw [plain, heard_response, List.map_cons]
  rfl

theorem plain_terminal {m : Message} (hterminal : m.isTerminal = true) (ms : List Message)
    (exit : Exit) : plain ⟨m :: ms, exit⟩ = [m.plain] := by
  rw [plain, heard_terminal _ hterminal]
  rfl

theorem Fails.plain {a : Sender} (h : a.Fails) : a.plain = [.error .disconnected] := by
  cases h with
  | error => exact plain_terminal rfl _ _
  | leaves => rfl

theorem Alike.plain {a b : Sender} (h : a.Alike b) : a.plain = b.plain := by
  induction h with
  | response _ ih => rw [plain_response, plain_response, ih]
  | @ignored r r' _ _ _ _ hr hr' _ ih =>
    rw [plain_response, plain_response, ih, Message.plain, Message.plain, if_neg hr, if_neg hr']
  | complete => rw [plain_terminal rfl, plain_terminal rfl]
  | stays => rfl
  | fails ha hb => rw [ha.plain, hb.plain]

end Sender

namespace Visit

/-- The visit fails before anything is heard of it. -/
inductive Fails : Visit → Prop where
  | refused {cause : Error} : Fails (.refused cause)
  | opened {ms : List Message} {exit : Exit} : Sender.Fails ⟨ms, exit⟩ → Fails (.opened ms exit)

/-- Two visits that differ in causes, in what is ignored, and in how they fail. -/
inductive Alike : Visit → Visit → Prop where
  | opened {ms ms' : List Message} {exit exit' : Exit} : Sender.Alike ⟨ms, exit⟩ ⟨ms', exit'⟩ →
    Alike (.opened ms exit) (.opened ms' exit')
  | fails {a b : Visit} : a.Fails → b.Fails → Alike a b

def plain : Visit → List Message
  | refused _ => [.error .disconnected]
  | opened messages exit => Sender.plain ⟨messages, exit⟩

theorem Fails.plain {a : Visit} (h : a.Fails) : a.plain = [.error .disconnected] := by
  cases h with
  | refused => rfl
  | opened h => exact h.plain

theorem Alike.plain {a b : Visit} (h : a.Alike b) : a.plain = b.plain := by
  cases h with
  | opened h => exact h.plain
  | fails ha hb => rw [ha.plain, hb.plain]

theorem map_plain_of_alike {visits visits' : List Visit} (h : List.Forall₂ Alike visits visits') :
    visits.map plain = visits'.map plain := by
  induction h with
  | nil => rfl
  | cons halike _ ih => rw [List.map_cons, List.map_cons, halike.plain, ih]

end Visit

/-! ### What is seen -/

/-- The notice without what consumers cannot tell. -/
def Notice.plain : Notice → Notice
  | openFailed _ | streamFailed .. => .openFailed .transportClosed
  | ignored _ => .ignored .unspecified
  | notice => notice

def Phase.plain : Phase → Phase
  | reporting notice after => reporting notice.plain after
  | phase => phase

def State.plain (s : State) : State := {s with phase := s.phase.plain}

/-- A turn as it is for whoever does not learn of causes. -/
inductive Glimpse where
  | looks (isSet : Bool)
  | prepares
  | tells (notice : Notice)
  | asks
  | offers (payload : Payload) (accepted : Bool)
  | releases
  | draws (jitter : Duration)
  | pauses (delay : Duration) (ending : PauseEnd)
  deriving DecidableEq, Repr

/-- What is seen of a turn. Nothing is seen from the request for a session, or from a message that
was handled, to what the loop makes of the next. -/
def Turn.glimpse? : Turn → Option Glimpse
  | ⟨⟨.refused _, _, _⟩, _⟩ | ⟨⟨.streaming, _, _⟩, _⟩ | ⟨⟨.receiving, _, _⟩, _⟩
  | ⟨⟨.received _, _, _⟩, _⟩ | ⟨⟨.reporting .interrupted _, _, _⟩, _⟩ => none
  | ⟨⟨.connecting, _, _⟩, isSet⟩ | ⟨⟨.settled, _, _⟩, isSet⟩ => some (.looks isSet)
  | ⟨⟨.preparing, _, _⟩, _⟩ => some .prepares
  | ⟨⟨.reporting notice _, _, _⟩, _⟩ => some (.tells notice.plain)
  | ⟨⟨.opening, _, _⟩, _⟩ => some .asks
  | ⟨⟨.delivering payload, _, _⟩, accepted⟩ | ⟨⟨.notifying payload, _, _⟩, accepted⟩ =>
    some (.offers payload accepted)
  | ⟨⟨.releasing _, _, _⟩, _⟩ => some .releases
  | ⟨⟨.drawing, _, _⟩, jitter⟩ => some (.draws jitter)
  | ⟨⟨.pausing delay, _, _⟩, ending⟩ => some (.pauses delay ending)

def glimpses (ts : List Turn) : List Glimpse := ts.filterMap Turn.glimpse?

def Glimpse.payload? : Glimpse → Option Payload
  | offers payload _ => some payload
  | _ => none

theorem offered_eq_glimpses (ts : List Turn) :
    offered ts = (glimpses ts).filterMap Glimpse.payload? := by
  rw [offered, glimpses, List.filterMap_filterMap]
  congr 1
  funext t
  obtain ⟨⟨phase, b, capacity⟩, answer⟩ := t
  cases phase with
  | reporting notice after => cases notice <;> rfl
  | ended | crashed cause => exact answer.elim
  | _ => rfl

/-! ### A loop among visits and the other participants -/

/-- All that surrounds the loop but its sessions: consumers, chance, pauses, and whoever sets the
switch. They go by what they see. -/
structure Participants (U : Type) where
  pass : Glimpse → U → U
  isSet : U → Bool
  /-- Whether an offer is not dropped. -/
  accepts : Payload → U → Bool
  draw : (b : Backoff) → U → {jitter : Duration // b.Admits jitter}
  pause : Duration → U → PauseEnd

/-- How far the visits have come, and the state the participants are in. -/
structure Progress (U : Type) where
  /-- What comes of the requests not yet made. -/
  coming : List Visit
  session : Sender
  participants : U

/-- When a switch is set that is set between two turns that are seen. -/
structure SwitchTiming (U : Type) where
  /-- The look before a message is awaited comes too early. -/
  isEarly : Progress U → Bool
  /-- The transport lets go of the session before it sends what it has left. -/
  isCut : Progress U → Bool

namespace Progress
variable {U : Type}

/-- Nothing has happened. -/
def new (visits : List Visit) (u : U) : Progress U := ⟨visits, ⟨[], .leaves⟩, u⟩

/-- A session is asked for. After the last visit the transport does not answer. -/
def openSession (w : Progress U) : Option (Opening × Progress U) :=
  match w.coming with
  | [] => none
  | .refused cause :: coming => some (.refused cause, {w with coming})
  | .opened messages exit :: coming => some (.opened, {w with coming, session := ⟨messages, exit⟩})

/-- The next message, or none from a session that has left. A silent session leaves once the switch
is set, and any other may. -/
def receive (isSet isCut : Bool) (w : Progress U) : Option (Option Message × Progress U) :=
  match w.session with
  | ⟨m :: sending, exit⟩ =>
    bif isSet && isCut then some (none, w) else some (some m, {w with session := ⟨sending, exit⟩})
  | ⟨[], .leaves⟩ => some (none, w)
  | ⟨[], .stays⟩ => bif isSet then some (none, w) else none

/-- A session has no say in what comes after it, or in what surrounds the loop. -/
theorem receive_frame {isSet isCut : Bool} {message : Option Message} {w v : Progress U}
    (h : w.receive isSet isCut = some (message, v)) :
    v.coming = w.coming ∧ v.participants = w.participants := by
  obtain ⟨coming, ⟨sending, exit⟩, u⟩ := w
  cases sending with
  | nil => cases exit <;> cases isSet <;> cases h <;> exact ⟨rfl, rfl⟩
  | cons m sending => cases isSet <;> cases isCut <;> cases h <;> exact ⟨rfl, rfl⟩

theorem receive_eq_none {isSet isCut : Bool} {w : Progress U} (h : w.receive isSet isCut = none) :
    w.session = ⟨[], .stays⟩ ∧ isSet = false := by
  obtain ⟨coming, ⟨sending, exit⟩, u⟩ := w
  cases sending with
  | nil =>
    cases exit with
    | leaves => cases h
    | stays =>
      cases isSet with
      | true => cases h
      | false => exact ⟨rfl, rfl⟩
  | cons m sending => cases isSet <;> cases isCut <;> nomatch h

end Progress

/-- What consumers can tell of the visits and their progress. -/
structure VisibleState (U : Type) where
  /-- What is still to be heard of the session at hand. -/
  heard : List Message
  coming : List (List Message)
  participants : U

namespace VisibleState
variable {U : Type}

/-- Nothing more is heard of the session. -/
def quit (o : VisibleState U) : VisibleState U := {o with heard := []}

/-- A state with what can still be told there. -/
def seenFrom (o : VisibleState U) (s : State) : State × VisibleState U :=
  (s.plain, bif s.phase.isOpen then o else o.quit)

theorem seenFrom_of_closed {s : State} (hclosed : s.phase.isOpen = false) (o : VisibleState U) :
    o.seenFrom s = (s.plain, o.quit) := by
  rw [seenFrom, hclosed]
  rfl

theorem seenFrom_of_open {s : State} (hopen : s.phase.isOpen = true) (o : VisibleState U) :
    o.seenFrom s = (s.plain, o) := by
  rw [seenFrom, hopen]
  rfl

end VisibleState

def Progress.visible {U : Type} (w : Progress U) : VisibleState U :=
  ⟨w.session.plain, w.coming.map Visit.plain, w.participants⟩

namespace Participants
variable {U : Type} (P : Participants U)

def answer (T : SwitchTiming U) : (s : State) → Progress U → Option (s.phase.Answer × Progress U)
  | ⟨.connecting, _, _⟩, w | ⟨.refused _, _, _⟩, w | ⟨.received _, _, _⟩, w
  | ⟨.settled, _, _⟩, w => some (P.isSet w.participants, w)
  | ⟨.streaming, _, _⟩, w => some (P.isSet w.participants && !T.isEarly w, w)
  | ⟨.preparing, _, _⟩, w | ⟨.reporting .., _, _⟩, w | ⟨.releasing _, _, _⟩, w => some ((), w)
  | ⟨.opening, _, _⟩, w => w.openSession
  | ⟨.receiving, _, _⟩, w => w.receive (P.isSet w.participants) (T.isCut w)
  | ⟨.delivering payload, _, _⟩, w | ⟨.notifying payload, _, _⟩, w =>
    some (P.accepts payload w.participants, w)
  | ⟨.drawing, b, _⟩, w => some ((P.draw b w.participants).1, w)
  | ⟨.pausing delay, _, _⟩, w => some (P.pause delay w.participants, w)
  | ⟨.ended, _, _⟩, _ | ⟨.crashed _, _, _⟩, _ => none

/-- The participants are told what they see. -/
def told (seen : Option Glimpse) (u : U) : U := seen.elim u (P.pass · u)

def surroundings (T : SwitchTiming U) : Surroundings (Progress U) where
  answer s w := (P.answer T s w).map fun (answer, w) =>
    (answer, {w with participants := P.told (Turn.glimpse? ⟨s, answer⟩) w.participants})

/-! ### What the loop comes to -/

/-- The loop with a message in hand, or with the error it makes of a session that failed. -/
def hearing (b : Backoff) (capacity : Nat) (m : Message) (o : VisibleState U) :
    State × VisibleState U :=
  bif P.isSet o.participants then o.seenFrom ⟨.abandoning, b, capacity⟩
  else o.seenFrom (State.handle ⟨.receiving, b, capacity⟩ m)

/-- Where the loop is seen next. -/
def heads (b : Backoff) (capacity : Nat) (o : VisibleState U) : Phase → State × VisibleState U
  | .refused _ => P.hearing b capacity (.error .disconnected) o
  | .streaming | .receiving =>
    match o.heard with
    | [] =>
      bif P.isSet o.participants then o.seenFrom ⟨.abandoning, b, capacity⟩
      else o.seenFrom ⟨.receiving, b, capacity⟩
    | m :: heard => P.hearing b capacity m {o with heard}
  | .received message => P.hearing b capacity (message.getD (.error .disconnected)) o
  | .reporting .interrupted after => heads b capacity o after
  | phase => o.seenFrom ⟨phase, b, capacity⟩

def settle (s : State) (o : VisibleState U) : State × VisibleState U :=
  P.heads s.backoff s.capacity o s.phase

/-- What the loop is told where it is seen. -/
def reply : (s : State) → VisibleState U → Option (s.phase.Answer × VisibleState U)
  | ⟨.connecting, _, _⟩, o | ⟨.settled, _, _⟩, o => some (P.isSet o.participants, o)
  | ⟨.preparing, _, _⟩, o | ⟨.reporting .., _, _⟩, o | ⟨.releasing _, _, _⟩, o => some ((), o)
  | ⟨.opening, _, _⟩, o =>
    match o.coming with
    | [] => none
    | heard :: coming => some (.opened, {o with heard, coming})
  | ⟨.delivering payload, _, _⟩, o | ⟨.notifying payload, _, _⟩, o =>
    some (P.accepts payload o.participants, o)
  | ⟨.drawing, b, _⟩, o => some ((P.draw b o.participants).1, o)
  | ⟨.pausing delay, _, _⟩, o => some (P.pause delay o.participants, o)
  | _, _ => none

/-- From where the loop is seen to where it is seen next. -/
def onward (x : State × VisibleState U) : Option (Glimpse × (State × VisibleState U)) :=
  (P.reply x.1 x.2).bind fun (answer, o) => (Turn.glimpse? ⟨x.1, answer⟩).map fun glimpse =>
    (glimpse, P.settle (x.1.next answer) {o with participants := P.pass glimpse o.participants})

variable {P} {T : SwitchTiming U} {s : State} {w : Progress U} {y : State × Progress U} {t : Turn}

theorem turn?_eq_some : (P.surroundings T).turn? (s, w) = some (t, y) ↔
    ∃ answer v, P.answer T s w = some (answer, v) ∧ t = ⟨s, answer⟩ ∧
      y = (s.next answer, {v with participants := P.told t.glimpse? v.participants}) := by
  rw [Surroundings.turn?_eq_some]
  constructor
  · rintro ⟨answer, _, hanswer, rfl, rfl⟩
    obtain ⟨⟨answer, v⟩, hfound, hmap⟩ := Option.map_eq_some_iff.mp hanswer
    cases hmap
    exact ⟨answer, v, hfound, rfl, rfl⟩
  · rintro ⟨answer, v, hfound, rfl, rfl⟩
    exact ⟨answer, _, Option.map_eq_some_iff.mpr ⟨_, hfound, rfl⟩, rfl, rfl⟩

/-- An unseen phase is so many turns at most from one that is seen. -/
def turnsUnseen : Phase → Nat
  | .streaming => 4
  | .receiving => 3
  | .received _ => 2
  | .refused _ => 1
  | .reporting .interrupted after => turnsUnseen after + 1
  | _ => 0

section Settle
variable {b : Backoff} {capacity : Nat} {o : VisibleState U}

theorem settle_handle (s : State) (m : Message) (o : VisibleState U) :
    P.settle (s.handle m) o = o.seenFrom (s.handle m) := by
  obtain ⟨_, -, h⟩ | ⟨_, -, h⟩ | ⟨_, -, h⟩ | ⟨-, h⟩ := s.handle_cases m <;> rw [h] <;> rfl

theorem hearing_of_isSet (hset : P.isSet o.participants = true) (m : Message) :
    P.hearing b capacity m o = (⟨.abandoning, b, capacity⟩, o.quit) := by
  rw [hearing, hset]
  rfl

theorem hearing_of_unset (hunset : P.isSet o.participants = false) (m : Message) :
    P.hearing b capacity m o = o.seenFrom (State.handle ⟨.receiving, b, capacity⟩ m) := by
  rw [hearing, hunset]
  rfl

theorem settle_receiving_of_isSet (hset : P.isSet o.participants = true) :
    P.settle ⟨.receiving, b, capacity⟩ o = (⟨.abandoning, b, capacity⟩, o.quit) := by
  cases hheard : o.heard with
  | nil =>
    simp only [settle, heads, hheard, hset]
    rfl
  | cons m heard =>
    simp only [settle, heads, hheard]
    exact hearing_of_isSet (o := {o with heard}) hset m

theorem participants_seenFrom (o : VisibleState U) (s : State) :
    (o.seenFrom s).2.participants = o.participants := by
  cases hopen : s.phase.isOpen with
  | true => rw [VisibleState.seenFrom_of_open hopen]
  | false =>
    rw [VisibleState.seenFrom_of_closed hopen]
    rfl

theorem participants_hearing (m : Message) :
    (P.hearing b capacity m o).2.participants = o.participants := by
  cases hset : P.isSet o.participants with
  | true =>
    rw [hearing_of_isSet hset]
    rfl
  | false => rw [hearing_of_unset hset, participants_seenFrom]

/-- What is not seen does not reach the participants. -/
theorem participants_settle (s : State) (o : VisibleState U) :
    (P.settle s o).2.participants = o.participants := by
  obtain ⟨phase, b, capacity⟩ := s
  induction phase with
  | reporting notice after ih =>
    cases notice with
    | interrupted => exact ih
    | _ => exact participants_seenFrom _ _
  | refused cause | received message => exact participants_hearing _
  | streaming | receiving =>
    simp only [settle, heads]
    cases o.heard with
    | nil => cases P.isSet o.participants <;> exact participants_seenFrom _ _
    | cons m heard => exact participants_hearing _
  | _ => exact participants_seenFrom _ _

/-- Where a message leads does not depend on what consumers cannot tell. -/
theorem hearing_plain (m : Message) : P.hearing b capacity m.plain o = P.hearing b capacity m o := by
  cases m with
  | response r =>
    by_cases hall : r.state = .all
    · rw [Message.plain, if_pos hall]
    · rw [Message.plain, if_neg hall]
      simp only [hearing, State.handle_of_ne_all _ hall]
      rfl
  | error cause => rfl
  | complete => rfl

/-- Where the session is of no more interest, it is of none. -/
theorem heads_quit {p : Phase} (hclosed : p.isOpen = false) :
    P.heads b capacity o.quit p = P.heads b capacity o p := by
  induction p with
  | reporting notice after ih =>
    cases notice with
    | interrupted => exact ih hclosed
    | _ =>
      show VisibleState.seenFrom _ _ = VisibleState.seenFrom _ _
      rw [VisibleState.seenFrom_of_closed hclosed, VisibleState.seenFrom_of_closed hclosed]
      rfl
  | releasing after =>
    show VisibleState.seenFrom _ _ = VisibleState.seenFrom _ _
    rw [VisibleState.seenFrom_of_closed hclosed, VisibleState.seenFrom_of_closed hclosed]
    rfl
  | received message =>
    cases message with
    | none => rfl
    | some m =>
      cases m with
      | response r => cases hclosed
      | error cause | complete => rfl
  | streaming | receiving | delivering payload => cases hclosed
  | _ => rfl

/-- The message that is received is the first of what is to be heard. -/
theorem settle_of_receive {isCut : Bool} {message : Option Message} {v : Progress U}
    (h : w.receive (P.isSet w.participants) isCut = some (message, v)) :
    P.settle ⟨.received message, b, capacity⟩ v.visible =
      P.settle ⟨.receiving, b, capacity⟩ w.visible := by
  cases hset : P.isSet w.participants with
  | true =>
    -- Whatever is received, the loop is about to leave: the sessions need not agree any more.
    obtain ⟨hcoming, hparticipants⟩ := Progress.receive_frame h
    have hset' : P.isSet v.visible.participants = true := by
      show P.isSet v.participants = true
      rw [hparticipants, hset]
    calc
      P.settle ⟨.received message, b, capacity⟩ v.visible
        = (⟨.abandoning, b, capacity⟩, v.visible.quit) := hearing_of_isSet hset' _
      _ = (⟨.abandoning, b, capacity⟩, w.visible.quit) := by
        simp only [Progress.visible, VisibleState.quit, hcoming, hparticipants]
      _ = P.settle ⟨.receiving, b, capacity⟩ w.visible := (settle_receiving_of_isSet hset).symm
  | false =>
    obtain ⟨coming, ⟨sending, exit⟩, u⟩ := w
    rw [hset] at h
    cases sending with
    | nil =>
      cases exit with
      | leaves =>
        cases h
        rfl
      | stays => cases h
    | cons m sending =>
      cases h
      show P.hearing b capacity m _ = _
      cases m with
      | response r =>
        have hheard := Sender.plain_response r sending exit
        simp only [settle, heads, Progress.visible, hheard]
        exact (hearing_plain _).symm
      | error cause =>
        have hheard := Sender.plain_terminal (m := .error cause) rfl sending exit
        simp only [settle, heads, Progress.visible, hheard]
        rfl
      | complete =>
        have hheard := Sender.plain_terminal (m := .complete) rfl sending exit
        simp only [settle, heads, Progress.visible, hheard]
        rfl

theorem turnsUnseen_handle (s : State) (m : Message) : turnsUnseen (s.handle m).phase < 2 := by
  obtain ⟨_, -, h⟩ | ⟨_, -, h⟩ | ⟨_, -, h⟩ | ⟨-, h⟩ := s.handle_cases m <;> rw [h]
  all_goals exact Nat.zero_lt_two

end Settle

/-- What is not seen leaves where the loop is seen next as it is. -/
theorem settle_of_unseen (hturn : (P.surroundings T).turn? (s, w) = some (t, y))
    (hunseen : t.glimpse? = none) : P.settle y.1 y.2.visible = P.settle s w.visible ∧
      turnsUnseen y.1.phase < turnsUnseen s.phase := by
  obtain ⟨answer, v, hanswer, rfl, rfl⟩ := turn?_eq_some.mp hturn
  rw [hunseen]
  obtain ⟨phase, b, capacity⟩ := s
  cases phase with
  | refused cause =>
    cases hanswer
    refine ⟨?_, ?_⟩
    · show P.settle (State.next _ _) w.visible = P.hearing b capacity _ w.visible
      cases hset : P.isSet w.participants with
      | true => exact (hearing_of_isSet hset _).symm
      | false =>
        rw [hearing_of_unset hset]
        rfl
    · cases P.isSet w.participants <;> exact Nat.lt_succ_self _
  | streaming =>
    cases hanswer
    cases hset : P.isSet w.participants with
    | true =>
      -- A look that comes too early leads to another one; what is seen next is the same.
      cases T.isEarly w with
      | true => exact ⟨rfl, Nat.lt_succ_self _⟩
      | false => exact ⟨(settle_receiving_of_isSet hset).symm, Nat.zero_lt_succ _⟩
    | false => exact ⟨rfl, Nat.lt_succ_self _⟩
  | receiving =>
    refine ⟨?_, Nat.lt_succ_self _⟩
    exact settle_of_receive hanswer
  | received message =>
    cases hanswer
    refine ⟨?_, ?_⟩
    · show P.settle (State.next _ _) w.visible = P.hearing b capacity _ w.visible
      cases hset : P.isSet w.participants with
      | true =>
        rw [hearing_of_isSet hset]
        cases message <;> rfl
      | false =>
        rw [hearing_of_unset hset, State.next_received_of_unset]
        exact settle_handle _ _ _
    · cases P.isSet w.participants with
      | true => cases message <;> exact Nat.le_of_ble_eq_true rfl
      | false =>
        rw [State.next_received_of_unset]
        exact turnsUnseen_handle _ _
  | reporting notice after =>
    cases notice with
    | interrupted =>
      cases hanswer
      exact ⟨rfl, Nat.lt_succ_self _⟩
    | _ => cases hunseen
  | ended | crashed cause => exact answer.elim
  | _ => cases hunseen

/-- Only a request opens a session. -/
theorem isOpen_next {answer : s.phase.Answer} (hclosed : s.phase.isOpen = false)
    (hopening : s.phase ≠ .opening) : (s.next answer).phase.isOpen = false := by
  obtain ⟨phase, b, capacity⟩ := s
  cases phase with
  | preparing =>
    simp only [State.next, State.prepare]
    split <;> rfl
  | drawing =>
    simp only [State.next, State.pauseAfter]
    split <;> rfl
  | reporting notice after | releasing after => exact hclosed
  | received message =>
    cases answer with
    | true => cases message <;> rfl
    | false =>
      cases message with
      | none => rfl
      | some m =>
        cases m with
        | response r => cases hclosed
        | error cause | complete => rfl
  | opening => exact absurd rfl hopening
  | streaming | receiving | delivering payload => cases hclosed
  | ended | crashed cause => exact answer.elim
  | _ => cases answer <;> rfl

theorem onward_of_reply {o o' : VisibleState U} {answer : s.phase.Answer} {glimpse : Glimpse}
    (hreply : P.reply s o = some (answer, o')) (hseen : Turn.glimpse? ⟨s, answer⟩ = some glimpse) :
    P.onward (s, o) =
      some (glimpse,
        P.settle (s.next answer) {o' with participants := P.pass glimpse o'.participants}) := by
  rw [onward, hreply]
  show (Turn.glimpse? ⟨s, answer⟩).map _ = _
  rw [hseen]
  rfl

/-- Where no session is open, it makes no difference what is still to be heard. -/
theorem onward_of_closed {o : VisibleState U} {answer : s.phase.Answer} {glimpse : Glimpse}
    (hclosed : s.phase.isOpen = false) (hopening : s.phase ≠ .opening)
    (hreply : P.reply s o.quit = some (answer, o.quit))
    (hseen : Turn.glimpse? ⟨s, answer⟩ = some glimpse) :
    P.onward (s, o.quit) =
      some (glimpse,
        P.settle (s.next answer) {o with participants := P.pass glimpse o.participants}) := by
  rw [onward_of_reply hreply hseen]
  exact congrArg (fun x => some (glimpse, x))
    (heads_quit (o := {o with participants := _}) (isOpen_next hclosed hopening))

theorem glimpse?_plain (notice : Notice) (after : Phase) (b : Backoff) (capacity : Nat) :
    Turn.glimpse? ⟨⟨.reporting notice.plain after, b, capacity⟩, ()⟩ =
      Turn.glimpse? ⟨⟨.reporting notice after, b, capacity⟩, ()⟩ := by
  cases notice <;> rfl

theorem settle_reporting {notice : Notice} {after : Phase} {b : Backoff} {capacity : Nat}
    {o : VisibleState U} {glimpse : Glimpse}
    (hseen : Turn.glimpse? ⟨⟨.reporting notice after, b, capacity⟩, ()⟩ = some glimpse) :
    P.settle ⟨.reporting notice after, b, capacity⟩ o =
      o.seenFrom ⟨.reporting notice after, b, capacity⟩ := by
  cases notice with
  | interrupted => cases hseen
  | _ => rfl

/-- Where the loop is seen it is told what it would be told without causes. -/
theorem onward_of_seen (hturn : (P.surroundings T).turn? (s, w) = some (t, y)) {glimpse : Glimpse}
    (hseen : t.glimpse? = some glimpse) :
    P.onward (P.settle s w.visible) = some (glimpse, P.settle y.1 y.2.visible) := by
  obtain ⟨answer, v, hanswer, rfl, rfl⟩ := turn?_eq_some.mp hturn
  rw [hseen]
  obtain ⟨phase, b, capacity⟩ := s
  cases phase with
  | refused cause | streaming | receiving | received message => cases hseen
  | connecting | preparing | notifying payload | settled | drawing | pausing delay =>
    cases hanswer
    exact onward_of_closed rfl nofun rfl hseen
  | delivering payload =>
    cases hanswer
    exact onward_of_reply (o := w.visible) rfl hseen
  | reporting notice after =>
    cases hanswer
    have hplain := (glimpse?_plain notice after b capacity).trans hseen
    rw [settle_reporting hseen]
    cases hopen : after.isOpen with
    | true =>
      rw [VisibleState.seenFrom_of_open hopen]
      exact onward_of_reply (o := w.visible) rfl hplain
    | false =>
      rw [VisibleState.seenFrom_of_closed hopen]
      exact onward_of_closed hopen nofun rfl hplain
  | opening =>
    obtain ⟨coming, session, u⟩ := w
    cases hseen
    cases coming with
    | nil => cases hanswer
    | cons visit coming =>
      have hreply : P.reply ⟨.opening, b, capacity⟩ ⟨[], (visit :: coming).map Visit.plain, u⟩ =
          some (.opened, ⟨visit.plain, coming.map Visit.plain, u⟩) := rfl
      cases visit <;> cases hanswer <;> exact onward_of_reply hreply rfl
  | releasing after =>
    cases hanswer
    show P.onward (w.visible.seenFrom _) = _
    cases hopen : after.isOpen with
    | true =>
      rw [VisibleState.seenFrom_of_open hopen]
      exact onward_of_reply (o := w.visible) rfl hseen
    | false =>
      rw [VisibleState.seenFrom_of_closed hopen]
      exact onward_of_closed hopen nofun rfl hseen
  | ended | crashed cause => exact answer.elim

theorem onward_of_waits (h : (P.surroundings T).turn? (s, w) = none) :
    P.onward (P.settle s w.visible) = none := by
  have hwaits : P.answer T s w = none := Option.map_eq_none_iff.mp (Surroundings.turn?_eq_none.mp h)
  obtain ⟨phase, b, capacity⟩ := s
  cases phase with
  | opening =>
    obtain ⟨coming, session, u⟩ := w
    cases coming with
    | nil => rfl
    | cons visit coming => cases visit <;> cases hwaits
  | receiving =>
    obtain ⟨coming, session, u⟩ := w
    obtain ⟨hsession, hunset⟩ := Progress.receive_eq_none hwaits
    cases hsession
    show P.onward (bif P.isSet u then _ else _) = none
    rw [show P.isSet u = false from hunset]
    rfl
  | ended | crashed cause => rfl
  | _ => cases hwaits

/-- What is seen of a run is told by what is visible of its visits, whatever the causes are. -/
def projection (P : Participants U) (T : SwitchTiming U) :
    Projection (P.surroundings T) Turn.glimpse? P.onward where
  image x := P.settle x.1 x.2.visible
  Inv _ := True
  weight x := turnsUnseen x.1.phase
  kept _ _ _ _ _ := trivial
  hidden _ _ _ hturn _ hunseen := settle_of_unseen hturn hunseen
  seen _ _ _ _ hturn _ hseen := onward_of_seen hturn hseen
  waits _ hturn _ := onward_of_waits hturn

theorem participants_image (P : Participants U) (T : SwitchTiming U) (x : State × Progress U) :
    ((P.projection T).image x).2.participants = x.2.participants :=
  participants_settle x.1 x.2.visible

end Participants

/-- **Consumers see that a session failed, and not why.** Two runs over visits that differ only in
the causes of errors, in what is ignored, and in how a session fails at the same point (`visits` and
`visits'`), with the same consumers, draws, pauses and switch (`P`): whatever the one shows up to
some point, the other shows up to some point. They ask for as many sessions, offer the same payloads,
have the same of them accepted, draw the same jitter and pause as long. There the participants are in
the same state, and if the one run waits there, or is over, so does the other. -/
theorem glimpses_of_causes {U : Type} (P : Participants U) (T T' : SwitchTiming U)
    {visits visits' : List Visit} (h : List.Forall₂ Visit.Alike visits visits') (s : State) (u : U)
    (n : Nat) :
    ∃ m, let x := (P.surroundings T).run n (s, .new visits u)
      let x' := (P.surroundings T').run m (s, .new visits' u)
      glimpses ((P.surroundings T').turns m (s, .new visits' u)) =
        glimpses ((P.surroundings T).turns n (s, .new visits u)) ∧
      offered ((P.surroundings T').turns m (s, .new visits' u)) =
        offered ((P.surroundings T).turns n (s, .new visits u)) ∧
      x'.2.participants = x.2.participants ∧
      ((P.surroundings T).step x = none → (P.surroundings T').step x' = none) := by
  have himage : (P.projection T).image (s, .new visits u) =
      (P.projection T').image (s, .new visits' u) :=
    congrArg (fun coming => P.settle s ⟨_, coming, u⟩) (Visit.map_plain_of_alike h)
  obtain ⟨m, hglimpses, hlast, hwaits⟩ :=
    (P.projection T).alike (P.projection T') trivial trivial himage n
  refine ⟨m, hglimpses, ?_, ?_, hwaits⟩
  · rw [offered_eq_glimpses, offered_eq_glimpses]
    exact congrArg _ hglimpses
  · have hparticipants := congrArg (fun x => x.2.participants) hlast
    exact (P.participants_image T' _).symm.trans (hparticipants.trans (P.participants_image T _))

/-- Consumers leave everything in the queue, and the switch is set in the last of so many pauses. -/
def Participants.idle : Participants (Queue.Delivery × Nat) where
  pass glimpse u :=
    match glimpse with
    | .offers payload _ => ((Queue.Delivery.offer u.1 payload).2, u.2)
    | .pauses .. => (u.1, u.2 - 1)
    | _ => u
  isSet u := u.2 == 0
  accepts payload u := (Queue.Delivery.offer u.1 payload).1
  draw b _ := ⟨_, b.admits_middleDraw⟩
  pause _ _ := .elapsed

/-- A refusal, or a session that leaves; an error with a ping before, or another ignored response and
nothing else. The switch is set in the third pause. -/
theorem glimpses_of_two_causes :
    let visits := [.refused .transportClosed,
      .opened [.response ⟨"x", .ping⟩, .error (.status 503)] .stays,
      .opened [.response ⟨"a", .all⟩, .complete] .stays]
    let visits' := [.opened [] .leaves, .opened [.response ⟨"y", .delete⟩] .leaves,
      .opened [.response ⟨"a", .all⟩, .complete] .stays]
    let E' := Participants.idle.surroundings ⟨fun _ => true, fun _ => true⟩
    let s := State.start (.ofSeconds 1) (.ofSeconds 4) 5
    let u := (Queue.Bounded.new 2, 3)
    List.Forall₂ Visit.Alike visits visits' ∧
      ∃ m, offered (E'.turns m (s, .new visits' u)) = [.retryNotice, .retryNotice, .snapshot "a"] ∧
        (E'.run m (s, .new visits' u)).2.participants = (⟨2, [.retryNotice, .retryNotice], 1, 1⟩, 0) ∧
        E'.step (E'.run m (s, .new visits' u)) = none := by
  intro visits visits' E' s u
  have halike : List.Forall₂ Visit.Alike visits visits' := by
    refine .cons (.fails .refused (.opened .leaves)) (.cons (.opened ?_) (.cons (.opened ?_) .nil))
    · exact .ignored nofun nofun (.fails .error .leaves)
    · exact .response .complete
  obtain ⟨m, -, hoffered, hparticipants, hwaits⟩ :=
    glimpses_of_causes Participants.idle ⟨fun _ => false, fun _ => false⟩
      ⟨fun _ => true, fun _ => true⟩ halike s u 80
  refine ⟨halike, m, hoffered.trans ?_, hparticipants.trans ?_, hwaits ?_⟩
  all_goals
    clear hoffered hparticipants hwaits halike
    subst u s E' visits' visits
    decide +kernel

end Reconnect

end SnapshotFeed
