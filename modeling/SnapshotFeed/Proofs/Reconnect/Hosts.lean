import SnapshotFeed.Proofs.Backoff
import SnapshotFeed.Proofs.Reconnect.Deeds
import SnapshotFeed.Proofs.Reconnect.Projection

/-! Consumers and chance do not reach the stream.

A run has two sides. Sessions, pauses and whoever sets the switch are on the one, and may be any
surroundings; consumers and the draws of the jitter are on the other, and may be any host. The one
side is not told what an offer came to or which jitter was drawn, and it is not asked when the log
is told of a dropped payload; for the rest it may go by all the loop does. `sights_of_hosts`: then
the host makes no difference to what the loop asks for, receives and offers, or to the delays before
the jitter. -/
namespace SnapshotFeed.Reconnect

/-! ### What the host leaves alone -/

namespace Phase

/-- The phase without what the host has to do with it. -/
def blind : Phase → Phase
  | reporting .snapshotDropped after | reporting .failureDropped after => after.blind
  | reporting (.waiting _) after => reporting (.waiting .zero) after.blind
  | reporting notice after => reporting notice after.blind
  | releasing after => releasing after.blind
  | pausing _ => pausing .zero
  | phase => phase

/-- The warnings of dropped payloads that the loop is about to give. -/
def warnings : Phase → Nat
  | reporting .snapshotDropped after | reporting .failureDropped after => after.warnings + 1
  | _ => 0

end Phase

theorem Phase.blind_blind (p : Phase) : p.blind.blind = p.blind := by
  induction p with
  | reporting notice after ih =>
    cases notice with
    | snapshotDropped | failureDropped => exact ih
    | _ => exact congrArg (Phase.reporting _) ih
  | releasing after ih => exact congrArg Phase.releasing ih
  | _ => rfl

def State.blind (s : State) : State := {s with phase := s.phase.blind}

theorem State.blind_go_blind (s : State) (phase : Phase) :
    (s.go phase.blind).blind = (s.go phase).blind :=
  congrArg s.go phase.blind_blind

/-- A turn as it is for whoever is not told of payloads that were dropped, and of no jitter. -/
inductive Sight where
  | looks (phase : Phase) (isSet : Bool)
  | prepares
  | tells (notice : Notice)
  | asks (opening : Opening)
  | receives (message : Option Message)
  | offers (payload : Payload)
  | releases
  /-- A jitter is drawn for a delay that has this length before. -/
  | draws (base : Duration)
  | pauses (ending : PauseEnd)
  deriving DecidableEq, Repr

/-- What is left of a turn without the host; nothing of the warning that a payload was dropped. -/
def Turn.sight? : Turn → Option Sight
  | ⟨⟨.connecting, _, _⟩, isSet⟩ => some (.looks .connecting isSet)
  | ⟨⟨.refused cause, _, _⟩, isSet⟩ => some (.looks (.refused cause) isSet)
  | ⟨⟨.streaming, _, _⟩, isSet⟩ => some (.looks .streaming isSet)
  | ⟨⟨.received message, _, _⟩, isSet⟩ => some (.looks (.received message) isSet)
  | ⟨⟨.settled, _, _⟩, isSet⟩ => some (.looks .settled isSet)
  | ⟨⟨.preparing, _, _⟩, _⟩ => some .prepares
  | ⟨⟨.reporting .snapshotDropped _, _, _⟩, _⟩ | ⟨⟨.reporting .failureDropped _, _, _⟩, _⟩ => none
  | ⟨⟨.reporting (.waiting _) _, _, _⟩, _⟩ => some (.tells (.waiting .zero))
  | ⟨⟨.reporting notice _, _, _⟩, _⟩ => some (.tells notice)
  | ⟨⟨.opening, _, _⟩, opening⟩ => some (.asks opening)
  | ⟨⟨.receiving, _, _⟩, message⟩ => some (.receives message)
  | ⟨⟨.delivering payload, _, _⟩, _⟩ | ⟨⟨.notifying payload, _, _⟩, _⟩ => some (.offers payload)
  | ⟨⟨.releasing _, _, _⟩, _⟩ => some .releases
  | ⟨⟨.drawing, b, _⟩, _⟩ => some (.draws b.current)
  | ⟨⟨.pausing _, _, _⟩, ending⟩ => some (.pauses ending)

def sights (ts : List Turn) : List Sight := ts.filterMap Turn.sight?

def Sight.deed? : Sight → Option Deed
  | asks opening => some (.asks opening)
  | looks (.received message) false => some (.hears (message.getD (.error .disconnected)))
  | offers payload => some (.offers payload)
  | draws base => some (.rests base)
  | _ => none

/-- Nothing the loop does is missed. -/
theorem deeds_eq_sights (ts : List Turn) : deeds ts = (sights ts).filterMap Sight.deed? := by
  rw [deeds, sights, List.filterMap_filterMap]
  congr 1
  funext t
  obtain ⟨⟨phase, b, capacity⟩, answer⟩ := t
  cases phase with
  | received message => cases answer <;> rfl
  | reporting notice after => cases notice <;> rfl
  | ended | crashed cause => exact answer.elim
  | _ => rfl

/-! ### Two sides -/

/-- Where an answer leads if no jitter is drawn. -/
def State.onward : (s : State) → s.phase.Answer → State
  | s@⟨.drawing, _, _⟩, _ => s.pauseAfter .zero
  | s, answer => s.next answer

theorem State.fits_handle {s : State} (h : s.backoff.Fits) (m : Message) :
    (s.handle m).backoff.Fits := by
  obtain ⟨_, -, hnext⟩ | ⟨_, -, hnext⟩ | ⟨_, -, hnext⟩ | ⟨-, hnext⟩ := s.handle_cases m <;> rw [hnext]
  · exact h
  · exact h.reset
  · exact h
  · exact h

/-- Every turn keeps a backoff whose delays are durations. -/
theorem Turn.fits_after (t : Turn) (h : t.state.backoff.Fits) : t.after.backoff.Fits := by
  obtain ⟨⟨phase, b, capacity⟩, answer⟩ := t
  cases phase with
  | preparing =>
    simp only [Turn.after, State.next, State.prepare]
    split <;> exact h
  | received message =>
    cases answer with
    | true => cases message <;> exact h
    | false =>
      rw [Turn.after, State.next_received_of_unset]
      exact State.fits_handle h _
  | delivering payload => exact h.reset
  | drawing =>
    simp only [Turn.after, State.next, State.pauseAfter, Backoff.next?]
    cases b.current.add? answer with
    | none => exact h
    | some delay => exact h.grow
  | ended | crashed cause => exact answer.elim
  | _ => cases answer <;> exact h

namespace Surroundings
variable {World U V : Type}

/-- What the loop is told if a host takes the place of the consumers and of chance. -/
def hostedAnswer (E : Surroundings U) (H : Host V) :
    (s : State) → U → V → Option (s.phase.Answer × U)
  | ⟨.reporting .snapshotDropped _, _, _⟩, u, _ | ⟨.reporting .failureDropped _, _, _⟩, u, _ =>
    some ((), u)
  | ⟨.reporting (.waiting _) after, b, capacity⟩, u, _ =>
    E.answer ⟨.reporting (.waiting .zero) after.blind, b, capacity⟩ u
  | ⟨.reporting notice after, b, capacity⟩, u, _ =>
    E.answer ⟨.reporting notice after.blind, b, capacity⟩ u
  | ⟨.releasing after, b, capacity⟩, u, _ => E.answer ⟨.releasing after.blind, b, capacity⟩ u
  | ⟨.delivering payload, b, capacity⟩, u, v =>
    (E.answer ⟨.delivering payload, b, capacity⟩ u).map fun (_, u) => (H.accepts payload v, u)
  | ⟨.notifying payload, b, capacity⟩, u, v =>
    (E.answer ⟨.notifying payload, b, capacity⟩ u).map fun (_, u) => (H.accepts payload v, u)
  | ⟨.drawing, b, capacity⟩, u, v =>
    (E.answer ⟨.drawing, b, capacity⟩ u).map fun (_, u) => ((H.draw b v).1, u)
  | ⟨.pausing _, b, capacity⟩, u, _ => E.answer ⟨.pausing .zero, b, capacity⟩ u
  | s, u, _ => E.answer s u

/-- The surroundings with a host in the place of their consumers and of chance. -/
def hosted (E : Surroundings U) (H : Host V) : Surroundings (U × V) where
  answer s w := (hostedAnswer E H s w.1 w.2).map fun (answer, u) => (answer, (u, H.pass s w.2))

/-- Where the one side of a run goes. -/
def nextSight (E : Surroundings U) : State × U → Option (Sight × (State × U))
  | (s, u) => (E.answer s u).bind fun (answer, u) =>
    (Turn.sight? ⟨s, answer⟩).map (·, ((s.onward answer).blind, u))

theorem nextSight_of_answer {E : Surroundings U} {s : State} {u u' : U} {answer : s.phase.Answer}
    (h : E.answer s u = some (answer, u')) : nextSight E (s, u) =
      (Turn.sight? ⟨s, answer⟩).map (·, ((s.onward answer).blind, u')) := by
  simp only [nextSight, h, Option.bind_some]

theorem nextSight_eq_none {E : Surroundings U} {s : State} {u : U} (h : E.answer s u = none) :
    nextSight E (s, u) = none := by
  simp only [nextSight, h, Option.bind_none]

/-- Whichever jitter is drawn, the pause is for the same delay before it. -/
theorem blind_pauseAfter {s : State} {jitter : Duration} (h : s.backoff.next? jitter ≠ none) :
    (s.pauseAfter .zero).blind = (s.pauseAfter jitter).blind := by
  have hsum : s.backoff.current.add? .zero = some s.backoff.current := Duration.add?_eq_some.mpr rfl
  unfold State.pauseAfter Backoff.next? at *
  rw [hsum]
  cases hdelay : s.backoff.current.add? jitter with
  | none =>
    rw [hdelay] at h
    exact absurd rfl h
  | some delay => rfl

section Turns
variable {E : Surroundings U} {H : Host V} {s : State} {w : U × V} {y : State × (U × V)} {t : Turn}

theorem hosted_turn?_eq_some : (E.hosted H).turn? (s, w) = some (t, y) ↔
    ∃ answer u, hostedAnswer E H s w.1 w.2 = some (answer, u) ∧ t = ⟨s, answer⟩ ∧
      y = (s.next answer, (u, H.pass s w.2)) := by
  rw [turn?_eq_some]
  constructor
  · rintro ⟨answer, w', hanswer, rfl, rfl⟩
    obtain ⟨⟨answer, u⟩, hhosted, hmap⟩ := Option.map_eq_some_iff.mp hanswer
    cases hmap
    exact ⟨answer, u, hhosted, rfl, rfl⟩
  · rintro ⟨answer, u, hhosted, rfl, rfl⟩
    exact ⟨answer, _, Option.map_eq_some_iff.mpr ⟨_, hhosted, rfl⟩, rfl, rfl⟩

/-- A warning leaves all the rest as it is. -/
theorem hosted_unseen (hturn : (E.hosted H).turn? (s, w) = some (t, y)) (hunseen : t.sight? = none) :
    y.1.blind = s.blind ∧ y.2.1 = w.1 ∧ y.1.phase.warnings < s.phase.warnings := by
  obtain ⟨answer, u, hanswer, rfl, rfl⟩ := hosted_turn?_eq_some.mp hturn
  obtain ⟨phase, b, capacity⟩ := s
  cases phase with
  | reporting notice after =>
    cases notice with
    | snapshotDropped | failureDropped =>
      cases hanswer
      exact ⟨rfl, rfl, Nat.lt_succ_self _⟩
    | _ => cases hunseen
  | ended | crashed cause => exact answer.elim
  | _ => cases hunseen

theorem hosted_seen (hturn : (E.hosted H).turn? (s, w) = some (t, y))
    (hfit : ∀ jitter, t.drawn? = some jitter → t.state.backoff.next? jitter ≠ none)
    {sight : Sight} (hseen : t.sight? = some sight) :
    nextSight E (s.blind, w.1) = some (sight, (y.1.blind, y.2.1)) := by
  obtain ⟨answer, u, hanswer, rfl, rfl⟩ := hosted_turn?_eq_some.mp hturn
  obtain ⟨phase, b, capacity⟩ := s
  cases phase with
  | reporting notice after =>
    cases notice with
    | snapshotDropped | failureDropped => cases hseen
    | _ =>
      cases hseen
      have hblind := State.blind_go_blind ⟨.ended, b, capacity⟩ after
      exact (nextSight_of_answer hanswer).trans (congrArg (fun i => some (_, (i, u))) hblind)
  | releasing after =>
    cases hseen
    have hblind := State.blind_go_blind ⟨.ended, b, capacity⟩ after
    exact (nextSight_of_answer hanswer).trans (congrArg (fun i => some (_, (i, u))) hblind)
  | pausing delay =>
    cases hseen
    refine (nextSight_of_answer hanswer).trans ?_
    cases answer <;> rfl
  | delivering payload | notifying payload =>
    -- The answers may differ. All that follows from one is a warning, and `blind` drops it.
    obtain ⟨⟨accepted, u⟩, hE, hmap⟩ := Option.map_eq_some_iff.mp hanswer
    cases hmap
    cases hseen
    refine (nextSight_of_answer hE).trans ?_
    cases accepted <;> cases H.accepts payload w.2 <;> rfl
  | drawing =>
    obtain ⟨⟨jitter, u⟩, hE, hmap⟩ := Option.map_eq_some_iff.mp hanswer
    cases hmap
    cases hseen
    refine (nextSight_of_answer hE).trans ?_
    -- A draw that makes no delay would end the loop, and that could be seen.
    have hblind := blind_pauseAfter (s := ⟨.drawing, b, capacity⟩) (hfit _ rfl)
    exact congrArg (fun i => some (_, (i, u))) hblind
  | ended | crashed cause => exact answer.elim
  | _ =>
    cases hseen
    exact nextSight_of_answer hanswer

theorem hosted_waits (h : (E.hosted H).turn? (s, w) = none) : nextSight E (s.blind, w.1) = none := by
  have hwaits : hostedAnswer E H s w.1 w.2 = none := Option.map_eq_none_iff.mp (turn?_eq_none.mp h)
  obtain ⟨phase, b, capacity⟩ := s
  cases phase with
  | reporting notice after =>
    cases notice with
    | snapshotDropped | failureDropped => cases hwaits
    | _ => exact nextSight_eq_none hwaits
  | delivering payload | notifying payload | drawing =>
    exact nextSight_eq_none (Option.map_eq_none_iff.mp hwaits)
  | _ => exact nextSight_eq_none hwaits

/-- What is drawn may be drawn. -/
theorem hosted_admits (hturn : (E.hosted H).turn? (s, w) = some (t, y)) {jitter : Duration}
    (hdrawn : t.drawn? = some jitter) : t.state.backoff.Admits jitter := by
  obtain ⟨answer, u, hanswer, rfl, rfl⟩ := hosted_turn?_eq_some.mp hturn
  obtain ⟨phase, b, capacity⟩ := s
  cases phase with
  | drawing =>
    obtain ⟨⟨_, u⟩, -, hmap⟩ := Option.map_eq_some_iff.mp hanswer
    cases hmap
    cases hdrawn
    exact (H.draw b w.2).2
  | _ => cases hdrawn

end Turns

/-! ### Draws -/

/-- Every jitter that is drawn makes a delay. -/
def DrawsFit (E : Surroundings World) (x : State × World) : Prop :=
  ∀ n, ∀ t ∈ E.turns n x, ∀ jitter, t.drawn? = some jitter → t.state.backoff.next? jitter ≠ none

section DrawsFit
variable {E : Surroundings World} {x y : State × World} {t : Turn}

theorem DrawsFit.head (h : E.DrawsFit x) (hturn : E.turn? x = some (t, y)) {jitter : Duration}
    (hdrawn : t.drawn? = some jitter) : t.state.backoff.next? jitter ≠ none := by
  refine h 1 t ?_ jitter hdrawn
  rw [E.turns_succ_of_turn? hturn]
  exact List.mem_cons_self

theorem DrawsFit.tail (h : E.DrawsFit x) (hturn : E.turn? x = some (t, y)) : E.DrawsFit y := by
  intro n t' hmem
  refine h (n + 1) t' ?_
  rw [E.turns_succ_of_turn? hturn]
  exact List.mem_cons_of_mem _ hmem

end DrawsFit

/-- No host draws what does not fit if the delays leave room for all that may be drawn. -/
theorem drawsFit_of_fits (E : Surroundings U) (H : Host V) {x : State × (U × V)}
    (h : x.1.backoff.Fits) : (E.hosted H).DrawsFit x := by
  intro n
  induction n generalizing x with
  | zero => nofun
  | succ n ih =>
    cases hturn : (E.hosted H).turn? x with
    | none =>
      rw [turns_of_turn?_eq_none hturn]
      nofun
    | some found =>
      obtain ⟨t, y⟩ := found
      obtain ⟨answer, w, -, rfl, rfl⟩ := turn?_eq_some.mp hturn
      rw [turns_succ_of_turn? hturn, List.forall_mem_cons]
      refine ⟨fun jitter hdrawn => ?_, ih (Turn.fits_after ⟨x.1, answer⟩ h)⟩
      obtain ⟨delay, hnext⟩ := h.next? (hosted_admits hturn hdrawn)
      rw [hnext]
      nofun

/-! ### Two hosts -/

/-- What is seen of a run is told without its host and its draws. -/
def hostedProjection (E : Surroundings U) (H : Host V) :
    Projection (E.hosted H) Turn.sight? E.nextSight where
  image x := (x.1.blind, x.2.1)
  Inv := (E.hosted H).DrawsFit
  weight x := x.1.phase.warnings
  kept _ _ _ hturn hfit := hfit.tail hturn
  hidden _ _ _ hturn _ hunseen := by
    obtain ⟨hblind, hworld, hweight⟩ := hosted_unseen hturn hunseen
    exact ⟨Prod.ext hblind hworld, hweight⟩
  seen _ _ _ _ hturn hfit hseen := hosted_seen hturn (fun _ => hfit.head hturn) hseen
  waits _ hturn _ := hosted_waits hturn

end Surroundings

open Surroundings in
/-- **Consumers and chance make no difference to the stream.** Two runs of the loop with the same
sessions, the same ends of pauses and a switch set at the same points (`E`), but with different
consumers, queues and draws (`H` and `H'`): whatever the one does up to some point, the other does up
to some point, session by session, message by message, payload by payload and delay by delay. They
differ in what became of the offers, in the warnings of dropped payloads and in the jitter, and in
nothing else. There they are in the same phase, and if the one waits there, or is over, so does the
other. -/
theorem sights_of_hosts {U V V' : Type} (E : Surroundings U) (H : Host V) (H' : Host V') (s : State)
    (u : U) {v : V} {v' : V'} (hfit : (E.hosted H).DrawsFit (s, (u, v)))
    (hfit' : (E.hosted H').DrawsFit (s, (u, v'))) (n : Nat) :
    ∃ m, let x := (E.hosted H).run n (s, (u, v))
      let x' := (E.hosted H').run m (s, (u, v'))
      sights ((E.hosted H').turns m (s, (u, v'))) = sights ((E.hosted H).turns n (s, (u, v))) ∧
      deeds ((E.hosted H').turns m (s, (u, v'))) = deeds ((E.hosted H).turns n (s, (u, v))) ∧
      x'.1.blind = x.1.blind ∧ x'.2.1 = x.2.1 ∧
      ((E.hosted H).step x = none → (E.hosted H').step x' = none) := by
  obtain ⟨m, hsights, himage, hwaits⟩ :=
    (hostedProjection E H).alike (hostedProjection E H') hfit hfit' rfl n
  obtain ⟨hblind, hworld⟩ := Prod.mk.inj himage
  refine ⟨m, hsights, ?_, hblind, hworld, hwaits⟩
  rw [deeds_eq_sights, deeds_eq_sights]
  exact congrArg _ hsights

/-- A session sends two snapshots and leaves. One host has room for a single payload and nobody who
takes it, the other takes whatever there is: the second snapshot and the notice are dropped by the
one only. -/
theorem sights_of_full_and_eager_host :
    let E := (⟨fun _ _ => (), fun _ _ => true, fun b _ => ⟨_, b.admits_middleDraw⟩⟩ :
      Host Unit).surroundings .stopped
    let eager := {Host.idle with pass := fun s q => {Host.idle.pass s q with items := []}}
    let u := Course.new [.plays [.response ⟨"a", .all⟩, .response ⟨"b", .all⟩]] ()
    let s := State.start (.ofSeconds 1) (.ofSeconds 4) 5
    let x := (s, (u, Queue.Bounded.new 1))
    let x' := (s, (u, Queue.Bounded.new 7))
    ((E.hosted Host.idle).DrawsFit x ∧ (E.hosted eager).DrawsFit x') ∧
      ∃ m, sights ((E.hosted eager).turns m x') = sights ((E.hosted Host.idle).turns 40 x) ∧
        deeds ((E.hosted eager).turns m x') = [.asks .opened, .hears (.response ⟨"a", .all⟩),
          .offers (.snapshot "a"), .hears (.response ⟨"b", .all⟩), .offers (.snapshot "b"),
          .hears (.error .disconnected), .offers .retryNotice, .rests (.ofSeconds 1)] := by
  intro E eager u s x x'
  have hfits : s.backoff.Fits := Backoff.fits_of_le (by decide)
  have hfit := E.drawsFit_of_fits Host.idle (x := x) hfits
  have hfit' := E.drawsFit_of_fits eager (x := x') hfits
  obtain ⟨m, hsights, hdeeds, -⟩ := sights_of_hosts E Host.idle eager s u hfit hfit' 40
  refine ⟨⟨hfit, hfit'⟩, m, hsights, hdeeds.trans ?_⟩
  clear hsights hdeeds hfit hfit' hfits
  subst x x' s u eager E
  decide +kernel

end SnapshotFeed.Reconnect
