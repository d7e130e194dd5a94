import SnapshotFeed.Proofs.Queue.Session
import SnapshotFeed.Proofs.Reconnect.History
import SnapshotFeed.Proofs.Steps

/-! The queues of all sessions, each with its one receiver.

The loop makes a queue before it asks for a session, and keeps the receiver until it leaves. Sinks
stay wherever a transport has put them, those of a session that was refused too: they are cloned,
dropped and sent through at any time. `Phase.Holds` says whether the loop has a receiver in a phase,
and `Sole` what that makes of the queues: the loop has left all of them but the last.
`leaves_before_next`: it leaves each before it pauses, asks for another, or ends. -/
namespace SnapshotFeed

open Queue

namespace Reconnect

/-! ### Receivers -/

/-- The loop has left all queues, or all but the last. -/
def Sole (qs : List Queue.Session) (held : Bool) : Prop :=
  ∃ left, qs.map (·.receivers) = List.replicate left 0 ++ bif held then [1] else []

/-- The receiver of the last queue is dropped. -/
def leaveLast (qs : List Queue.Session) : List Queue.Session :=
  qs.dropLast ++ qs.getLast?.toList.map Bounded.dropReceiver

namespace Sole
variable {qs : List Queue.Session} {held : Bool}

theorem congr (h : Sole qs held) {qs' : List Queue.Session}
    (hsame : qs'.map (·.receivers) = qs.map (·.receivers)) : Sole qs' held := by
  obtain ⟨left, hqs⟩ := h
  exact ⟨left, hsame.trans hqs⟩

theorem add (h : Sole qs false) (capacity : Nat) : Sole (qs ++ [Bounded.new capacity]) true := by
  obtain ⟨left, hqs⟩ := h
  refine ⟨left, ?_⟩
  rw [List.map_append, hqs, cond_false, List.append_nil]
  rfl

theorem isClosed_of_false (h : Sole qs false) : ∀ q ∈ qs, q.isClosed = true := by
  obtain ⟨left, hqs⟩ := h
  intro q hq
  have hmem : q.receivers ∈ List.replicate left 0 ++ [] := hqs ▸ List.mem_map_of_mem hq
  rw [List.append_nil] at hmem
  exact beq_iff_eq.mpr (List.eq_of_mem_replicate hmem)

theorem exists_last (h : Sole qs true) :
    ∃ before q, qs = before ++ [q] ∧ Sole before false ∧ q.receivers = 1 := by
  obtain ⟨left, hqs⟩ := h
  obtain ⟨before, last, rfl, hbefore, hlast⟩ := List.map_eq_append_iff.mp hqs
  obtain ⟨q, rfl, hq⟩ := List.map_eq_singleton_iff.mp hlast
  exact ⟨before, q, rfl, ⟨left, by rw [hbefore, cond_false, List.append_nil]⟩, hq⟩

theorem leave (h : Sole qs true) : Sole (leaveLast qs) false := by
  obtain ⟨before, q, rfl, ⟨left, hbefore⟩, hq⟩ := h.exists_last
  refine ⟨left + 1, ?_⟩
  simp [leaveLast, hbefore, Bounded.dropReceiver, hq, List.replicate_succ']

theorem isClosed_of_mem_dropLast (h : Sole qs held) : ∀ q ∈ qs.dropLast, q.isClosed = true := by
  cases held with
  | false => exact fun q hq => h.isClosed_of_false q (List.dropLast_subset qs hq)
  | true =>
    obtain ⟨before, q, rfl, hbefore, -⟩ := h.exists_last
    rw [List.dropLast_concat]
    exact hbefore.isClosed_of_false

end Sole

/-- Whether the loop has a receiver in a phase. It leaves a session once. -/
def Phase.Holds : Phase → Bool → Prop
  | reporting _ after, held => after.Holds held
  | releasing after, held => held = true ∧ after.Holds false
  | opening, held | refused _, held | streaming, held | receiving, held | received _, held
  | delivering _, held | notifying _, held => held = true
  | connecting, held | preparing, held | settled, held | drawing, held | pausing _, held
  | ended, held | crashed _, held => held = false

/-- The loop is between two sessions, or over. -/
def Phase.isBetween : Phase → Bool
  | reporting _ after => after.isBetween
  | connecting | preparing | settled | drawing | pausing _ | ended | crashed _ => true
  | _ => false

theorem Phase.Holds.isBetween_eq {phase : Phase} {held : Bool} (h : phase.Holds held) :
    phase.isBetween = !held := by
  induction phase with
  | reporting notice after ih => exact ih h
  | releasing after ih =>
    obtain ⟨rfl, -⟩ := h
    rfl
  | _ =>
    cases h
    rfl

theorem State.holds_handle (s : State) (m : Message) : (s.handle m).phase.Holds true := by
  obtain ⟨_, -, h⟩ | ⟨_, -, h⟩ | ⟨_, -, h⟩ | ⟨-, h⟩ := s.handle_cases m <;> rw [h]
  · rfl
  · rfl
  · rfl
  · exact ⟨rfl, rfl⟩

/-! ### Turns -/

/-- What an answer to the loop makes of the queues. A transport that breaks takes the receiver with
the worker. -/
def Serves : (s : State) → s.phase.Answer → List Queue.Session → List Queue.Session → Prop
  | ⟨.preparing, _, capacity⟩, _, qs, qs' =>
    qs' = qs ++ (Queue.Session.new capacity).toOption.toList
  | ⟨.opening, _, _⟩, .broke _, qs, qs' => qs' = leaveLast qs
  | ⟨.receiving, _, _⟩, message, qs, qs' =>
    ∃ before q q', qs = before ++ [q] ∧ Queue.Session.next q = (some message, q') ∧
      qs' = before ++ [q']
  | ⟨.releasing _, _, _⟩, _, qs, qs' => qs' = leaveLast qs
  | _, _, qs, qs' => qs' = qs

/-- A turn leaves the loop with the receiver that its next phase asks for, or without one. -/
theorem Serves.sole {s : State} {answer : s.phase.Answer} {qs qs' : List Queue.Session} {held : Bool}
    (h : Serves s answer qs qs') (hsole : Sole qs held) (hholds : s.phase.Holds held) :
    ∃ held', Sole qs' held' ∧ (s.next answer).phase.Holds held' := by
  obtain ⟨phase, b, capacity⟩ := s
  cases phase with
  | connecting | settled =>
    cases h
    cases answer <;> exact ⟨held, hsole, hholds⟩
  | preparing =>
    cases hholds
    cases h
    simp only [State.next, State.prepare]
    cases hnew : Queue.Session.new capacity with
    | error fault => exact ⟨false, hsole.congr (by rw [Except.toOption]; simp), rfl⟩
    | ok q =>
      obtain ⟨-, -, rfl⟩ := Queue.Session.new_eq_ok_iff.mp hnew
      exact ⟨true, hsole.add capacity, rfl⟩
  | reporting notice after =>
    cases h
    exact ⟨held, hsole, hholds⟩
  | opening =>
    cases hholds
    cases answer with
    | opened | refused cause =>
      cases h
      exact ⟨true, hsole, rfl⟩
    | broke reason =>
      cases h
      exact ⟨false, hsole.leave, rfl⟩
  | refused cause | streaming =>
    cases hholds
    cases h
    cases answer
    · exact ⟨true, hsole, rfl⟩
    · exact ⟨true, hsole, rfl, rfl⟩
  | receiving =>
    cases hholds
    obtain ⟨before, q, q', rfl, hnext, rfl⟩ := h
    refine ⟨true, hsole.congr ?_, rfl⟩
    rw [List.map_append, List.map_append, List.map_singleton, List.map_singleton,
      Queue.Session.receivers_of_next hnext]
  | received message =>
    cases hholds
    cases h
    cases answer with
    | true => cases message <;> exact ⟨true, hsole, rfl, rfl⟩
    | false =>
      rw [State.next_received_of_unset]
      exact ⟨true, hsole, State.holds_handle _ _⟩
  | delivering p =>
    cases hholds
    cases h
    cases answer <;> exact ⟨true, hsole, rfl⟩
  | notifying p =>
    cases hholds
    cases h
    cases answer <;> exact ⟨true, hsole, rfl, rfl⟩
  | releasing after =>
    obtain ⟨rfl, hafter⟩ := hholds
    cases h
    exact ⟨false, hsole.leave, hafter⟩
  | drawing =>
    cases hholds
    cases h
    refine ⟨false, hsole, ?_⟩
    simp only [State.next, State.pauseAfter]
    split <;> rfl
  | pausing delay =>
    cases h
    cases answer <;> exact ⟨held, hsole, hholds⟩
  | ended | crashed cause => exact answer.elim

/-! ### The loop among sinks -/

/-- A loop, and the queue of every session it was going to ask for, in order. -/
structure Sessions where
  loop : State
  queues : List Queue.Session

namespace Sessions

def start (initial longest : Duration) (capacity : Nat) : Sessions :=
  ⟨.start initial longest capacity, []⟩

inductive Event where
  | turn (t : Turn)
  /-- A message is sent through a sink, and answered with whether the loop is still there. -/
  | sends (session : Nat) (m : Message) (answer : Bool)
  | clonesSink (session : Nat)
  | dropsSink (session : Nat)

/-- The loop takes a turn, with any answer but that of the queue at hand, or somebody does something
with a sink of any session. -/
inductive Happens : Sessions → Event → Sessions → Prop where
  | turn {s : State} {answer : s.phase.Answer} {qs qs' : List Queue.Session} :
    Serves s answer qs qs' → Happens ⟨s, qs⟩ (.turn ⟨s, answer⟩) ⟨s.next answer, qs'⟩
  | sends {w : Sessions} {i : Nat} {q q' : Queue.Session} {m : Message} {answer : Bool} :
    w.queues[i]? = some q → 0 < q.senders → Queue.Session.offer q m = (some answer, q') →
      Happens w (.sends i m answer) {w with queues := w.queues.set i q'}
  | clonesSink {w : Sessions} {i : Nat} {q : Queue.Session} :
    w.queues[i]? = some q → 0 < q.senders →
      Happens w (.clonesSink i) {w with queues := w.queues.set i q.cloneSender}
  | dropsSink {w : Sessions} {i : Nat} {q : Queue.Session} :
    w.queues[i]? = some q → 0 < q.senders →
      Happens w (.dropsSink i) {w with queues := w.queues.set i q.dropSender}

/-- The loop has the receiver that its phase asks for, and no other is left. -/
def Kept (w : Sessions) : Prop := ∃ held, Sole w.queues held ∧ w.loop.phase.Holds held

section
variable {w v : Sessions} {e : Event} {es : List Event}

/-- No sink has a receiver. -/
theorem Kept.set (h : Kept w) {i : Nat} {q q' : Queue.Session} (hq : w.queues[i]? = some q)
    (hsame : q'.receivers = q.receivers) : Kept {w with queues := w.queues.set i q'} := by
  obtain ⟨held, hsole, hholds⟩ := h
  refine ⟨held, hsole.congr ?_, hholds⟩
  have hi : (w.queues.map (·.receivers))[i]? = some q.receivers := by
    rw [List.getElem?_map, hq]
    rfl
  obtain ⟨hlt, hget⟩ := List.getElem?_eq_some_iff.mp hi
  rw [List.map_set, hsame, ← hget]
  exact List.set_getElem_self hlt

theorem Happens.kept (hstep : Happens w e v) (h : Kept w) : Kept v := by
  cases hstep with
  | turn hserves =>
    obtain ⟨held, hsole, hholds⟩ := h
    exact hserves.sole hsole hholds
  | sends hq _ hoffer => exact h.set hq (Queue.Session.receivers_of_offer hoffer)
  | clonesSink hq | dropsSink hq => exact h.set hq rfl

/-- A sink of a queue that the loop has left does not wait, and is told so. -/
theorem happens_sends_iff {i : Nat} {q : Queue.Session} (hq : w.queues[i]? = some q)
    (hclosed : q.isClosed = true) (hsenders : 0 < q.senders) {m : Message} {answer : Bool} :
    (∃ v, Happens w (.sends i m answer) v) ↔ answer = false := by
  have hoffer : Queue.Session.offer q m = (some false, q) :=
    Queue.Session.offer_eq_false_iff.mpr ⟨beq_iff_eq.mp hclosed, rfl⟩
  constructor
  · intro h
    obtain ⟨v, hv⟩ := h
    cases hv with
    | sends hq' _ hoffer' =>
      cases hq.symm.trans hq'
      cases hoffer.symm.trans hoffer'
      rfl
  · intro h
    rw [h]
    exact ⟨_, .sends hq hsenders hoffer⟩

/-- **The loop leaves a session before it goes on.** Whatever comes of its requests and wherever the
switch is set: it has one receiver from before a request until it leaves the session, also if that is
refused, and none in between, in a pause, or when it is over. So whenever it asks for a session every
earlier one is closed, and between two sessions, and after the last, all are. What is sent through a
sink of a closed session does not wait, and is answered with false. -/
theorem leaves_before_next {initial longest : Duration} {capacity : Nat}
    (h : Steps Happens (start initial longest capacity) es w) :
    (∃ left, w.queues.map (·.receivers) =
      List.replicate left 0 ++ bif w.loop.phase.isBetween then [] else [1]) ∧
    (∀ q ∈ w.queues.dropLast, q.isClosed = true) ∧
    (w.loop.phase.isBetween = true → ∀ q ∈ w.queues, q.isClosed = true) ∧
    ∀ (i : Nat) (q : Queue.Session), w.queues[i]? = some q → q.isClosed = true → 0 < q.senders →
      ∀ m answer, (∃ v, Happens w (.sends i m answer) v) ↔ answer = false := by
  obtain ⟨held, hsole, hholds⟩ : Kept w :=
    h.invariant (fun _ _ _ => Happens.kept) ⟨false, ⟨0, rfl⟩, rfl⟩
  have hbetween := hholds.isBetween_eq
  refine ⟨?_, hsole.isClosed_of_mem_dropLast, fun hphase => ?_, fun i q hq hclosed hsenders m answer =>
    happens_sends_iff hq hclosed hsenders⟩
  · obtain ⟨left, hqs⟩ := hsole
    refine ⟨left, ?_⟩
    rw [hqs, hbetween]
    cases held <;> rfl
  · cases held with
    | false => exact hsole.isClosed_of_false
    | true => cases hbetween.symm.trans hphase

end

/-- A transport keeps a clone of the sink of a session that it refuses. In the pause after that the
receiver is gone. -/
theorem leaves_before_next_after_refusal :
    let s (phase : Phase) : State := ⟨phase, .new .zero .zero, 5⟩
    let attempt : List Event := [.turn ⟨s .connecting, false⟩, .turn ⟨s .preparing, ()⟩,
      .turn ⟨s (.reporting .opening .opening), ()⟩, .clonesSink 0, .dropsSink 0]
    let refusal : List Event := [.turn ⟨s .opening, .refused .transportClosed⟩,
      .turn ⟨s (.refused .transportClosed), false⟩,
      .turn ⟨s (.reporting (.openFailed .transportClosed) .failing), ()⟩,
      .turn ⟨s .failing, true⟩, .turn ⟨s .settling, ()⟩, .turn ⟨s .settled, false⟩,
      .turn ⟨s .drawing, .zero⟩, .turn ⟨s (.reporting (.waiting .zero) (.pausing .zero)), ()⟩]
    ∃ w, Steps Happens (start .zero .zero 5) (attempt ++ refusal) w ∧
      w.loop.phase = .pausing .zero ∧ (∀ q ∈ w.queues, q.isClosed = true) ∧
        ∃ v, Happens w (.sends 0 .complete false) v := by
  intro s attempt refusal
  let w (phase : Phase) (receivers : Nat) : Sessions := ⟨s phase, [⟨5, [], 1, receivers⟩]⟩
  have hattempt : Steps Happens (start .zero .zero 5) attempt (w .opening 1) :=
    .cons (.turn rfl) <| .cons (.turn rfl) <| .cons (.turn rfl) <|
      .cons (.clonesSink rfl Nat.zero_lt_one) <| .cons (.dropsSink rfl Nat.zero_lt_two) .nil
  have hrefusal : Steps Happens (w .opening 1) refusal (w (.pausing .zero) 0) :=
    .cons (.turn rfl) <| .cons (.turn rfl) <| .cons (.turn rfl) <| .cons (.turn rfl) <|
      .cons (.turn rfl) <| .cons (.turn rfl) <| .cons (.turn rfl) <| .cons (.turn rfl) .nil
  have hsteps : Steps Happens (start .zero .zero 5) (attempt ++ refusal) (w (.pausing .zero) 0) :=
    Steps.append_iff.mpr ⟨_, hattempt, hrefusal⟩
  obtain ⟨-, -, hclosed, hsends⟩ := leaves_before_next hsteps
  have hlast := hclosed rfl _ List.mem_cons_self
  exact ⟨_, hsteps, rfl, hclosed rfl, (hsends 0 _ rfl hlast Nat.zero_lt_one .complete false).mpr rfl⟩

end Sessions

end Reconnect

end SnapshotFeed
