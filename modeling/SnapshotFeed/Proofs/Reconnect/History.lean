import SnapshotFeed.Proofs.Steps
import SnapshotFeed.Reconnect.Loop

/-! Histories of the loop.

A history is what the loop asked and what it was told, turn by turn. Nothing is assumed of the
answers: whoever answers may be any transport, any consumer and any clock. What a theorem wants of
them it says of the turns, so a point of time is a place between two turns. -/
namespace SnapshotFeed.Reconnect

namespace State
variable (s : State)

theorem handle_of_all {r : Response} (hall : r.state = .all) :
    s.handle (.response r) = s.go (.delivering (.snapshot r.flagConfiguration)) := by
  simp only [handle, Message.classify, if_pos hall]

theorem handle_of_ne_all {r : Response} (hall : r.state ≠ .all) :
    s.handle (.response r) = s.healthy (.reporting (.ignored r.state) .streaming) := by
  simp only [handle, Message.classify, if_neg hall]

/-- All that a message can lead to. -/
theorem handle_cases (m : Message) :
    (∃ r, m = .response r ∧ s.handle m = s.go (.delivering (.snapshot r.flagConfiguration))) ∨
      (∃ r, m = .response r ∧ s.handle m = s.healthy (.reporting (.ignored r.state) .streaming)) ∨
      (∃ cause, m = .error cause ∧
        s.handle m = s.go (.reporting (.streamFailed cause s.backoff.current) .failing)) ∨
      m = .complete ∧ s.handle m = s.go (.reporting .completed .settling) := by
  cases m with
  | response r =>
    by_cases hall : r.state = .all
    · exact .inl ⟨r, rfl, s.handle_of_all hall⟩
    · exact .inr (.inl ⟨r, rfl, s.handle_of_ne_all hall⟩)
  | error cause => exact .inr (.inr (.inl ⟨cause, rfl, rfl⟩))
  | complete => exact .inr (.inr (.inr ⟨rfl, rfl⟩))

/-- A session that has left is handled like an error. -/
theorem next_received_of_unset (message : Option Message) (b : Backoff) (capacity : Nat) :
    State.next ⟨.received message, b, capacity⟩ false =
      State.handle ⟨.received message, b, capacity⟩ (message.getD (.error .disconnected)) := by
  cases message <;> rfl

end State

/-- What the loop hands to consumers in a phase. -/
def Phase.offer? : Phase → Option Payload
  | delivering p | notifying p => some p
  | _ => none

/-- A turn of the loop: the state that asks, and the answer. -/
structure Turn where
  state : State
  answer : state.phase.Answer

/-- The state after a turn. -/
def Turn.after (t : Turn) : State := t.state.next t.answer

/-- What the loop offered, in order, whether it was accepted or not. -/
def offered (ts : List Turn) : List Payload := ts.filterMap (·.state.phase.offer?)

/-- The message the loop handles in a turn: the one in its hand, or the error it makes of a session
that has left. If it finds the switch set, it handles none. -/
def Turn.handled? : Turn → Option Message
  | ⟨⟨.received message, _, _⟩, isSet⟩ =>
    bif isSet then none else some (message.getD (.error .disconnected))
  | _ => none

/-- The jitter drawn in a turn. -/
def Turn.drawn? : Turn → Option Duration
  | ⟨⟨.drawing, _, _⟩, jitter⟩ => some jitter
  | _ => none

def Turn.isPause (t : Turn) : Bool :=
  match t.state.phase with
  | .pausing _ => true
  | _ => false

/-- A turn takes the loop from the state that asks to the one after it. -/
def Turn.Takes (s : State) (t : Turn) (u : State) : Prop := t.state = s ∧ t.after = u

/-- Turns that follow each other from one state to another. -/
abbrev History : State → List Turn → State → Prop := Steps Turn.Takes

/-! ### Histories that surroundings make -/

namespace Surroundings
variable {World : Type} (E : Surroundings World)

/-- The turns of so many answers, fewer if the loop waits or is over before. -/
def turns : Nat → State × World → List Turn
  | 0, _ => []
  | n + 1, (s, w) =>
    match E.answer s w with
    | none => []
    | some (answer, w) => ⟨s, answer⟩ :: turns n (s.next answer, w)

theorem run_add (m n : Nat) (s : State × World) : E.run (m + n) s = E.run n (E.run m s) := by
  induction m generalizing s with
  | zero => rw [Nat.zero_add, run]
  | succ m ih =>
    rw [Nat.add_right_comm]
    cases h : E.step s with
    | none => rw [E.run_of_step_none h, E.run_of_step_none h, E.run_of_step_none h]
    | some t => rw [E.run_succ_of_step h, E.run_succ_of_step h, ih]

theorem history_turns (n : Nat) (s : State × World) : History s.1 (E.turns n s) (E.run n s).1 := by
  induction n generalizing s with
  | zero => exact .nil
  | succ n ih =>
    obtain ⟨s, w⟩ := s
    cases h : E.answer s w with
    | none =>
      simp only [turns, run, step, h, Option.map_none]
      exact .nil
    | some found =>
      simp only [turns, run, step, h, Option.map_some]
      exact .cons ⟨rfl, rfl⟩ (ih (s.next found.1, found.2))

/-- The loop comes from one point to another, and offers `ps` on the way. -/
inductive Leads : State × World → List Payload → State × World → Prop where
  | refl {s : State × World} : Leads s [] s
  | step {s : State} {w v : World} {answer : s.phase.Answer} {ps : List Payload}
    {t : State × World} : E.answer s w = some (answer, v) → Leads (s.next answer, v) ps t →
      Leads (s, w) (s.phase.offer?.toList ++ ps) t

variable {E}

theorem Leads.trans {s t u : State × World} {ps qs : List Payload} (h : E.Leads s ps t)
    (h' : E.Leads t qs u) : E.Leads s (ps ++ qs) u := by
  induction h with
  | refl => exact h'
  | step hanswer _ ih =>
    rw [List.append_assoc]
    exact .step hanswer (ih h')

theorem Leads.exists_run {s t : State × World} {ps : List Payload} (h : E.Leads s ps t) :
    ∃ n, E.run n s = t ∧ offered (E.turns n s) = ps := by
  induction h with
  | refl => exact ⟨0, rfl, rfl⟩
  | @step s w v answer ps t hanswer _ ih =>
    obtain ⟨n, hrun, hturns⟩ := ih
    refine ⟨n + 1, ?_, ?_⟩
    · simp only [run, Surroundings.step, hanswer, Option.map_some]
      exact hrun
    · simp only [turns, hanswer, ← hturns]
      cases h : s.phase.offer? <;> simp [offered, h]

variable (E) in
/-- The loop comes to rest in a phase, waiting or over, and has offered `ps` by then. -/
def Rests (s : State × World) (phase : Phase) (ps : List Payload) : Prop :=
  ∃ n, E.step (E.run n s) = none ∧ (E.run n s).1.phase = phase ∧ offered (E.turns n s) = ps

theorem Leads.rests {s t : State × World} {ps : List Payload} (h : E.Leads s ps t)
    (hrest : E.step t = none) : E.Rests s t.1.phase ps := by
  obtain ⟨n, rfl, hoffered⟩ := h.exists_run
  exact ⟨n, hrest, rfl, hoffered⟩

/-- The loop comes to rest once. -/
theorem Rests.unique {s : State × World} {p q : Phase} {ps qs : List Payload} (h : E.Rests s p ps)
    (h' : E.Rests s q qs) : p = q := by
  obtain ⟨m, hm, rfl, -⟩ := h
  obtain ⟨n, hn, rfl, -⟩ := h'
  have hmn := E.run_add m n s
  rw [Nat.add_comm, run_add, E.run_of_step_none hm, E.run_of_step_none hn] at hmn
  rw [hmn]

end Surroundings

end SnapshotFeed.Reconnect
