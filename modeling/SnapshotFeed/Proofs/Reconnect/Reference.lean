import SnapshotFeed.Proofs.Config
import SnapshotFeed.Proofs.Reconnect.Course

/-! What the loop offers over a course of sessions.

`Outcome.offers` says it session by session, with no loop in sight. `rests_iff_capacity_le`: that is
what the loop offers, if the queue of a session can be made. `Comes` leads the loop from one point
of a course to another, first within a session, then from session to session; `Alike` pairs two
courses that differ in what stands behind a terminal message. -/
namespace SnapshotFeed.Reconnect

/-- What a response is worth to consumers: the full snapshot, if it is one. -/
def Message.snapshot? : Message → Option Payload
  | .response ⟨configuration, .all⟩ => some (.snapshot configuration)
  | _ => none

namespace Outcome

/-- What is offered of a session: its snapshots up to the first terminal message, and a notice
unless that message is the completion. -/
def offers : Outcome → List Payload
  | refused _ => [.retryNotice]
  | plays messages =>
    (messages.takeWhile (!·.isTerminal)).filterMap Message.snapshot? ++
      if messages.find? (·.isTerminal) = some .complete then [] else [.retryNotice]

/-- The session without what it sends after its first terminal message. -/
def upToTerminal : Outcome → Outcome
  | refused cause => refused cause
  | plays messages => plays (Message.upToTerminal messages)

theorem offers_nil : (plays []).offers = [.retryNotice] := by
  simp [offers]

theorem offers_response (r : Response) (rest : List Message) :
    (plays (.response r :: rest)).offers =
      (Message.snapshot? (.response r)).toList ++ (plays rest).offers := by
  cases h : Message.snapshot? (.response r) <;> simp [offers, h]

theorem offers_error (cause : StreamError) (rest : List Message) :
    (plays (.error cause :: rest)).offers = [.retryNotice] := by
  simp [offers]

theorem offers_complete (rest : List Message) : (plays (.complete :: rest)).offers = [] := by
  simp [offers]

end Outcome

/-! ### From turn to turn -/

section Course
variable {World : Type}

/-- Whatever the host is, the loop comes from one point to another and offers `ps` on the way. -/
def Comes (H : Host World) (last : PauseEnd) (s : State) (w : Course World) (ps : List Payload)
    (t : State) (v : Course World) : Prop :=
  ∀ host, ∃ host', (H.surroundings last).Leads (s, {w with host}) ps (t, {v with host := host'})

variable {H : Host World} {last : PauseEnd}

theorem Comes.refl {s : State} {w : Course World} : Comes H last s w [] s w :=
  fun host => ⟨host, .refl⟩

theorem Comes.trans {s t u : State} {w v x : Course World} {ps qs : List Payload}
    (h : Comes H last s w ps t v) (h' : Comes H last t v qs u x) :
    Comes H last s w (ps ++ qs) u x := by
  intro host
  obtain ⟨host₁, h₁⟩ := h host
  obtain ⟨host₂, h₂⟩ := h' host₁
  exact ⟨host₂, h₁.trans h₂⟩

theorem Comes.turn {s t : State} {w v x : Course World} {l : List Payload}
    (h : ∀ host, ∃ answer, H.answer last s {w with host} = some (answer, {v with host}) ∧
      Comes H last (s.next answer) v l t x) :
    Comes H last s w (s.phase.offer?.toList ++ l) t x := by
  intro host
  obtain ⟨answer, hanswer, hcomes⟩ := h host
  obtain ⟨host', hleads⟩ := hcomes (H.pass s host)
  refine ⟨host', .step ?_ hleads⟩
  simp only [Host.surroundings, hanswer, Option.map_some]

theorem Comes.rests {s t : State} {w v : Course World} {ps : List Payload}
    (h : Comes H last s w ps t v)
    (hrest : ∀ host, (H.surroundings last).step (t, {v with host}) = none) :
    (H.surroundings last).Rests (s, w) t.phase ps := by
  obtain ⟨host, hleads⟩ := h w.host
  exact hleads.rests (hrest host)

variable {b : Backoff} {capacity : Nat} {coming : List Outcome} {sending : List Message}
  {world : World}

theorem comes_reporting (notice : Notice) (after : Phase) (w : Course World) :
    Comes H last ⟨.reporting notice after, b, capacity⟩ w [] ⟨after, b, capacity⟩ w :=
  .turn fun _ => ⟨(), rfl, .refl⟩

theorem comes_settling (w : Course World) :
    Comes H last ⟨.settling, b, capacity⟩ w [] ⟨.settled, b, capacity⟩ w :=
  .turn fun _ => ⟨(), rfl, .refl⟩

/-- A failed session costs one notice, whether it is accepted or not. -/
theorem comes_failing (w : Course World) :
    Comes H last ⟨.failing, b, capacity⟩ w [.retryNotice] ⟨.settled, b, capacity⟩ w := by
  refine .turn (l := []) fun host => ⟨H.accepts .retryNotice host, rfl, ?_⟩
  cases H.accepts .retryNotice host
  · exact (comes_reporting _ _ w).trans (comes_settling w)
  · exact comes_settling w

/-- The loop takes the next message, the switch not being set. -/
theorem comes_message (m : Message) :
    Comes H last ⟨.streaming, b, capacity⟩ ⟨coming, m :: sending, false, world⟩ []
      (State.handle ⟨.received (some m), b, capacity⟩ m) ⟨coming, sending, false, world⟩ :=
  .turn (v := ⟨coming, m :: sending, false, world⟩) fun _ => ⟨false, rfl,
    .turn (v := ⟨coming, sending, false, world⟩) fun _ => ⟨some m, rfl,
      .turn fun _ => ⟨false, rfl, .refl⟩⟩⟩

/-- A response leaves the session open and the backoff reset. -/
theorem comes_response (r : Response) :
    Comes H last ⟨.streaming, b, capacity⟩ ⟨coming, .response r :: sending, false, world⟩
      (Message.snapshot? (.response r)).toList ⟨.streaming, b.reset, capacity⟩
      ⟨coming, sending, false, world⟩ := by
  refine (comes_message (.response r)).trans ?_
  obtain ⟨configuration, state⟩ := r
  cases state with
  | all =>
    refine .turn (l := []) fun host => ⟨H.accepts (.snapshot configuration) host, rfl, ?_⟩
    cases H.accepts (.snapshot configuration) host
    · exact comes_reporting _ _ _
    · exact .refl
  | _ => exact comes_reporting _ _ _

/-- A session from its opening to its end. -/
theorem comes_session (messages : List Message) :
    ∃ b' rest, (b' = b ∨ b' = b.reset) ∧
      Comes H last ⟨.streaming, b, capacity⟩ ⟨coming, messages, false, world⟩
        (Outcome.plays messages).offers ⟨.settled, b', capacity⟩ ⟨coming, rest, false, world⟩ := by
  induction messages generalizing b with
  | nil =>
    refine ⟨b, [], .inl rfl, ?_⟩
    rw [Outcome.offers_nil]
    -- The loop takes the end of the session for a message: an error.
    exact .turn fun _ => ⟨false, rfl, .turn fun _ => ⟨none, rfl, .turn fun _ => ⟨false, rfl,
      (comes_reporting _ _ _).trans (comes_failing _)⟩⟩⟩
  | cons m rest ih =>
    cases m with
    | response r =>
      obtain ⟨b', rest', hb, hcomes⟩ := ih (b := b.reset)
      refine ⟨b', rest', .inr (hb.elim id id), ?_⟩
      rw [Outcome.offers_response]
      exact (comes_response r).trans hcomes
    | error cause =>
      refine ⟨b, rest, .inl rfl, ?_⟩
      rw [Outcome.offers_error]
      exact (comes_message _).trans ((comes_reporting _ _ _).trans (comes_failing _))
    | complete =>
      refine ⟨b, rest, .inl rfl, ?_⟩
      rw [Outcome.offers_complete]
      exact (comes_message _).trans ((comes_reporting _ _ _).trans (comes_settling _))

/-! ### From session to session -/

theorem prepare_of_le {s : State} (hpos : 0 < s.capacity)
    (hle : s.capacity ≤ Queue.largestCapacity) :
    s.prepare = s.go (.reporting .opening .opening) := by
  have hzero : s.capacity ≠ 0 := by omega
  have hlarge : ¬Queue.largestCapacity < s.capacity := by omega
  simp only [State.prepare, Queue.Session.new, if_neg hzero, if_neg hlarge]

theorem prepare_of_lt {s : State} (hlt : Queue.largestCapacity < s.capacity) :
    s.prepare = s.go (.crashed (.queue .tooLarge)) := by
  have hzero : s.capacity ≠ 0 := by omega
  simp only [State.prepare, Queue.Session.new, if_neg hzero, if_pos hlt]

/-- A session is asked for. -/
theorem comes_opening (hpos : 0 < capacity) (hle : capacity ≤ Queue.largestCapacity) :
    Comes H last ⟨.connecting, b, capacity⟩ ⟨coming, sending, false, world⟩ []
      ⟨.opening, b, capacity⟩ ⟨coming, sending, false, world⟩ := by
  refine .turn fun _ => ⟨false, rfl, .turn (l := []) fun _ => ⟨(), rfl, ?_⟩⟩
  show Comes H last (State.prepare ⟨.preparing, b, capacity⟩) _ _ _ _
  rw [prepare_of_le hpos hle]
  exact comes_reporting _ _ _

/-- What comes of the next session, from the look before it to the look after it. -/
theorem comes_outcome (hpos : 0 < capacity) (hle : capacity ≤ Queue.largestCapacity)
    (outcome : Outcome) :
    ∃ b' rest, (b' = b ∨ b' = b.reset) ∧
      Comes H last ⟨.connecting, b, capacity⟩ ⟨outcome :: coming, sending, false, world⟩
        outcome.offers ⟨.settled, b', capacity⟩ ⟨coming, rest, false, world⟩ := by
  suffices ∃ b' rest, (b' = b ∨ b' = b.reset) ∧
      Comes H last ⟨.opening, b, capacity⟩ ⟨outcome :: coming, sending, false, world⟩
        outcome.offers ⟨.settled, b', capacity⟩ ⟨coming, rest, false, world⟩ by
    obtain ⟨b', rest, hb, hcomes⟩ := this
    exact ⟨b', rest, hb, (comes_opening hpos hle).trans hcomes⟩
  cases outcome with
  | refused cause =>
    refine ⟨b, sending, .inl rfl, ?_⟩
    exact .turn (v := ⟨coming, sending, false, world⟩) fun _ => ⟨.refused cause, rfl,
      .turn fun _ => ⟨false, rfl, (comes_reporting _ _ _).trans (comes_failing _)⟩⟩
  | plays messages =>
    obtain ⟨b', rest, hb, hcomes⟩ := comes_session messages
    exact ⟨b', rest, hb, .turn fun _ => ⟨.opened, rfl, hcomes⟩⟩

/-! ### The pauses between sessions -/

/-- Between two sessions the loop pauses, and draws a jitter for that. -/
theorem comes_pausing {c : Config} (hfit : c.DelaysFit) (hb : c.Allows b) {w : Course World}
    (hset : w.isSet = false) {ps : List Payload} {t : State} {v : Course World}
    (h : ∀ delay, Comes H last ⟨.pausing delay, b.grow, capacity⟩ w ps t v) :
    Comes H last ⟨.settled, b, capacity⟩ w ps t v := by
  refine .turn fun host => ⟨false, by rw [← hset]; rfl, ?_⟩
  refine .turn (l := ps) fun host => ⟨(H.draw b host).1, rfl, ?_⟩
  obtain ⟨delay, hnext⟩ := hb.next?_eq_some hfit (H.draw b host).2
  show Comes H last (State.pauseAfter ⟨.drawing, b, capacity⟩ (H.draw b host).1) w ps t v
  rw [State.pauseAfter, hnext]
  exact (comes_reporting _ _ w).trans (h delay)

theorem comes_next_session {c : Config} (hfit : c.DelaysFit) (hb : c.Allows b) (outcome : Outcome) :
    Comes H last ⟨.settled, b, capacity⟩ ⟨outcome :: coming, sending, false, world⟩ []
      ⟨.connecting, b.grow, capacity⟩ ⟨outcome :: coming, sending, false, world⟩ :=
  comes_pausing hfit hb rfl fun _ => .turn fun _ => ⟨.elapsed, rfl, .refl⟩

/-- The last pause sets the switch; if it passes, the loop looks before it asks for a session. -/
theorem comes_end {c : Config} (hfit : c.DelaysFit) (hb : c.Allows b) :
    Comes H last ⟨.settled, b, capacity⟩ ⟨[], sending, false, world⟩ []
      ⟨.ended, b.grow, capacity⟩ ⟨[], sending, true, world⟩ := by
  refine comes_pausing hfit hb rfl fun _ => .turn (v := ⟨[], sending, true, world⟩)
    fun _ => ⟨last, rfl, ?_⟩
  cases last with
  | elapsed => exact .turn fun _ => ⟨true, rfl, comes_reporting _ _ _⟩
  | stopped => exact comes_reporting _ _ _

theorem allows_of_session {c : Config} (hvalid : c.validate = .ok ()) (hb : c.Allows b)
    {b' : Backoff} (h : b' = b ∨ b' = b.reset) : c.Allows b' := by
  rcases h with rfl | rfl
  · exact hb
  · exact hb.reset hvalid

/-- A whole course, from the look before its first session. -/
theorem comes_course {c : Config} (hvalid : c.validate = .ok ()) (hfit : c.DelaysFit)
    (hpos : 0 < capacity) (hle : capacity ≤ Queue.largestCapacity) (hb : c.Allows b)
    (outcome : Outcome) (coming : List Outcome) :
    ∃ b' rest, Comes H last ⟨.connecting, b, capacity⟩ ⟨outcome :: coming, sending, false, world⟩
      ((outcome :: coming).flatMap Outcome.offers)
      ⟨.ended, b', capacity⟩ ⟨[], rest, true, world⟩ := by
  induction coming generalizing b sending outcome with
  | nil =>
    obtain ⟨b', rest, hb', hcomes⟩ := comes_outcome hpos hle outcome
    have hallows := allows_of_session hvalid hb hb'
    refine ⟨b'.grow, rest, ?_⟩
    simpa using hcomes.trans (comes_end hfit hallows)
  | cons next coming ih =>
    obtain ⟨b', rest, hb', hcomes⟩ := comes_outcome hpos hle outcome
    have hallows := allows_of_session hvalid hb hb'
    obtain ⟨b'', rest', hrest⟩ := ih hallows.grow next
    refine ⟨b'', rest', ?_⟩
    rw [List.flatMap_cons]
    exact hcomes.trans ((comes_next_session hfit hallows next).trans hrest)

/-- No session is ever asked for if its queue cannot be made. -/
theorem comes_crash (hlt : Queue.largestCapacity < capacity) :
    Comes H last ⟨.connecting, b, capacity⟩ ⟨coming, sending, false, world⟩ []
      ⟨.crashed (.queue .tooLarge), b, capacity⟩ ⟨coming, sending, false, world⟩ := by
  refine .turn fun _ => ⟨false, rfl, .turn (l := []) fun _ => ⟨(), rfl, ?_⟩⟩
  show Comes H last (State.prepare ⟨.preparing, b, capacity⟩) _ _ _ _
  rw [prepare_of_lt hlt]
  exact .refl

end Course

/-! ### What stands behind a terminal message -/

/-- The session at hand may still be asked for a message. -/
def Phase.isOpen : Phase → Bool
  | reporting _ after | releasing after => after.isOpen
  | streaming | receiving | delivering _ | received (some (.response _)) => true
  | _ => false

section Alike
variable {World : Type}

/-- Two courses that differ in what no one will hear. -/
structure Alike (s : State) (w v : Course World) : Prop where
  coming : v.coming = w.coming.map Outcome.upToTerminal
  isSet : v.isSet = w.isSet
  host : v.host = w.host
  sending : s.phase.isOpen = true → v.sending = Message.upToTerminal w.sending

/-- A closed phase leads on to a closed phase. -/
theorem Alike.closed {s t : State} {w v : Course World} (h : Alike s w v)
    (hclosed : t.phase.isOpen = false) : Alike t w v :=
  ⟨h.coming, h.isSet, h.host, fun hopen => by rw [hclosed] at hopen; cases hopen⟩

theorem Alike.kept {s t : State} {w v : Course World} (h : Alike s w v)
    (hopen : t.phase.isOpen = true → s.phase.isOpen = true) : Alike t w v :=
  ⟨h.coming, h.isSet, h.host, fun ht => h.sending (hopen ht)⟩

variable (H : Host World) (last : PauseEnd)

/-- Alike courses give the same answer and stay alike. -/
theorem Alike.answer {s : State} {w v : Course World} (h : Alike s w v) :
    H.answer last s w = none ∧ H.answer last s v = none ∨
      ∃ answer w' v', H.answer last s w = some (answer, w') ∧
        H.answer last s v = some (answer, v') ∧ Alike (s.next answer) w' v' := by
  obtain ⟨phase, b, capacity⟩ := s
  have hset := h.isSet
  have hhost := h.host
  cases phase with
  | connecting | settled | refused cause =>
    refine .inr ⟨w.isSet, w, v, rfl, by rw [← hset]; rfl, h.closed ?_⟩
    cases w.isSet <;> rfl
  | streaming =>
    refine .inr ⟨w.isSet, w, v, rfl, by rw [← hset]; rfl, h.kept fun _ => rfl⟩
  | received message =>
    refine .inr ⟨w.isSet, w, v, rfl, by rw [← hset]; rfl, ?_⟩
    cases message with
    | none => exact h.closed (by cases w.isSet <;> rfl)
    | some m =>
      cases m with
      | response r => exact h.kept fun _ => rfl
      | _ => exact h.closed (by cases w.isSet <;> rfl)
  | preparing =>
    refine .inr ⟨(), w, v, rfl, rfl, h.closed ?_⟩
    show (State.prepare _).phase.isOpen = false
    unfold State.prepare
    split <;> rfl
  | reporting notice after | releasing after =>
    exact .inr ⟨(), w, v, rfl, rfl, h.kept id⟩
  | opening =>
    obtain ⟨coming, sending, isSet, host⟩ := w
    obtain ⟨coming', sending', isSet', host'⟩ := v
    obtain rfl : coming' = coming.map Outcome.upToTerminal := h.coming
    cases coming with
    | nil => exact .inl ⟨rfl, rfl⟩
    | cons outcome coming =>
      cases outcome with
      | refused cause =>
        exact .inr ⟨.refused cause, _, _, rfl, rfl, rfl, hset, hhost, fun hopen => by cases hopen⟩
      | plays messages => exact .inr ⟨.opened, _, _, rfl, rfl, rfl, hset, hhost, fun _ => rfl⟩
  | receiving =>
    obtain ⟨coming, sending, isSet, host⟩ := w
    obtain ⟨coming', sending', isSet', host'⟩ := v
    obtain rfl : sending' = Message.upToTerminal sending := h.sending rfl
    cases sending with
    | nil => exact .inr ⟨none, _, _, rfl, rfl, h.closed rfl⟩
    | cons m rest =>
      cases m with
      | response r =>
        exact .inr ⟨some (.response r), _, _, rfl, rfl, h.coming, hset, hhost, fun _ => rfl⟩
      | error cause =>
        exact .inr ⟨some (.error cause), _, _, rfl, rfl, h.coming, hset, hhost,
          fun hopen => by cases hopen⟩
      | complete =>
        exact .inr ⟨some .complete, _, _, rfl, rfl, h.coming, hset, hhost,
          fun hopen => by cases hopen⟩
  | delivering payload =>
    exact .inr ⟨H.accepts payload w.host, w, v, rfl, by rw [← hhost]; rfl, h.kept fun _ => rfl⟩
  | notifying payload =>
    refine .inr ⟨H.accepts payload w.host, w, v, rfl, by rw [← hhost]; rfl, h.closed ?_⟩
    cases H.accepts payload w.host <;> rfl
  | drawing =>
    refine .inr ⟨(H.draw b w.host).1, w, v, rfl, by rw [← hhost]; rfl, h.closed ?_⟩
    show (State.pauseAfter _ _).phase.isOpen = false
    unfold State.pauseAfter
    split <;> rfl
  | pausing delay =>
    obtain ⟨coming, sending, isSet, host⟩ := w
    obtain ⟨coming', sending', isSet', host'⟩ := v
    obtain rfl : coming' = coming.map Outcome.upToTerminal := h.coming
    cases coming with
    | nil =>
      refine .inr ⟨last, _, _, rfl, rfl, rfl, rfl, hhost, fun hopen => ?_⟩
      cases last <;> cases hopen
    | cons outcome coming =>
      exact .inr ⟨.elapsed, _, _, rfl, rfl, rfl, hset, hhost, fun hopen => by cases hopen⟩
  | ended | crashed cause => exact .inl ⟨rfl, rfl⟩

theorem Alike.turns_eq (n : Nat) {s : State} {w v : Course World} (h : Alike s w v) :
    (H.surroundings last).turns n (s, w) = (H.surroundings last).turns n (s, v) := by
  induction n generalizing s w v with
  | zero => rfl
  | succ n ih =>
    rcases h.answer H last with ⟨hw, hv⟩ | ⟨answer, w', v', hw, hv, halike⟩
    · simp only [Surroundings.turns, Host.surroundings, hw, hv, Option.map_none]
    · simp only [Surroundings.turns, Host.surroundings, hw, hv, Option.map_some, List.cons.injEq,
        true_and]
      exact ih ⟨halike.coming, halike.isSet, by rw [halike.host], halike.sending⟩

end Alike

/-! ### The whole run -/

section Course
variable {World : Type} {H : Host World} {last : PauseEnd} {world : World} {c : Config}

theorem rests_of_le (hvalid : c.validate = .ok ()) (hfit : c.DelaysFit)
    (hle : c.receiveQueueCapacity ≤ Queue.largestCapacity) (sessions : List Outcome) :
    (H.surroundings last).Rests (Course.start c sessions world) (Course.leaves sessions)
      (sessions.flatMap Outcome.offers) := by
  have hpos := (Config.validate_eq_ok_iff.mp hvalid).1
  cases sessions with
  | nil => exact Comes.rests (w := .new [] world) (comes_opening hpos hle) fun _ => rfl
  | cons outcome coming =>
    obtain ⟨b, rest, hcomes⟩ := comes_course (H := H) hvalid hfit hpos hle
      (Config.allows_new hvalid) outcome coming
    exact Comes.rests (w := .new (outcome :: coming) world) hcomes fun _ =>
      H.step_of_isFinal last rfl _

theorem rests_of_lt (hlt : Queue.largestCapacity < c.receiveQueueCapacity)
    (sessions : List Outcome) :
    (H.surroundings last).Rests (Course.start c sessions world) (.crashed (.queue .tooLarge)) [] :=
  Comes.rests (w := .new sessions world) (comes_crash hlt) fun _ => H.step_of_isFinal last rfl _

theorem not_rests_of_lt (hlt : Queue.largestCapacity < c.receiveQueueCapacity)
    (sessions : List Outcome) (ps : List Payload) :
    ¬(H.surroundings last).Rests (Course.start c sessions world) (Course.leaves sessions) ps := by
  intro h
  have hphase := h.unique (rests_of_lt hlt sessions)
  cases sessions <;> cases hphase

end Course

/-- **Over any course the loop offers what its sessions are worth, one after another**, and then
ends (or waits, if the course has no session), exactly if the queue of a session can be made. What a
session sends after its first terminal message makes no difference to any turn. If the queue cannot
be made, the loop crashes before the first session and offers nothing. -/
theorem rests_iff_capacity_le {World : Type} (H : Host World) (last : PauseEnd) (world : World)
    {c : Config} (hvalid : c.validate = .ok ()) (hfit : c.DelaysFit) (sessions : List Outcome) :
    ((H.surroundings last).Rests (Course.start c sessions world) (Course.leaves sessions)
        (sessions.flatMap Outcome.offers) ↔ c.receiveQueueCapacity ≤ Queue.largestCapacity) ∧
      (∀ n, (H.surroundings last).turns n (Course.start c sessions world) =
        (H.surroundings last).turns n
          (Course.start c (sessions.map Outcome.upToTerminal) world)) ∧
      (Queue.largestCapacity < c.receiveQueueCapacity →
        (H.surroundings last).Rests (Course.start c sessions world)
          (.crashed (.queue .tooLarge)) []) := by
  refine ⟨⟨fun hrests => ?_, fun hle => rests_of_le hvalid hfit hle sessions⟩, fun n => ?_,
    fun hlt => rests_of_lt hlt sessions⟩
  · exact Nat.not_lt.mp fun hlt => not_rests_of_lt hlt sessions _ hrests
  · exact Alike.turns_eq H last n ⟨rfl, rfl, rfl, fun hopen => by cases hopen⟩

/-- Two sessions, the second refused. The snapshot after the completion is worth nothing. -/
theorem rests_after_two_sessions :
    (Host.idle.surroundings .elapsed).Rests (Course.start .standard
        [.plays [.response ⟨"v1", .all⟩, .response ⟨"", .ping⟩, .complete, .response ⟨"v2", .all⟩],
          .refused .transportClosed] (Queue.Bounded.new 1))
      .ended [.snapshot "v1", .retryNotice] :=
  (rests_iff_capacity_le Host.idle .elapsed (Queue.Bounded.new 1) rfl
    (Config.delaysFit_of_le (by decide)) _).1.mpr (by decide)

/-- An accepted configuration whose queue cannot be made. -/
theorem not_rests_of_oversized_queue :
    let c : Config := {Config.standard with receiveQueueCapacity := Queue.largestCapacity + 1}
    c.validate = .ok () ∧ c.DelaysFit ∧
      ¬(Host.idle.surroundings .stopped).Rests (Course.start c [.plays []] (Queue.Bounded.new 5))
        .ended ([Outcome.plays []].flatMap Outcome.offers) :=
  ⟨rfl, Config.delaysFit_of_le (by decide), not_rests_of_lt (by decide) [.plays []] _⟩

end SnapshotFeed.Reconnect
