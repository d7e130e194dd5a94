import SnapshotFeed.Proofs.Reconnect.Pace
import SnapshotFeed.Proofs.Reconnect.Reference

/-! What breaks the worker.

The transport may be to blame (`Turn.IsFair` rules that out), and else the loop does itself what has
no answer: it makes a queue of a capacity that no queue can have, or adds a jitter to a delay and
leaves the durations. An accepted configuration excludes neither. `never_crashes_iff` says which
ones do. The delay grows to its cap if no session ever opens (`reaches_grown`), so the cap is what
counts, however far the first delay is from it. -/
namespace SnapshotFeed.Reconnect

/-- The loop of a configuration before its first turn. -/
def State.ofConfig (c : Config) : State :=
  .start c.initialBackoff c.maxBackoff c.receiveQueueCapacity

/-- The transport does not break, and a jitter is one that may be drawn. -/
def Turn.IsFair : Turn → Prop
  | ⟨⟨.opening, _, _⟩, opening⟩ => ∀ reason, opening ≠ .broke reason
  | ⟨⟨.drawing, b, _⟩, jitter⟩ => b.Admits jitter
  | _ => True

/-- There is a history from one state to another, every turn of it fair. -/
def Reaches (s u : State) : Prop := ∃ ts, History s ts u ∧ ∀ t ∈ ts, t.IsFair

namespace Reaches
variable {s t u : State}

theorem refl : Reaches s s := ⟨[], .nil, fun _ h => nomatch h⟩

theorem turn (answer : s.phase.Answer) (hfair : Turn.IsFair ⟨s, answer⟩)
    (h : Reaches (s.next answer) u) : Reaches s u := by
  obtain ⟨ts, hts, hall⟩ := h
  exact ⟨⟨s, answer⟩ :: ts, .cons ⟨rfl, rfl⟩ hts, List.forall_mem_cons.mpr ⟨hfair, hall⟩⟩

theorem trans (h : Reaches s t) (h' : Reaches t u) : Reaches s u := by
  obtain ⟨before, hbefore, hfair⟩ := h
  obtain ⟨after, hafter, hfair'⟩ := h'
  exact ⟨before ++ after, Steps.append_iff.mpr ⟨t, hbefore, hafter⟩,
    List.forall_mem_append.mpr ⟨hfair, hfair'⟩⟩

/-- What every fair turn keeps holds of all that is reached. -/
theorem invariant {P : State → Prop} (hstep : ∀ t : Turn, t.IsFair → P t.state → P t.after)
    (h : Reaches s u) (hs : P s) : P u := by
  obtain ⟨ts, hts, hfair⟩ := h
  induction hts with
  | nil => exact hs
  | @cons _ _ _ t _ htakes _ ih =>
    obtain ⟨rfl, rfl⟩ := htakes
    obtain ⟨hfirst, hrest⟩ := List.forall_mem_cons.mp hfair
    exact ih (hstep t hfirst hs) hrest

end Reaches

/-! ### Where nothing breaks -/

/-- The worker is not broken, and not about to break. -/
def Phase.isIntact : Phase → Bool
  | reporting _ after | releasing after => after.isIntact
  | crashed _ => false
  | _ => true

/-- The loop of a configuration, before anything of it breaks. -/
structure Intact (c : Config) (s : State) : Prop where
  capacity : s.capacity = c.receiveQueueCapacity
  allows : c.Allows s.backoff
  phase : s.phase.isIntact = true

namespace Intact
variable {c : Config} {s : State}

theorem go (h : Intact c s) {phase : Phase} (hphase : phase.isIntact = true) :
    Intact c (s.go phase) :=
  ⟨h.capacity, h.allows, hphase⟩

theorem healthy (hvalid : c.validate = .ok ()) (h : Intact c s) {phase : Phase}
    (hphase : phase.isIntact = true) : Intact c (s.healthy phase) :=
  ⟨h.capacity, h.allows.reset hvalid, hphase⟩

theorem handle (hvalid : c.validate = .ok ()) (h : Intact c s) (m : Message) :
    Intact c (s.handle m) := by
  cases m with
  | response r =>
    by_cases hstate : r.state = .all
    · simp only [State.handle, Message.classify, if_pos hstate]
      exact h.go rfl
    · simp only [State.handle, Message.classify, if_neg hstate]
      exact h.healthy hvalid rfl
  | error cause => exact h.go rfl
  | complete => exact h.go rfl

/-- The queue can be made. -/
theorem prepare (hvalid : c.validate = .ok ())
    (hcapacity : c.receiveQueueCapacity ≤ Queue.largestCapacity) (h : Intact c s) :
    Intact c s.prepare := by
  have hpos : 0 < c.receiveQueueCapacity := (Config.validate_eq_ok_iff.mp hvalid).1
  rw [← h.capacity] at hpos hcapacity
  rw [prepare_of_le hpos hcapacity]
  exact h.go rfl

/-- The delay can be paused for. -/
theorem pauseAfter (hfit : c.DelaysFit) (h : Intact c s) {jitter : Duration}
    (hjitter : s.backoff.Admits jitter) : Intact c (s.pauseAfter jitter) := by
  obtain ⟨delay, hnext⟩ := h.allows.next?_eq_some hfit hjitter
  rw [State.pauseAfter, hnext]
  exact ⟨h.capacity, h.allows.grow, rfl⟩

theorem after (hvalid : c.validate = .ok ())
    (hcapacity : c.receiveQueueCapacity ≤ Queue.largestCapacity) (hfit : c.DelaysFit) {t : Turn}
    (hfair : t.IsFair) (h : Intact c t.state) : Intact c t.after := by
  obtain ⟨⟨phase, b, capacity⟩, answer⟩ := t
  cases phase with
  | preparing => exact h.prepare hvalid hcapacity
  | drawing => exact h.pauseAfter hfit hfair
  | opening =>
    cases answer with
    | broke reason => exact absurd rfl (hfair reason)
    | _ => exact h.go rfl
  | received message =>
    cases answer with
    | true => cases message <;> exact h.go rfl
    | false =>
      cases message with
      | none => exact h.handle hvalid (.error .disconnected)
      | some m => exact h.handle hvalid m
  | delivering payload => cases answer <;> exact h.healthy hvalid rfl
  | reporting notice next | releasing next => exact h.go h.phase
  | receiving => exact h.go rfl
  | ended | crashed cause => exact answer.elim
  | _ => cases answer <;> exact h.go rfl

end Intact

theorem intact_start {c : Config} (hvalid : c.validate = .ok ()) :
    Intact c (.ofConfig c) :=
  ⟨rfl, Config.allows_new hvalid, rfl⟩

/-! ### Where something does -/

theorem reaches_crash_of_lt {b : Backoff} {capacity : Nat}
    (hlt : Queue.largestCapacity < capacity) :
    Reaches ⟨.connecting, b, capacity⟩ ⟨.crashed (.queue .tooLarge), b, capacity⟩ := by
  refine .turn false trivial (.turn () trivial ?_)
  show Reaches (State.prepare ⟨.preparing, b, capacity⟩) _
  rw [prepare_of_lt hlt]
  exact .refl

section Growth
variable {capacity : Nat}

/-- A session that is refused. -/
theorem reaches_drawing (hpos : 0 < capacity) (hle : capacity ≤ Queue.largestCapacity)
    (b : Backoff) : Reaches ⟨.connecting, b, capacity⟩ ⟨.drawing, b, capacity⟩ := by
  have hopening : Reaches ⟨.connecting, b, capacity⟩ ⟨.opening, b, capacity⟩ := by
    refine .turn false trivial (.turn () trivial ?_)
    show Reaches (State.prepare ⟨.preparing, b, capacity⟩) _
    rw [prepare_of_le hpos hle]
    exact .turn () trivial .refl
  have hrefused : Reaches ⟨.opening, b, capacity⟩ ⟨.failing, b, capacity⟩ :=
    .turn (.refused .transportClosed) (fun _ h => nomatch h)
      (.turn false trivial (.turn () trivial .refl))
  have hsettled : Reaches ⟨.failing, b, capacity⟩ ⟨.drawing, b, capacity⟩ :=
    .turn true trivial (.turn () trivial (.turn false trivial .refl))
  exact (hopening.trans hrefused).trans hsettled

/-- The pause after it, with no jitter. -/
theorem reaches_connecting {b : Backoff} (hadmits : b.Admits .zero) :
    Reaches ⟨.drawing, b, capacity⟩ ⟨.connecting, b.grow, capacity⟩ := by
  have hnext : b.next? .zero = some (b.current, b.grow) := by
    have hsum : b.current.add? .zero = some b.current := Duration.add?_eq_some.mpr rfl
    rw [Backoff.next?, hsum]
    rfl
  refine .turn .zero hadmits ?_
  show Reaches (State.pauseAfter ⟨.drawing, b, capacity⟩ .zero) _
  rw [State.pauseAfter, hnext]
  exact .turn () trivial (.turn .elapsed trivial .refl)

/-- As many pauses in a row as one likes. -/
theorem reaches_grown (hpos : 0 < capacity) (hle : capacity ≤ Queue.largestCapacity)
    {first cap : Duration} (hfirst : first ≠ .zero) (horder : first ≤ cap) (m : Nat) :
    ∃ b : Backoff, b.initial = first ∧ b.longest = cap ∧
      b.current.nanos = baseNanos first cap m ∧
      Reaches (.start first cap capacity) ⟨.connecting, b, capacity⟩ := by
  induction m with
  | zero => exact ⟨.new first cap, rfl, rfl, (baseNanos_zero horder).symm, .refl⟩
  | succ m ih =>
    obtain ⟨b, hinitial, hlongest, hcurrent, hreaches⟩ := ih
    have hadmits : b.Admits .zero := by
      refine .inl ?_
      rw [hinitial]
      exact Nat.pos_of_ne_zero fun hnanos => hfirst (Duration.ext hnanos)
    exact ⟨b.grow, hinitial, hlongest, grow_nanos hlongest hcurrent,
      hreaches.trans ((reaches_drawing hpos hle b).trans (reaches_connecting hadmits))⟩

end Growth

/-- Enough pauses bring the delay to its cap. -/
theorem exists_baseNanos_eq {first : Duration} (hfirst : first ≠ .zero) (cap : Duration) :
    ∃ m, baseNanos first cap m = cap.nanos := by
  obtain ⟨m, hm⟩ := Backoff.exists_le_mul_pow (fun h => hfirst (Duration.ext h)) cap.nanos
  exact ⟨m, Nat.min_eq_right hm⟩

theorem reaches_crash_of_not_delaysFit {c : Config} (hvalid : c.validate = .ok ())
    (hcapacity : c.receiveQueueCapacity ≤ Queue.largestCapacity) (hfit : ¬c.DelaysFit) :
    ∃ u, Reaches (.ofConfig c) u ∧
      u.phase = .crashed .delay := by
  obtain ⟨hpos, -, -, horder⟩ := Config.validate_eq_ok_iff.mp hvalid
  have hfirst : c.initialBackoff ≠ .zero := fun hzero => hfit (Config.delaysFit_iff.mpr (.inl hzero))
  obtain ⟨jitter, hadmits, hover⟩ : ∃ jitter,
      (Backoff.new c.initialBackoff c.maxBackoff).Admits jitter ∧
        c.maxBackoff.add? jitter = none := by
    simpa [Config.DelaysFit] using hfit
  obtain ⟨m, hm⟩ := exists_baseNanos_eq hfirst c.maxBackoff
  obtain ⟨b, hinitial, -, hcurrent, hreaches⟩ := reaches_grown hpos hcapacity hfirst horder m
  have hadmits' : b.Admits jitter := by
    unfold Backoff.Admits at hadmits ⊢
    rwa [hinitial]
  have hcap : b.current = c.maxBackoff := Duration.ext (hcurrent.trans hm)
  refine ⟨⟨.crashed .delay, b, c.receiveQueueCapacity⟩, hreaches.trans ?_, rfl⟩
  refine (reaches_drawing hpos hcapacity b).trans (.turn jitter hadmits' ?_)
  show Reaches (State.pauseAfter ⟨.drawing, b, _⟩ jitter) _
  rw [State.pauseAfter, Backoff.next?, hcap, hover]
  exact .refl

/-! ### Which configurations are safe -/

/-- **What an accepted configuration needs for the worker never to break**, whatever the sessions
are, whoever sets the switch, and whichever jitter is drawn: a queue of its capacity can be made, and
its longest delay with the greatest jitter is a duration. Neither is checked. -/
theorem never_crashes_iff {c : Config} (hvalid : c.validate = .ok ()) :
    (∀ u, Reaches (.ofConfig c) u →
      ∀ cause, u.phase ≠ .crashed cause) ↔
    c.receiveQueueCapacity ≤ Queue.largestCapacity ∧ (c.initialBackoff = .zero ∨
      c.maxBackoff.nanos + c.initialBackoff.nanos ≤ longestNanos + 1) := by
  rw [← Config.delaysFit_iff]
  constructor
  · intro hnever
    have hcapacity : c.receiveQueueCapacity ≤ Queue.largestCapacity :=
      Nat.not_lt.mp fun hlt => hnever _ (reaches_crash_of_lt hlt) _ rfl
    refine ⟨hcapacity, Classical.byContradiction fun hfit => ?_⟩
    obtain ⟨u, hreaches, hcrash⟩ := reaches_crash_of_not_delaysFit hvalid hcapacity hfit
    exact hnever u hreaches _ hcrash
  · rintro ⟨hcapacity, hfit⟩ u hreaches cause hcrash
    have hintact : Intact c u :=
      hreaches.invariant (fun t => Intact.after hvalid hcapacity hfit) (intact_start hvalid)
    have hphase := hintact.phase
    rw [hcrash] at hphase
    cases hphase

/-- What is used where nothing is configured is safe. -/
theorem never_crashes_standard :
    Config.standard.validate = .ok () ∧
      ∀ u, Reaches (.ofConfig .standard) u → ∀ cause, u.phase ≠ .crashed cause := by
  have hvalid : Config.standard.validate = .ok () := rfl
  exact ⟨hvalid, (never_crashes_iff hvalid).mpr ⟨by decide, .inr (by decide)⟩⟩

/-- The longest delays there are, and a queue no session can have: both are accepted. -/
theorem crashes_of_accepted :
    let delays := {Config.standard with initialBackoff := .longest, maxBackoff := .longest}
    let queue := {Config.standard with receiveQueueCapacity := Queue.largestCapacity + 1}
    (delays.validate = .ok () ∧ ∃ u, Reaches (.ofConfig delays) u ∧ u.phase = .crashed .delay) ∧
      queue.validate = .ok () ∧
        ∃ u, Reaches (.ofConfig queue) u ∧ u.phase = .crashed (.queue .tooLarge) := by
  intro delays queue
  have hvalid : delays.validate = .ok () := rfl
  have hfit : ¬delays.DelaysFit := by
    rw [Config.delaysFit_iff]
    decide
  refine ⟨⟨hvalid, reaches_crash_of_not_delaysFit hvalid (by decide) hfit⟩, rfl, ?_⟩
  exact ⟨_, reaches_crash_of_lt (Nat.lt_succ_self _), rfl⟩

end SnapshotFeed.Reconnect
