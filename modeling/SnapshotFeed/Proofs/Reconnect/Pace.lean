import Mathlib.Algebra.Group.Nat.Defs
import SnapshotFeed.Proofs.Backoff
import SnapshotFeed.Proofs.Reconnect.Course

/-! The pace of the loop.

A pause stands between two sessions, and its length is told by the turns before it: the first delay,
doubled for every pause since the last response the loop handled, up to the longest delay, and the
jitter drawn for it. `pause_nanos` says so of every history, whoever answers. `Phase.Rested` counts
the pauses since a session was asked for, `Paced` ties the backoff to the turns; both are kept turn
by turn. -/
namespace SnapshotFeed.Reconnect

/-- The loop handles a response, whatever its state. What becomes of its payload does not matter. -/
def Turn.hearsResponse (t : Turn) : Bool :=
  match t.handled? with
  | some (.response _) => true
  | _ => false

/-- The pauses since the last response the loop handled, or since its start. -/
def pausesSinceResponse (ts : List Turn) : Nat :=
  (ts.reverse.takeWhile (!·.hearsResponse)).countP (·.isPause)

/-- The jitter drawn last. -/
def lastDrawn? (ts : List Turn) : Option Duration := ts.reverse.findSome? (·.drawn?)

/-- The delay of a pause without its jitter, in nanoseconds, after `m` pauses. -/
def baseNanos (initial longest : Duration) (m : Nat) : Nat :=
  min (initial.nanos * 2 ^ m) longest.nanos

theorem pausesSinceResponse_snoc (ts : List Turn) (t : Turn) : pausesSinceResponse (ts ++ [t]) =
    if t.hearsResponse then 0 else pausesSinceResponse ts + t.isPause.toNat := by
  unfold pausesSinceResponse
  cases hhears : t.hearsResponse <;> cases hpause : t.isPause <;> simp [hhears, hpause]

theorem lastDrawn?_snoc (ts : List Turn) (t : Turn) :
    lastDrawn? (ts ++ [t]) = t.drawn?.or (lastDrawn? ts) := by
  cases h : t.drawn? <;> simp [lastDrawn?, h]

/-! ### One pause from session to session -/

/-- So many pauses were made since a session was asked for, or the loop is on its way out. -/
def Phase.Rested (n : Nat) : Phase → Prop
  | connecting | preparing | opening => n = 1
  | reporting _ after | releasing after => after.Rested n
  | ended | crashed _ => True
  | _ => n = 0

theorem countP_isPause_cons (t : Turn) (ts : List Turn) :
    (t :: ts).countP (·.isPause) = t.isPause.toNat + ts.countP (·.isPause) := by
  cases h : t.isPause <;> simp [h, Nat.add_comm]

theorem Turn.rested_of_opening {t : Turn} (h : t.state.phase = .opening) :
    t.after.phase.Rested 0 := by
  obtain ⟨⟨phase, b, capacity⟩, answer⟩ := t
  cases h
  cases answer <;> trivial

theorem State.rested_handle (s : State) (m : Message) : (s.handle m).phase.Rested 0 := by
  obtain ⟨_, -, h⟩ | ⟨_, -, h⟩ | ⟨_, -, h⟩ | ⟨-, h⟩ := s.handle_cases m <;> rw [h] <;> rfl

theorem Turn.rested_after (t : Turn) (hphase : t.state.phase ≠ .opening) {n : Nat}
    (h : t.state.phase.Rested n) : t.after.phase.Rested (n + t.isPause.toNat) := by
  obtain ⟨⟨phase, b, capacity⟩, answer⟩ := t
  cases phase with
  | opening => exact absurd rfl hphase
  | reporting _ after | releasing after => exact h
  | preparing =>
    obtain rfl : n = 1 := h
    simp only [Turn.after, State.next, State.prepare]
    split <;> trivial
  | received message =>
    obtain rfl : n = 0 := h
    cases answer with
    | true => cases message <;> trivial
    | false =>
      rw [Turn.after, State.next_received_of_unset]
      exact State.rested_handle _ _
  | drawing =>
    obtain rfl : n = 0 := h
    simp only [Turn.after, State.next, State.pauseAfter]
    split <;> trivial
  | connecting =>
    obtain rfl : n = 1 := h
    cases answer <;> trivial
  | receiving =>
    obtain rfl : n = 0 := h
    rfl
  | ended | crashed cause => exact answer.elim
  | _ =>
    obtain rfl : n = 0 := h
    cases answer <;> trivial

theorem History.rested {s u : State} {ts : List Turn} (h : History s ts u)
    (hphase : ∀ t ∈ ts, t.state.phase ≠ .opening) {n : Nat} (hs : s.phase.Rested n) :
    u.phase.Rested (n + ts.countP (·.isPause)) := by
  induction h generalizing n with
  | nil => exact hs
  | @cons _ _ _ t ts htakes _ ih =>
    obtain ⟨rfl, rfl⟩ := htakes
    obtain ⟨hfirst, hrest⟩ := List.forall_mem_cons.mp hphase
    have hcount := ih hrest (t.rested_after hfirst hs)
    rwa [Nat.add_assoc, ← countP_isPause_cons] at hcount

/-! ### The backoff of a history -/

/-- What the last draw came to: a pause, or a delay that is no duration. -/
def Phase.delay? : Phase → Option (Option Duration)
  | pausing delay => some (some delay)
  | crashed .delay => some none
  | reporting _ after | releasing after => after.delay?
  | _ => none

/-- A response was handled, and the backoff is not reset before its payload is offered. -/
def Phase.isDelivering : Phase → Bool
  | delivering _ => true
  | reporting _ after | releasing after => after.isDelivering
  | _ => false

/-- The backoff after some turns. It grows with the draw, so it is a pause ahead while the loop
pauses. -/
structure Paced (first cap : Duration) (ts : List Turn) (s : State) : Prop where
  initial : s.backoff.initial = first
  longest : s.backoff.longest = cap
  fresh : s.phase.isDelivering = true → pausesSinceResponse ts = 0
  current : s.phase.isDelivering = false → s.backoff.current.nanos =
    baseNanos first cap (pausesSinceResponse ts + (s.phase.delay?.any (·.isSome)).toNat)
  delay : ∀ delay?, s.phase.delay? = some delay? → ∃ jitter, lastDrawn? ts = some jitter ∧
    delay? = Duration.ofNanos? (baseNanos first cap (pausesSinceResponse ts) + jitter.nanos)

section Paced
variable {first cap : Duration} {ts : List Turn}

theorem baseNanos_zero (hle : first ≤ cap) : baseNanos first cap 0 = first.nanos := by
  unfold baseNanos
  rw [Nat.pow_zero, Nat.mul_one]
  exact Nat.min_eq_left hle

/-- Doubling stops at the longest duration, and the delay at its cap before that. -/
theorem grow_nanos {b : Backoff} {m : Nat} (hlongest : b.longest = cap)
    (hcurrent : b.current.nanos = baseNanos first cap m) :
    b.grow.current.nanos = baseNanos first cap (m + 1) := by
  rw [Backoff.grow_current_nanos, hlongest, hcurrent]
  unfold baseNanos
  rw [Nat.pow_succ, ← Nat.mul_assoc]
  omega

theorem paced_start (hle : first ≤ cap) (capacity : Nat) :
    Paced first cap [] (.start first cap capacity) :=
  ⟨rfl, rfl, (fun h => nomatch h), fun _ => (baseNanos_zero hle).symm, fun _ h => nomatch h⟩

/-- A turn that is no matter of the backoff. -/
theorem Paced.go {t : Turn} (h : Paced first cap ts t.state) (hhears : t.hearsResponse = false)
    (hpause : t.isPause = false) (hdrawn : t.drawn? = none) {phase : Phase}
    (hdelivering : phase.isDelivering = t.state.phase.isDelivering)
    (hdelay : phase.delay? = t.state.phase.delay?) :
    Paced first cap (ts ++ [t]) (t.state.go phase) := by
  have hcount : pausesSinceResponse (ts ++ [t]) = pausesSinceResponse ts := by
    simp [pausesSinceResponse_snoc, hhears, hpause]
  have hlast : lastDrawn? (ts ++ [t]) = lastDrawn? ts := by simp [lastDrawn?_snoc, hdrawn]
  refine ⟨h.initial, h.longest, ?_, ?_, ?_⟩
  · rw [hcount]
    exact fun hphase => h.fresh (hdelivering ▸ hphase)
  · rw [hcount]
    intro hphase
    show t.state.backoff.current.nanos = baseNanos first cap (_ + (phase.delay?.any _).toNat)
    rw [hdelay]
    exact h.current (hdelivering ▸ hphase)
  · rw [hcount, hlast]
    exact fun delay? hphase => h.delay delay? (hdelay ▸ hphase)

/-- The backoff starts over. -/
theorem Paced.healthy (hle : first ≤ cap) {t : Turn} (h : Paced first cap ts t.state)
    (hcount : pausesSinceResponse (ts ++ [t]) = 0) {phase : Phase}
    (hdelivering : phase.isDelivering = false) (hdelay : phase.delay? = none) :
    Paced first cap (ts ++ [t]) (t.state.healthy phase) := by
  refine ⟨h.initial, h.longest, ?_, ?_, ?_⟩
  · exact fun hphase => absurd (hdelivering.symm.trans hphase) Bool.false_ne_true
  · intro _
    show t.state.backoff.initial.nanos = baseNanos first cap (_ + (phase.delay?.any _).toNat)
    rw [h.initial, hcount, hdelay]
    exact (baseNanos_zero hle).symm
  · intro delay? hphase
    have hsome : phase.delay? = some delay? := hphase
    rw [hdelay] at hsome
    cases hsome

/-- A draw grows the backoff, and leads to a pause if the delay is a duration. -/
theorem Paced.pauseAfter {b : Backoff} {capacity : Nat} {jitter : Duration}
    (h : Paced first cap ts ⟨.drawing, b, capacity⟩) :
    Paced first cap (ts ++ [⟨⟨.drawing, b, capacity⟩, jitter⟩])
      (State.pauseAfter ⟨.drawing, b, capacity⟩ jitter) := by
  have hcount : pausesSinceResponse (ts ++ [⟨⟨.drawing, b, capacity⟩, jitter⟩]) =
      pausesSinceResponse ts := by
    rw [pausesSinceResponse_snoc]
    rfl
  have hlast : lastDrawn? (ts ++ [⟨⟨.drawing, b, capacity⟩, jitter⟩]) = some jitter := by
    rw [lastDrawn?_snoc]
    rfl
  have hcurrent : b.current.nanos = baseNanos first cap (pausesSinceResponse ts) := h.current rfl
  have hsum : b.current.add? jitter =
      Duration.ofNanos? (baseNanos first cap (pausesSinceResponse ts) + jitter.nanos) := by
    rw [Duration.add?, hcurrent]
  unfold State.pauseAfter Backoff.next?
  cases hdelay : b.current.add? jitter with
  | none =>
    refine ⟨h.initial, h.longest, fun hphase => absurd hphase Bool.false_ne_true, ?_, ?_⟩
    · rw [hcount]
      exact fun _ => hcurrent
    · rw [hcount, hlast]
      exact fun _ hphase =>
        ⟨jitter, rfl, (Option.some.inj hphase).symm.trans (hdelay.symm.trans hsum)⟩
  | some delay =>
    refine ⟨h.initial, h.longest, fun hphase => absurd hphase Bool.false_ne_true, ?_, ?_⟩
    · rw [hcount]
      exact fun _ => grow_nanos h.longest hcurrent
    · rw [hcount, hlast]
      exact fun _ hphase =>
        ⟨jitter, rfl, (Option.some.inj hphase).symm.trans (hdelay.symm.trans hsum)⟩

/-- The end of a pause. -/
theorem Paced.rest {delay : Duration} {b : Backoff} {capacity : Nat} {ending : PauseEnd}
    (h : Paced first cap ts ⟨.pausing delay, b, capacity⟩) {phase : Phase}
    (hdelivering : phase.isDelivering = false) (hdelay : phase.delay? = none) :
    Paced first cap (ts ++ [⟨⟨.pausing delay, b, capacity⟩, ending⟩]) ⟨phase, b, capacity⟩ := by
  have hcount : pausesSinceResponse (ts ++ [⟨⟨.pausing delay, b, capacity⟩, ending⟩]) =
      pausesSinceResponse ts + 1 := by
    rw [pausesSinceResponse_snoc]
    rfl
  refine ⟨h.initial, h.longest, ?_, ?_, ?_⟩
  · exact fun hphase => absurd (hdelivering.symm.trans hphase) Bool.false_ne_true
  · intro _
    show b.current.nanos = baseNanos first cap (_ + (phase.delay?.any _).toNat)
    rw [hcount, hdelay]
    exact h.current rfl
  · intro delay? hphase
    have hsome : phase.delay? = some delay? := hphase
    rw [hdelay] at hsome
    cases hsome

/-- A message that is handled. -/
theorem Paced.handle (hle : first ≤ cap) {message : Option Message} {b : Backoff} {capacity : Nat}
    (h : Paced first cap ts ⟨.received message, b, capacity⟩) :
    Paced first cap (ts ++ [⟨⟨.received message, b, capacity⟩, false⟩])
      (State.next ⟨.received message, b, capacity⟩ false) := by
  cases message with
  | none => exact h.go rfl rfl rfl rfl rfl
  | some m =>
    cases m with
    | error cause | complete => exact h.go rfl rfl rfl rfl rfl
    | response r =>
      have hcount : pausesSinceResponse
          (ts ++ [⟨⟨.received (some (.response r)), b, capacity⟩, false⟩]) = 0 := by
        rw [pausesSinceResponse_snoc]
        rfl
      show Paced first cap _
        (State.handle ⟨.received (some (.response r)), b, capacity⟩ (.response r))
      by_cases hall : r.state = .all
      · rw [State.handle_of_all _ hall]
        exact ⟨h.initial, h.longest, fun _ => hcount, (fun hphase => nomatch hphase),
          fun _ hphase => nomatch hphase⟩
      · rw [State.handle_of_ne_all _ hall]
        exact h.healthy hle hcount rfl rfl

/-- Every turn keeps the pace. -/
theorem Paced.after (hle : first ≤ cap) {t : Turn} (h : Paced first cap ts t.state) :
    Paced first cap (ts ++ [t]) t.after := by
  obtain ⟨⟨phase, b, capacity⟩, answer⟩ := t
  cases phase with
  | received message =>
    cases answer with
    | false => exact h.handle hle
    | true => cases message <;> exact h.go rfl rfl rfl rfl rfl
  | delivering payload =>
    have hcount : pausesSinceResponse (ts ++ [⟨⟨.delivering payload, b, capacity⟩, answer⟩]) = 0 := by
      rw [pausesSinceResponse_snoc]
      exact h.fresh rfl
    cases answer <;> exact h.healthy hle hcount rfl rfl
  | drawing => exact h.pauseAfter
  | pausing delay => cases answer <;> exact h.rest rfl rfl
  | reporting notice after | releasing after => exact h.go rfl rfl rfl rfl rfl
  | preparing =>
    simp only [Turn.after, State.next, State.prepare]
    split <;> exact h.go rfl rfl rfl rfl rfl
  | receiving => exact h.go rfl rfl rfl rfl rfl
  | ended | crashed cause => exact answer.elim
  | _ => cases answer <;> exact h.go rfl rfl rfl rfl rfl

end Paced

/-- **Between two sessions the loop pauses once, and each pause is as long as its turns say.**
`ts` may be any turns of the loop from its start, and `u` what it comes to by them. If that is the
next request for a session after one at `t`, one pause stands between. If that is a pause, it is the
first delay doubled for every pause since the last response handled, no longer than the cap, and the
jitter drawn for it. The loop breaks for a delay only if that sum is no duration. -/
theorem pause_nanos {first cap : Duration} (hle : first ≤ cap) {capacity : Nat} {ts : List Turn}
    {u : State} (h : History (.start first cap capacity) ts u) :
    (∀ before t between, ts = before ++ t :: between → t.state.phase = .opening →
      (∀ v ∈ between, v.state.phase ≠ .opening) → u.phase = .opening →
        between.countP (·.isPause) = 1) ∧
    (∀ delay, u.phase = .pausing delay → ∃ jitter, lastDrawn? ts = some jitter ∧ delay.nanos =
      min (first.nanos * 2 ^ pausesSinceResponse ts) cap.nanos + jitter.nanos) ∧
    (u.phase = .crashed .delay → ∃ jitter, lastDrawn? ts = some jitter ∧ longestNanos <
      min (first.nanos * 2 ^ pausesSinceResponse ts) cap.nanos + jitter.nanos) := by
  have hpaced : Paced first cap ts u := by
    refine h.invariant_along (P := Paced first cap) ?_ (paced_start hle capacity)
    rintro ts _ t _ ⟨rfl, rfl⟩ hts
    exact hts.after hle
  refine ⟨?_, fun delay hphase => ?_, fun hphase => ?_⟩
  · rintro before t between rfl hopening hbetween hphase
    obtain ⟨m, -, hafter⟩ := Steps.append_iff.mp h
    cases hafter with
    | cons htakes hafter =>
      obtain ⟨-, rfl⟩ := htakes
      have hrested := History.rested hafter hbetween (Turn.rested_of_opening hopening)
      rw [hphase, Nat.zero_add] at hrested
      exact hrested
  · obtain ⟨jitter, hdrawn, hdelay⟩ := hpaced.delay (some delay) (by rw [hphase]; rfl)
    exact ⟨jitter, hdrawn, Duration.ofNanos?_eq_some.mp hdelay.symm⟩
  · obtain ⟨jitter, hdrawn, hdelay⟩ := hpaced.delay none (by rw [hphase]; rfl)
    exact ⟨jitter, hdrawn, Duration.ofNanos?_eq_none.mp hdelay.symm⟩

/-- Two sessions are refused, and the delay reaches its cap of three seconds. -/
theorem pause_nanos_capped :
    let E := Host.idle.surroundings .stopped
    let s := Course.start {Config.standard with maxBackoff := .ofSeconds 3}
      [.refused .transportClosed, .refused .transportClosed] (Queue.Bounded.new 5)
    pausesSinceResponse (E.turns 23 s) = 1 ∧
      ∃ jitter, lastDrawn? (E.turns 23 s) = some jitter ∧
        4000000000 = min (2000000000 * 2 ^ 1) 3000000000 + jitter.nanos := by
  intro E s
  have hphase : (E.run 23 s).1.phase = .pausing (.ofSeconds 4) := by decide
  have hcount : pausesSinceResponse (E.turns 23 s) = 1 := by decide
  obtain ⟨jitter, hdrawn, hnanos⟩ :=
    (pause_nanos (show Duration.ofSeconds 2 ≤ .ofSeconds 3 by decide) (E.history_turns 23 s)).2.1
      _ hphase
  rw [hcount] at hnanos
  exact ⟨hcount, jitter, hdrawn, hnanos⟩

end SnapshotFeed.Reconnect
