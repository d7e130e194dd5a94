import SnapshotFeed.Proofs.Backoff
import SnapshotFeed.Proofs.Steps

/-! The delays of a backoff over any sequence of calls.

A call for the next delay may break, so it is told statement by statement here (`nextDelay`), and a
call that breaks leaves what it wrote. `follows_schedule` says which delays are handed out: the first
one, doubled with every call since the last reset and never past the cap, in nanoseconds of any size.
`breaks_iff` says for which delays a call can break: the cap and the greatest jitter decide, since
enough calls bring any delay to its cap. -/
namespace SnapshotFeed.Backoff

/-- A call for the next delay. The sum is taken before anything is written. -/
def nextDelay (jitter : Duration) : EStateM String Backoff Duration := do
  let b ← get
  match b.current.add? jitter with
  | none => throw overflowText
  | some delay =>
    set b.grow
    return delay

theorem nextDelay_run (b : Backoff) (jitter : Duration) : (nextDelay jitter).run b =
    match b.next? jitter with
    | some (delay, v) => .ok delay v
    | none => .error overflowText b := by
  have hget : (nextDelay jitter).run b =
      (match b.current.add? jitter with
      | none => throw overflowText
      | some delay => do
        set b.grow
        return delay : EStateM String Backoff Duration).run b := rfl
  rw [hget, next?]
  cases b.current.add? jitter <;> rfl

/-! ### Calls -/

/-- A call, with the jitter drawn for it and its answer. -/
inductive Event where
  | returns (jitter delay : Duration)
  | breaks (jitter : Duration) (reason : String)
  | resets
  deriving DecidableEq, Repr

inductive Happens : Backoff → Event → Backoff → Prop where
  | returns {b v : Backoff} {jitter delay : Duration} : b.Admits jitter →
    (nextDelay jitter).run b = .ok delay v → Happens b (.returns jitter delay) v
  | breaks {b v : Backoff} {jitter : Duration} {reason : String} : b.Admits jitter →
    (nextDelay jitter).run b = .error reason v → Happens b (.breaks jitter reason) v
  | resets {b : Backoff} : Happens b .resets b.reset

namespace Event

def isReset : Event → Bool
  | resets => true
  | _ => false

def isReturn : Event → Bool
  | returns .. => true
  | _ => false

def isBreak : Event → Bool
  | breaks .. => true
  | _ => false

end Event

/-- The delays handed out since the last reset, or since the first call. -/
def sinceReset (es : List Event) : Nat :=
  (es.reverse.takeWhile (!·.isReset)).countP (·.isReturn)

theorem sinceReset_snoc (es : List Event) (e : Event) :
    sinceReset (es ++ [e]) = if e.isReset then 0 else sinceReset es + e.isReturn.toNat := by
  cases e <;> simp [sinceReset, Event.isReset, Event.isReturn]

section Call
variable {b v : Backoff} {jitter delay : Duration} {reason : String}

theorem happens_returns_iff : Happens b (.returns jitter delay) v ↔
    b.Admits jitter ∧ delay.nanos = b.current.nanos + jitter.nanos ∧ v = b.grow := by
  rw [← Duration.add?_eq_some]
  constructor
  · intro h
    cases h with
    | returns hadmits hrun =>
      rw [nextDelay_run, next?] at hrun
      cases hsum : b.current.add? jitter with
      | none => simp [hsum] at hrun
      | some sum =>
        simp only [hsum, Option.map_some, EStateM.Result.ok.injEq] at hrun
        obtain ⟨rfl, rfl⟩ := hrun
        exact ⟨hadmits, rfl, rfl⟩
  · rintro ⟨hadmits, hsum, rfl⟩
    refine .returns hadmits ?_
    rw [nextDelay_run, next?, hsum]
    rfl

/-- A call that breaks has written nothing. -/
theorem happens_breaks_iff : Happens b (.breaks jitter reason) v ↔ b.Admits jitter ∧
    longestNanos < b.current.nanos + jitter.nanos ∧ reason = overflowText ∧ v = b := by
  rw [← Duration.add?_eq_none]
  constructor
  · intro h
    cases h with
    | breaks hadmits hrun =>
      rw [nextDelay_run, next?] at hrun
      cases hsum : b.current.add? jitter with
      | none =>
        simp only [hsum, Option.map_none, EStateM.Result.error.injEq] at hrun
        obtain ⟨rfl, rfl⟩ := hrun
        exact ⟨hadmits, rfl, rfl, rfl⟩
      | some sum => simp [hsum] at hrun
  · rintro ⟨hadmits, hsum, rfl, rfl⟩
    refine .breaks hadmits ?_
    rw [nextDelay_run, next?, hsum]
    rfl

end Call

/-! ### The schedule -/

/-- The backoff after `k` delays since its last reset. -/
structure Scheduled (first cap : Duration) (k : Nat) (b : Backoff) : Prop where
  initial : b.initial = first
  longest : b.longest = cap
  fresh : k = 0 → b.current = first
  /-- The first delay need not be below the cap, so this says nothing of it. -/
  grown : k ≠ 0 → b.current.nanos = min (first.nanos * 2 ^ k) cap.nanos

section Scheduled
variable {first cap : Duration} {k : Nat} {b v : Backoff} {es : List Event} {e : Event}

theorem scheduled_new (first cap : Duration) : Scheduled first cap 0 (new first cap) :=
  ⟨rfl, rfl, fun _ => rfl, fun h => absurd rfl h⟩

theorem Scheduled.reset (h : Scheduled first cap k b) : Scheduled first cap 0 b.reset :=
  ⟨h.initial, h.longest, fun _ => h.initial, fun hne => absurd rfl hne⟩

/-- Where doubling saturates, the cap is lower. -/
theorem Scheduled.grow (h : Scheduled first cap k b) : Scheduled first cap (k + 1) b.grow := by
  refine ⟨h.initial, h.longest, nofun, fun _ => ?_⟩
  rw [grow_current_nanos, h.longest]
  rcases Nat.eq_zero_or_pos k with rfl | hpos
  · rw [h.fresh rfl, Nat.zero_add, Nat.pow_one, Nat.mul_comm]
  · rw [h.grown (Nat.ne_of_gt hpos), Nat.pow_succ, ← Nat.mul_assoc]
    omega

theorem Happens.scheduled (hstep : Happens b e v) (h : Scheduled first cap (sinceReset es) b) :
    Scheduled first cap (sinceReset (es ++ [e])) v := by
  rw [sinceReset_snoc]
  cases e with
  | returns jitter delay =>
    obtain ⟨-, -, rfl⟩ := happens_returns_iff.mp hstep
    exact h.grow
  | breaks jitter reason =>
    obtain ⟨-, -, -, rfl⟩ := happens_breaks_iff.mp hstep
    exact h
  | resets =>
    cases hstep
    exact h.reset

theorem scheduled_of_steps (h : Steps Happens (new first cap) es b) :
    Scheduled first cap (sinceReset es) b :=
  h.invariant_along (P := fun es => Scheduled first cap (sinceReset es))
    (fun _ _ _ _ => Happens.scheduled) (scheduled_new first cap)

theorem Scheduled.admits_iff (h : Scheduled first cap k b) {jitter : Duration} :
    b.Admits jitter ↔ jitter < first ∨ first = .zero ∧ jitter = .zero := by
  rw [Admits, h.initial]

/-! ### Between the first delay and the cap -/

theorem Scheduled.within (hle : first ≤ cap) (h : Scheduled first cap k b) :
    first ≤ b.current ∧ b.current ≤ cap := by
  have hnanos : first.nanos ≤ cap.nanos := hle
  rcases Nat.eq_zero_or_pos k with rfl | hpos
  · rw [h.fresh rfl]
    exact ⟨Nat.le_refl _, hle⟩
  · have hgrown := h.grown (Nat.ne_of_gt hpos)
    have hpow : first.nanos ≤ first.nanos * 2 ^ k := Nat.le_mul_of_pos_right _ (Nat.two_pow_pos k)
    refine ⟨?_, ?_⟩
    · show first.nanos ≤ b.current.nanos
      omega
    · show b.current.nanos ≤ cap.nanos
      omega

/-- Only a reset makes a delay that is not above its cap shorter. -/
theorem Happens.current_le (hstep : Happens b e v) (hreset : e ≠ .resets)
    (hcap : b.current ≤ b.longest) : b.current ≤ v.current ∧ v.current ≤ v.longest := by
  have hnanos : b.current.nanos ≤ b.longest.nanos := hcap
  cases e with
  | returns jitter delay =>
    obtain ⟨-, -, rfl⟩ := happens_returns_iff.mp hstep
    have hgrow := b.grow_current_nanos
    refine ⟨?_, ?_⟩
    · show b.current.nanos ≤ b.grow.current.nanos
      omega
    · show b.grow.current.nanos ≤ b.longest.nanos
      omega
  | breaks jitter reason =>
    obtain ⟨-, -, -, rfl⟩ := happens_breaks_iff.mp hstep
    exact ⟨Nat.le_refl _, hcap⟩
  | resets => exact absurd rfl hreset

theorem current_le_of_steps (h : Steps Happens b es v) (hresets : .resets ∉ es)
    (hcap : b.current ≤ b.longest) : b.current ≤ v.current := by
  induction h with
  | nil => exact Nat.le_refl _
  | cons hstep _ ih =>
    obtain ⟨hfirst, hrest⟩ := not_or.mp (mt List.mem_cons.mpr hresets)
    obtain ⟨hle, hcap'⟩ := hstep.current_le (fun heq => hfirst heq.symm) hcap
    exact Nat.le_trans hle (ih hrest hcap')

end Scheduled

/-- **A backoff follows its schedule, whatever its first delay and its cap are.** `es` may be any
calls, and `k` the delays handed out since the last reset; a call that breaks counts for nothing. If
there are none the delay is the first one, else that doubled `k` times, or the cap if that is less:
the doubled delay may be longer than any duration. A call hands out this delay and the jitter drawn
below the first one, provided that the sum is a duration. If the first delay is not above the cap,
no delay leaves the two, and none is shorter than one before it but for a reset. -/
theorem follows_schedule {first cap : Duration} {es : List Event} {b : Backoff}
    (h : Steps Happens (new first cap) es b) :
    (sinceReset es = 0 → b.current = first) ∧
    (sinceReset es ≠ 0 → b.current.nanos = min (first.nanos * 2 ^ sinceReset es) cap.nanos) ∧
    (∀ jitter delay, (∃ v, Happens b (.returns jitter delay) v) ↔
      (jitter < first ∨ first = .zero ∧ jitter = .zero) ∧
        delay.nanos = b.current.nanos + jitter.nanos) ∧
    (first ≤ cap → (first ≤ b.current ∧ b.current ≤ cap) ∧
      ∀ later v, Steps Happens b later v → .resets ∉ later → b.current ≤ v.current) := by
  have hscheduled := scheduled_of_steps h
  refine ⟨hscheduled.fresh, hscheduled.grown, fun jitter delay => ?_, fun hle => ?_⟩
  · rw [← hscheduled.admits_iff]
    constructor
    · rintro ⟨v, hv⟩
      obtain ⟨hadmits, hsum, -⟩ := happens_returns_iff.mp hv
      exact ⟨hadmits, hsum⟩
    · rintro ⟨hadmits, hsum⟩
      exact ⟨b.grow, happens_returns_iff.mpr ⟨hadmits, hsum, rfl⟩⟩
  · have hwithin := hscheduled.within hle
    refine ⟨hwithin, fun later v hlater hresets => current_le_of_steps hlater hresets ?_⟩
    rw [hscheduled.longest]
    exact hwithin.2

/-- Four times the first delay is longer than any duration, and the jitter of the last call leads
past the longest one, which leaves the schedule where it was. -/
theorem follows_schedule_past_longest :
    let first := Duration.ofSeconds (2 ^ 63)
    let es : List Event := [.returns .zero first, .returns .zero .longest,
      .breaks ⟨1, by decide⟩ overflowText]
    ∃ b, Steps Happens (new first .longest) es b ∧ sinceReset es = 2 ∧
      longestNanos < first.nanos * 2 ^ 2 ∧
      b.current.nanos = min (first.nanos * 2 ^ 2) longestNanos := by
  intro first es
  have hsteps : Steps Happens (new first .longest) es (new first .longest).grow.grow :=
    .cons (happens_returns_iff.mpr ⟨by decide, by decide, rfl⟩) <|
      .cons (happens_returns_iff.mpr ⟨by decide, by decide, rfl⟩) <|
        .cons (happens_breaks_iff.mpr ⟨by decide, by decide, rfl, rfl⟩) .nil
  exact ⟨_, hsteps, rfl, by decide, (follows_schedule hsteps).2.1 nofun⟩

/-! ### Calls that break -/

section Breaks
variable {first cap : Duration} {es : List Event} {b v : Backoff} {jitter : Duration}

/-- Any number of delays can be handed out without a jitter. -/
theorem exists_steps_of_sinceReset (hpos : .zero < first) (cap : Duration) (k : Nat) :
    ∃ es b, Steps Happens (new first cap) es b ∧ sinceReset es = k ∧
      ∀ e ∈ es, e.isBreak = false := by
  induction k with
  | zero => exact ⟨[], _, .nil, rfl, nofun⟩
  | succ k ih =>
    obtain ⟨es, b, hsteps, hsince, hreturns⟩ := ih
    have hadmits : b.Admits .zero := (scheduled_of_steps hsteps).admits_iff.mpr (.inl hpos)
    have hstep : Happens b (.returns .zero b.current) b.grow :=
      happens_returns_iff.mpr ⟨hadmits, rfl, rfl⟩
    refine ⟨es ++ [.returns .zero b.current], b.grow, hsteps.snoc hstep, ?_, ?_⟩
    · rw [sinceReset_snoc, hsince]
      rfl
    · rw [List.forall_mem_append]
      exact ⟨hreturns, List.forall_mem_singleton.mpr rfl⟩

/-- Enough delays bring the backoff to its cap. -/
theorem exists_steps_to_cap (hpos : .zero < first) (hle : first ≤ cap) :
    ∃ es b, Steps Happens (new first cap) es b ∧ b.current = cap ∧
      ∀ e ∈ es, e.isBreak = false := by
  obtain ⟨k, hk⟩ := exists_le_mul_pow (Nat.ne_of_gt hpos) cap.nanos
  obtain ⟨es, b, hsteps, rfl, hreturns⟩ := exists_steps_of_sinceReset hpos cap k
  refine ⟨es, b, hsteps, ?_, hreturns⟩
  have hscheduled := scheduled_of_steps hsteps
  by_cases hnone : sinceReset es = 0
  · rw [hnone, Nat.pow_zero, Nat.mul_one] at hk
    rw [hscheduled.fresh hnone]
    exact Duration.ext (Nat.le_antisymm hle hk)
  · exact Duration.ext ((hscheduled.grown hnone).trans (Nat.min_eq_right hk))

/-- The call after that breaks, if the greatest jitter is drawn for it. -/
theorem exists_breaks (hpos : .zero < first) (hle : first ≤ cap)
    (hover : longestNanos < cap.nanos + first.nanos - 1) : ∃ es jitter b,
      Steps Happens (new first cap) (es ++ [.breaks jitter overflowText]) b ∧
        ∀ e ∈ es, e.isBreak = false := by
  obtain ⟨es, b, hsteps, hcap, hreturns⟩ := exists_steps_to_cap hpos hle
  have hnanos : 0 < first.nanos := hpos
  have hgreatest : b.Admits ⟨first.nanos - 1, by have := first.nanos_le; omega⟩ :=
    (scheduled_of_steps hsteps).admits_iff.mpr (.inl (Nat.sub_lt hnanos Nat.one_pos))
  have hsum : longestNanos < b.current.nanos + (first.nanos - 1) := by
    rw [hcap]
    omega
  exact ⟨es, _, b, hsteps.snoc (happens_breaks_iff.mpr ⟨hgreatest, hsum, rfl, rfl⟩), hreturns⟩

/-- No call breaks if the delays fit, and none ever did. -/
theorem Happens.fits {e : Event} (hstep : Happens b e v) (h : b.Fits) :
    v.Fits ∧ e.isBreak = false := by
  cases e with
  | returns jitter delay =>
    obtain ⟨-, -, rfl⟩ := happens_returns_iff.mp hstep
    exact ⟨h.grow, rfl⟩
  | breaks jitter reason =>
    cases hstep with
    | breaks hadmits hrun =>
      obtain ⟨delay, hnext⟩ := h.next? hadmits
      rw [nextDelay_run, hnext] at hrun
      cases hrun
  | resets =>
    cases hstep
    exact ⟨h.reset, rfl⟩

theorem fits_of_steps (hfits : (new first cap).Fits) (h : Steps Happens (new first cap) es b) :
    b.Fits ∧ ∀ e ∈ es, e.isBreak = false := by
  refine h.invariant_along (P := fun es b => b.Fits ∧ ∀ e ∈ es, e.isBreak = false) ?_ ⟨hfits, nofun⟩
  rintro es b e v hstep ⟨hb, hes⟩
  obtain ⟨hv, he⟩ := hstep.fits hb
  exact ⟨hv, List.forall_mem_append.mpr ⟨hes, List.forall_mem_singleton.mpr he⟩⟩

end Breaks

/-- **A call can break exactly if the cap and the greatest jitter make no duration together.** Then
there are calls of which only the last breaks, however far the first delay is from its cap. Else no
call ever breaks, however many there are and whatever is drawn: each has a delay. A call that breaks
leaves the backoff as it was. -/
theorem breaks_iff {first cap : Duration} (hpos : .zero < first) (hle : first ≤ cap) :
    ((∃ es jitter reason b, Steps Happens (new first cap) (es ++ [.breaks jitter reason]) b ∧
        ∀ e ∈ es, e.isBreak = false) ↔ longestNanos < cap.nanos + first.nanos - 1) ∧
    (cap.nanos + first.nanos - 1 ≤ longestNanos →
      ∀ es b, Steps Happens (new first cap) es b → (∀ e ∈ es, e.isBreak = false) ∧
        ∀ jitter, jitter < first → ∃ delay v, Happens b (.returns jitter delay) v) ∧
    ∀ b jitter reason v, Happens b (.breaks jitter reason) v → reason = overflowText ∧ v = b := by
  have hfits : cap.nanos + first.nanos - 1 ≤ longestNanos → (new first cap).Fits := by
    intro hunder
    refine fits_of_le ?_
    have hnanos : first.nanos ≤ cap.nanos := hle
    omega
  refine ⟨⟨?_, fun hover => ?_⟩, fun hunder es b hsteps => ?_, fun b jitter reason v hstep => ?_⟩
  · rintro ⟨es, jitter, reason, b, hsteps, -⟩
    refine Nat.not_le.mp fun hunder => ?_
    have hreturns := (fits_of_steps (hfits hunder) hsteps).2 _
      (List.mem_append_right _ List.mem_cons_self)
    cases hreturns
  · obtain ⟨es, jitter, b, hsteps, hreturns⟩ := exists_breaks hpos hle hover
    exact ⟨es, jitter, _, b, hsteps, hreturns⟩
  · obtain ⟨hb, hreturns⟩ := fits_of_steps (hfits hunder) hsteps
    refine ⟨hreturns, fun jitter hjitter => ?_⟩
    have hadmits := (scheduled_of_steps hsteps).admits_iff.mpr (.inl hjitter)
    obtain ⟨delay, hnext⟩ := hb.next? hadmits
    exact ⟨delay, b.grow, .returns hadmits (by rw [nextDelay_run, hnext])⟩
  · obtain ⟨-, -, hreason, hsame⟩ := happens_breaks_iff.mp hstep
    exact ⟨hreason, hsame⟩

/-- A first delay of one nanosecond draws no jitter that could matter, and one of two does. -/
theorem breaks_iff_at_edge :
    let one : Duration := ⟨1, by decide⟩
    let two : Duration := ⟨2, by decide⟩
    (∀ es b, Steps Happens (new one .longest) es b → ∀ e ∈ es, e.isBreak = false) ∧
      ∃ es jitter reason b, Steps Happens (new two .longest) (es ++ [.breaks jitter reason]) b ∧
        ∀ e ∈ es, e.isBreak = false := by
  intro one two
  have hpos : .zero < one ∧ .zero < two := by decide
  have hle : one ≤ .longest ∧ two ≤ .longest := by decide
  have hone := (breaks_iff hpos.1 hle.1).2.1 (by decide)
  have htwo := (breaks_iff hpos.2 hle.2).1
  exact ⟨fun es b hsteps => (hone es b hsteps).1, htwo.mpr (by decide)⟩

end SnapshotFeed.Backoff
