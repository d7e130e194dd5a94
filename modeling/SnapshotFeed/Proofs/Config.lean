import SnapshotFeed.Config
import SnapshotFeed.Proofs.Backoff

/-! What a configuration promises the loop.

An accepted one has room in its queues and its delays in order. That every delay is a duration is
not checked; `DelaysFit` says when it is so, and then every backoff the loop may have (`Allows`) has
a next delay, whatever jitter is drawn. -/
namespace SnapshotFeed.Config

theorem fault?_eq_none_iff {c : Config} : c.fault? = none ↔
    0 < c.receiveQueueCapacity ∧ 0 < c.deliveryQueueCapacity ∧ 0 < c.maxFrameSize ∧
      c.initialBackoff ≤ c.maxBackoff := by
  have hle : ¬c.maxBackoff < c.initialBackoff ↔ c.initialBackoff ≤ c.maxBackoff := Nat.not_lt
  unfold fault?
  repeat' split
  all_goals simp only [reduceCtorEq, false_iff, true_iff]; grind

theorem validate_eq_ok_iff {c : Config} : c.validate = .ok () ↔
    0 < c.receiveQueueCapacity ∧ 0 < c.deliveryQueueCapacity ∧ 0 < c.maxFrameSize ∧
      c.initialBackoff ≤ c.maxBackoff := by
  rw [← fault?_eq_none_iff]
  unfold validate
  cases c.fault? <;> simp

/-- The longest delay with any jitter is a duration. -/
def DelaysFit (c : Config) : Prop :=
  ∀ jitter, (Backoff.new c.initialBackoff c.maxBackoff).Admits jitter →
    (c.maxBackoff.add? jitter).isSome = true

theorem delaysFit_of_le {c : Config}
    (h : c.maxBackoff.nanos + c.initialBackoff.nanos ≤ longestNanos + 1) : c.DelaysFit :=
  fun _ => Backoff.isSome_add?_of_admits h

/-- In numbers: the greatest jitter is a nanosecond short of the first delay. -/
theorem delaysFit_iff {c : Config} : c.DelaysFit ↔ c.initialBackoff = .zero ∨
    c.maxBackoff.nanos + c.initialBackoff.nanos ≤ longestNanos + 1 := by
  by_cases hzero : c.initialBackoff = .zero
  · have hle := c.maxBackoff.nanos_le
    have hnanos : c.initialBackoff.nanos = 0 := congrArg Duration.nanos hzero
    exact iff_of_true (delaysFit_of_le (by omega)) (.inl hzero)
  · have hpos : 0 < c.initialBackoff.nanos :=
      Nat.pos_of_ne_zero fun hnanos => hzero (Duration.ext hnanos)
    refine ⟨fun hfit => .inr ?_, fun h => delaysFit_of_le (h.resolve_left hzero)⟩
    have hle := c.initialBackoff.nanos_le
    have hgreatest := hfit ⟨c.initialBackoff.nanos - 1, by omega⟩
      (.inl (Nat.sub_lt hpos Nat.one_pos))
    refine Nat.not_lt.mp fun hover => ?_
    rw [Duration.add?_eq_none.mpr (by simp only; omega)] at hgreatest
    cases hgreatest

/-- A backoff of this configuration, after any number of attempts. -/
structure Allows (c : Config) (b : Backoff) : Prop where
  initial : b.initial = c.initialBackoff
  longest : b.longest = c.maxBackoff
  current : b.current ≤ c.maxBackoff

variable {c : Config} {b : Backoff}

theorem allows_new (hvalid : c.validate = .ok ()) :
    c.Allows (.new c.initialBackoff c.maxBackoff) :=
  ⟨rfl, rfl, (validate_eq_ok_iff.mp hvalid).2.2.2⟩

theorem Allows.reset (hvalid : c.validate = .ok ()) (h : c.Allows b) : c.Allows b.reset := by
  refine ⟨h.initial, h.longest, ?_⟩
  show b.initial ≤ c.maxBackoff
  rw [h.initial]
  exact (validate_eq_ok_iff.mp hvalid).2.2.2

theorem Allows.grow (h : c.Allows b) : c.Allows b.grow := by
  refine ⟨h.initial, h.longest, ?_⟩
  rw [← h.longest]
  exact b.grow_current_le

theorem Allows.next?_eq_some (hfit : c.DelaysFit) (h : c.Allows b) {jitter : Duration}
    (hjitter : b.Admits jitter) : ∃ delay, b.next? jitter = some (delay, b.grow) := by
  have hadmits : (Backoff.new c.initialBackoff c.maxBackoff).Admits jitter := by
    unfold Backoff.Admits at hjitter ⊢
    rwa [h.initial] at hjitter
  obtain ⟨delay, hdelay⟩ := Option.isSome_iff_exists.mp
    (Backoff.isSome_add?_of_le h.current (hfit jitter hadmits))
  exact ⟨delay, by rw [Backoff.next?, hdelay]; rfl⟩

end SnapshotFeed.Config
