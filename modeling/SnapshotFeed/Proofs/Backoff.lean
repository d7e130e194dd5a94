import Mathlib.Algebra.Group.Nat.Defs
import SnapshotFeed.Backoff

/-! Delays that are durations.

Nothing checks that the delays of a backoff can be added to their jitter. `Fits` says that they can:
it holds of a backoff from its first attempt to its last, and then every attempt has a delay. -/
namespace SnapshotFeed

namespace Backoff

/-- Every delay the backoff may come to is a duration, whatever jitter is drawn. -/
structure Fits (b : Backoff) : Prop where
  first : ∀ jitter, b.Admits jitter → (b.initial.add? jitter).isSome = true
  longest : ∀ jitter, b.Admits jitter → (b.longest.add? jitter).isSome = true
  current : b.current = b.initial ∨ b.current ≤ b.longest

/-- Doubling a delay often enough leads past any other. -/
theorem exists_le_mul_pow {n : Nat} (hn : n ≠ 0) (m : Nat) : ∃ k, m ≤ n * 2 ^ k :=
  ⟨m, calc
    m ≤ 2 ^ m := Nat.le_of_lt Nat.lt_two_pow_self
    _ ≤ n * 2 ^ m := Nat.le_mul_of_pos_left _ (Nat.pos_of_ne_zero hn)⟩

theorem isSome_add?_of_le {a d jitter : Duration} (hle : a ≤ d)
    (h : (d.add? jitter).isSome = true) : (a.add? jitter).isSome = true := by
  cases hsum : a.add? jitter with
  | some delay => rfl
  | none =>
    have hover := Duration.add?_eq_none.mp hsum
    have hnanos : a.nanos ≤ d.nanos := hle
    rw [Duration.add?_eq_none.mpr (by omega)] at h
    cases h

theorem isSome_add?_of_admits {b : Backoff} {d jitter : Duration}
    (h : d.nanos + b.initial.nanos ≤ longestNanos + 1) (hjitter : b.Admits jitter) :
    (d.add? jitter).isSome = true := by
  have hle : d.nanos + jitter.nanos ≤ longestNanos := by
    rcases hjitter with hlt | ⟨-, rfl⟩
    · have hnanos : jitter.nanos < b.initial.nanos := hlt
      omega
    · exact d.nanos_le
  rw [Duration.add?, Duration.ofNanos?, dif_pos hle]
  rfl

theorem fits_of_le {initial longest : Duration}
    (h : max initial.nanos longest.nanos + initial.nanos ≤ longestNanos + 1) :
    (new initial longest).Fits := by
  refine ⟨fun _ => isSome_add?_of_admits ?_, fun _ => isSome_add?_of_admits ?_, .inl rfl⟩
  · show initial.nanos + initial.nanos ≤ _
    omega
  · show longest.nanos + initial.nanos ≤ _
    omega

/-- Nothing is lost where doubling saturates: the cap is a duration. -/
theorem grow_current_nanos (b : Backoff) :
    b.grow.current.nanos = min (2 * b.current.nanos) b.longest.nanos := by
  have hcap := b.longest.nanos_le
  show (min b.current.double b.longest).nanos = _
  rw [Duration.min_nanos, Duration.double_nanos]
  omega

theorem Fits.reset {b : Backoff} (h : b.Fits) : b.reset.Fits := ⟨h.first, h.longest, .inl rfl⟩

/-- A backoff does not grow past its cap. -/
theorem grow_current_le (b : Backoff) : b.grow.current ≤ b.longest := by
  show b.grow.current.nanos ≤ b.longest.nanos
  rw [grow_current_nanos]
  exact Nat.min_le_right _ _

theorem Fits.grow {b : Backoff} (h : b.Fits) : b.grow.Fits :=
  ⟨h.first, h.longest, .inr b.grow_current_le⟩

theorem Fits.next? {b : Backoff} (h : b.Fits) {jitter : Duration} (hjitter : b.Admits jitter) :
    ∃ delay, b.next? jitter = some (delay, b.grow) := by
  have hsome : (b.current.add? jitter).isSome = true := by
    rcases h.current with hfirst | hle
    · rw [hfirst]
      exact h.first jitter hjitter
    · exact isSome_add?_of_le hle (h.longest jitter hjitter)
  obtain ⟨delay, hdelay⟩ := Option.isSome_iff_exists.mp hsome
  exact ⟨delay, by rw [Backoff.next?, hdelay]; rfl⟩

end Backoff

end SnapshotFeed
