import SnapshotFeed.Shutdown

/-! Calls for shutdown, step by step.

Calls share one switch. A call first tries to set it; the one that does closes the transport and
wakes the pause, every other returns at once. Anyone may act between two steps, so each call is kept
where it stands. -/
namespace SnapshotFeed

theorem Switch.isSet_pause (s : Switch) : s.pause.2.isSet = s.isSet := by
  unfold pause
  repeat' split
  all_goals rfl

theorem Switch.closed_pause (s : Switch) : s.pause.2.closed = s.closed := by
  unfold pause
  repeat' split
  all_goals rfl

theorem Switch.wake_eq (s : Switch) : s.wake = s ∨ s.wake = {s with pending := 1} := by
  unfold wake
  split
  · exact .inr rfl
  · exact .inl rfl

/-- A pause may elapse at any time, and is stopped by the switch only. -/
inductive Switch.Ends (s : Switch) : PauseEnd → Switch → Prop where
  | elapsed : Ends s .elapsed s
  | stopped {t : Switch} : s.pause = (.stopped, t) → Ends s .stopped t

theorem Switch.Ends.eq_or_pause {s t : Switch} {ending : PauseEnd} (h : s.Ends ending t) :
    t = s ∨ s.pause = (.stopped, t) := by
  cases h with
  | elapsed => exact .inl rfl
  | stopped hpause => exact .inr hpause

/-- Where a call for shutdown stands. -/
inductive Call where
  /-- It has yet to try the switch. -/
  | setting
  /-- It has set the switch. -/
  | closing
  | waking
  | returned (released : Bool)
  deriving DecidableEq, Repr

namespace Call

/-- The next step of a call. -/
def step? : Call → Switch → Option (Call × Switch)
  | setting, s =>
    match s.trySet with
    | (true, s) => some (closing, s)
    | (false, s) => some (returned false, s)
  | closing, s => some (waking, s.release)
  | waking, s => some (returned true, s.wake)
  | returned _, _ => none

theorem step?_setting_of_isSet {s : Switch} (h : s.isSet = true) :
    setting.step? s = some (returned false, s) := by
  simp only [step?, Switch.trySet, h, if_true]

theorem step?_setting_of_unset {s : Switch} (h : s.isSet = false) :
    setting.step? s = some (closing, {s with isSet := true}) := by
  simp only [step?, Switch.trySet, h, Bool.false_eq_true, if_false]

/-- All that a step can do. -/
theorem step?_cases {c d : Call} {s t : Switch} (h : c.step? s = some (d, t)) :
    c = setting ∧ s.isSet = true ∧ d = returned false ∧ t = s ∨
      c = setting ∧ s.isSet = false ∧ d = closing ∧ t = {s with isSet := true} ∨
      c = closing ∧ d = waking ∧ t = s.release ∨
      c = waking ∧ d = returned true ∧ t = s.wake := by
  cases c with
  | setting =>
    cases hset : s.isSet with
    | true =>
      rw [step?_setting_of_isSet hset] at h
      cases h
      exact .inl ⟨rfl, rfl, rfl, rfl⟩
    | false =>
      rw [step?_setting_of_unset hset] at h
      cases h
      exact .inr (.inl ⟨rfl, rfl, rfl, rfl⟩)
  | closing =>
    cases h
    exact .inr (.inr (.inl ⟨rfl, rfl, rfl⟩))
  | waking =>
    cases h
    exact .inr (.inr (.inr ⟨rfl, rfl, rfl⟩))
  | returned released => cases h

/-- Nobody keeps a call from its next step. -/
theorem exists_step? {c : Call} (h : ∀ released, c ≠ returned released) (s : Switch) :
    ∃ d t, c.step? s = some (d, t) := by
  cases c with
  | setting =>
    cases hset : s.isSet with
    | true => exact ⟨_, _, step?_setting_of_isSet hset⟩
    | false => exact ⟨_, _, step?_setting_of_unset hset⟩
  | closing | waking => exact ⟨_, _, rfl⟩
  | returned released => exact absurd rfl (h released)

/-- What a call comes to if nobody else acts. -/
def finish : Call → Switch → Bool × Switch
  | setting, s => s.request
  | closing, s => (true, s.release.wake)
  | waking, s => (true, s.wake)
  | returned released, s => (released, s)

theorem finish_step? {c d : Call} {s t : Switch} (h : c.step? s = some (d, t)) :
    d.finish t = c.finish s := by
  cases c with
  | setting =>
    cases hset : s.isSet with
    | true =>
      rw [step?_setting_of_isSet hset] at h
      cases h
      simp only [finish, Switch.request, Switch.trySet, hset, if_true]
    | false =>
      rw [step?_setting_of_unset hset] at h
      cases h
      simp only [finish, Switch.request, Switch.trySet, hset]
      rfl
  | closing | waking =>
    cases h
    rfl
  | returned released => cases h

/-! ### What a step leaves as it is -/

section Frame
variable {c d : Call} {s t : Switch}

theorem isSet_step? (h : c.step? s = some (d, t)) (hset : s.isSet = true) : t.isSet = true := by
  obtain ⟨-, -, -, rfl⟩ | ⟨-, -, -, rfl⟩ | ⟨-, -, rfl⟩ | ⟨-, -, rfl⟩ := step?_cases h
  · exact hset
  · rfl
  · exact hset
  · rcases s.wake_eq with hwake | hwake <;> rw [hwake] <;> exact hset

theorem hasOwner_step? (h : c.step? s = some (d, t)) : t.hasOwner = s.hasOwner := by
  obtain ⟨-, -, -, rfl⟩ | ⟨-, -, -, rfl⟩ | ⟨-, -, rfl⟩ | ⟨-, -, rfl⟩ := step?_cases h
  · rfl
  · rfl
  · rfl
  · rcases s.wake_eq with hwake | hwake <;> rw [hwake]

theorem closed_le_step? (h : c.step? s = some (d, t)) : s.closed ≤ t.closed := by
  obtain ⟨-, -, -, rfl⟩ | ⟨-, -, -, rfl⟩ | ⟨-, -, rfl⟩ | ⟨-, -, rfl⟩ := step?_cases h
  · exact Nat.le_refl _
  · exact Nat.le_refl _
  · exact Nat.le_succ _
  · rcases s.wake_eq with hwake | hwake <;> exact Nat.le_of_eq (congrArg Switch.closed hwake).symm

/-- A step that sets the switch leaves the call about to close the transport. -/
theorem eq_closing_of_step? (h : c.step? s = some (d, t)) (hunset : s.isSet = false)
    (hset : t.isSet = true) : d = closing := by
  have hsame : t.isSet = s.isSet → d = closing := fun heq =>
    absurd (hunset.symm.trans (heq.symm.trans hset)) Bool.false_ne_true
  obtain ⟨-, -, -, rfl⟩ | ⟨-, -, rfl, -⟩ | ⟨-, -, rfl⟩ | ⟨-, -, rfl⟩ := step?_cases h
  · exact hsame rfl
  · rfl
  · exact hsame rfl
  · refine hsame ?_
    rcases s.wake_eq with hwake | hwake <;> rw [hwake]

end Frame

/-! ### Several calls -/

/-- One of several calls takes a step. -/
def StepOf (calls : List Call) (s : Switch) (after : List Call) (t : Switch) : Prop :=
  ∃ i c d, calls[i]? = some c ∧ c.step? s = some (d, t) ∧ after = calls.set i d

/-- A switch that is not set has not been touched, and no call is past its first step. -/
def Orderly (calls : List Call) (s : Switch) : Prop :=
  s.isSet = false → s = .new ∧ ∀ c ∈ calls, c ≠ closing ∧ c ≠ waking

theorem StepOf.isSet {calls after : List Call} {s t : Switch} (h : StepOf calls s after t)
    (hset : s.isSet = true) : t.isSet = true := by
  obtain ⟨_, _, _, -, hstep, -⟩ := h
  exact isSet_step? hstep hset

/-- Only the first step of a call leaves the switch unset, and only if it finds it set. -/
theorem Orderly.stepOf {calls after : List Call} {s t : Switch} (h : Orderly calls s)
    (hstep : StepOf calls s after t) : Orderly after t := by
  intro hunset
  have hbefore : s.isSet = false := by
    cases hs : s.isSet
    · rfl
    · rw [hstep.isSet hs] at hunset
      cases hunset
  obtain ⟨i, c, d, hc, hstep, -⟩ := hstep
  obtain ⟨-, hcalls⟩ := h hbefore
  cases c with
  | setting =>
    -- The step sets the switch.
    rw [step?_setting_of_unset hbefore] at hstep
    cases hstep
    cases hunset
  | closing => exact absurd rfl (hcalls _ (List.mem_of_getElem? hc)).1
  | waking => exact absurd rfl (hcalls _ (List.mem_of_getElem? hc)).2
  | returned released => cases hstep

/-- How many steps a call has left at most. -/
def stepsLeft : Call → Nat
  | setting => 3
  | closing => 2
  | waking => 1
  | returned _ => 0

def stepsLeftOf (calls : List Call) : Nat := calls.foldr (fun c n => c.stepsLeft + n) 0

theorem stepsLeft_step? {c d : Call} {s t : Switch} (h : c.step? s = some (d, t)) :
    d.stepsLeft < c.stepsLeft := by
  obtain ⟨rfl, -, rfl, -⟩ | ⟨rfl, -, rfl, -⟩ | ⟨rfl, rfl, -⟩ | ⟨rfl, rfl, -⟩ := step?_cases h <;>
    decide

theorem stepsLeftOf_set {calls : List Call} {i : Nat} {c d : Call} (h : calls[i]? = some c)
    (hless : d.stepsLeft < c.stepsLeft) : stepsLeftOf (calls.set i d) < stepsLeftOf calls := by
  induction calls generalizing i with
  | nil => cases h
  | cons first rest ih =>
    cases i with
    | zero =>
      cases h
      exact Nat.add_lt_add_right hless _
    | succ i => exact Nat.add_lt_add_left (ih h) _

/-- Calls cannot take steps for ever. -/
theorem StepOf.stepsLeftOf_lt {calls after : List Call} {s t : Switch}
    (h : StepOf calls s after t) : stepsLeftOf after < stepsLeftOf calls := by
  obtain ⟨_, _, _, hc, hstep, rfl⟩ := h
  exact stepsLeftOf_set hc (stepsLeft_step? hstep)

/-- Without calls the switch stays as it is. -/
theorem not_stepOf_nil {s t : Switch} {after : List Call} : ¬StepOf [] s after t := by
  rintro ⟨_, _, _, hc, -⟩
  rw [List.getElem?_nil] at hc
  cases hc

end Call

end SnapshotFeed
