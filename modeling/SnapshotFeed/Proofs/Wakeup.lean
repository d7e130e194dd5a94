import SnapshotFeed.Proofs.Calls
import SnapshotFeed.Proofs.Steps

/-! Calls for shutdown, and the pause they end.

Any number of calls take their steps, the worker pauses over and over, and anyone may read the
switch, in any order. A pause ends in one step: it takes the message if there is one, and else it
ends once its time is over. `releases_once`: one call releases the transport, and its message is not
lost. The invariant is a count of where the calls stand (`Once`): the switch, the closes, the message
and the pauses ended by it all follow from that. -/
namespace SnapshotFeed

/-- Where the worker stands with its pauses. -/
inductive Sleeper where
  | awake
  | asleep
  /-- The time of the pause is over, and the pause is not. -/
  | due
  deriving DecidableEq, Repr

/-- Calls and the worker, around one switch. -/
structure SharedSwitch where
  calls : List Call
  switch : Switch
  sleeper : Sleeper
  deriving DecidableEq, Repr

namespace SharedSwitch

/-- So many calls are going to be made, whenever they like. -/
def new (n : Nat) : SharedSwitch := ⟨List.replicate n .setting, .new, .awake⟩

inductive Event where
  /-- A call takes a step, and then stands there. -/
  | calls (index : Nat) (stand : Call)
  /-- Somebody reads the switch. -/
  | looks (found : Bool)
  | sleeps
  | expires
  | wakes (ending : PauseEnd)
  deriving DecidableEq, Repr

inductive Happens : SharedSwitch → Event → SharedSwitch → Prop where
  | calls {w : SharedSwitch} {i : Nat} {c d : Call} {switch : Switch} : w.calls[i]? = some c →
    c.step? w.switch = some (d, switch) →
      Happens w (.calls i d) {w with calls := w.calls.set i d, switch}
  | looks {w : SharedSwitch} : Happens w (.looks w.switch.isSet) w
  | sleeps {w : SharedSwitch} : w.sleeper = .awake → Happens w .sleeps {w with sleeper := .asleep}
  | expires {w : SharedSwitch} : w.sleeper = .asleep → Happens w .expires {w with sleeper := .due}
  | elapses {w : SharedSwitch} {switch : Switch} : w.sleeper = .due →
    w.switch.pause = (.elapsed, switch) →
      Happens w (.wakes .elapsed) {w with switch, sleeper := .awake}
  | stops {w : SharedSwitch} {switch : Switch} : w.sleeper ≠ .awake →
    w.switch.pause = (.stopped, switch) →
      Happens w (.wakes .stopped) {w with switch, sleeper := .awake}

/-! ### One call that releases -/

/-- One call stands elsewhere. -/
theorem count_set {calls : List Call} {i : Nat} {c : Call} (h : calls[i]? = some c) (d x : Call) :
    (calls.set i d).count x + (if c = x then 1 else 0) =
      calls.count x + if d = x then 1 else 0 := by
  obtain ⟨hlt, rfl⟩ := List.getElem?_eq_some_iff.mp h
  rw [List.count_set hlt]
  by_cases hx : calls[i] = x
  · have hpos : 0 < calls.count x := List.count_pos_iff.mpr (hx ▸ List.getElem_mem hlt)
    simp only [hx, beq_self_eq_true, if_true, beq_iff_eq]
    omega
  · simp only [hx, beq_iff_eq, if_false]
    omega

/-- Of the calls, one at most is past its first step and not turned away. Where it stands tells what
was done to the switch, `stopped` being the pauses that took a message. -/
structure Once (calls : List Call) (s : Switch) (stopped : Nat) : Prop where
  hasOwner : s.hasOwner = true
  isSet : calls.count .closing + calls.count .waking + calls.count (.returned true) = s.isSet.toNat
  closed : calls.count .waking + calls.count (.returned true) = s.closed
  pending : calls.count (.returned true) = s.pending + stopped
  refused : .returned false ∈ calls → s.isSet = true

theorem once_new (n : Nat) : Once (new n).calls (new n).switch 0 := by
  refine ⟨rfl, ?_, ?_, ?_, ?_⟩ <;> simp [new, Switch.new, List.count_replicate]

namespace Once
variable {calls : List Call} {s t : Switch} {stopped : Nat}

/-- No message is there when one is left. -/
theorem pending_eq_zero (h : Once calls s stopped) (hmem : .waking ∈ calls) : s.pending = 0 := by
  have hwaking := List.count_pos_iff.mpr hmem
  have hone := Bool.toNat_le s.isSet
  have hset := h.isSet
  have hpending := h.pending
  omega

theorem isSet_of_pos (h : Once calls s stopped)
    (hpos : 0 < calls.count .closing + calls.count .waking + calls.count (.returned true)) :
    s.isSet = true := by
  rw [h.isSet] at hpos
  cases hset : s.isSet with
  | true => rfl
  | false =>
    rw [hset] at hpos
    cases hpos

/-- Nobody is past the first step before the switch is set. -/
theorem isSet_of_mem (h : Once calls s stopped) {c : Call} (hmem : c ∈ calls)
    (hpast : c ≠ .setting) : s.isSet = true := by
  have hpos := List.count_pos_iff.mpr hmem
  cases c with
  | setting => exact absurd rfl hpast
  | closing | waking => exact h.isSet_of_pos (by omega)
  | returned released =>
    cases released with
    | true => exact h.isSet_of_pos (by omega)
    | false => exact h.refused hmem

theorem isSet_of_closed (h : Once calls s stopped) (hclosed : 0 < s.closed) : s.isSet = true := by
  rw [← h.closed] at hclosed
  exact h.isSet_of_pos (by omega)

/-- Of calls that have all returned, one has released. -/
theorem of_all_returned (h : Once calls s stopped) (hne : calls ≠ [])
    (hall : ∀ c ∈ calls, ∃ released, c = .returned released) :
    calls.count (.returned true) = 1 ∧ s.closed = 1 := by
  have hnone : ∀ c, (∀ released, c ≠ .returned released) → calls.count c = 0 := by
    intro c hc
    refine List.count_eq_zero.mpr fun hmem => ?_
    obtain ⟨released, rfl⟩ := hall c hmem
    exact hc released rfl
  have hclosing := hnone .closing nofun
  have hwaking := hnone .waking nofun
  obtain ⟨c, hc⟩ := List.exists_mem_of_ne_nil calls hne
  obtain ⟨released, rfl⟩ := hall c hc
  have hset := h.isSet
  have hclosed := h.closed
  rw [h.isSet_of_mem hc nofun, Bool.toNat_true] at hset
  omega

/-- The steps of a call. -/
theorem step {i : Nat} {c d : Call} (h : Once calls s stopped) (hc : calls[i]? = some c)
    (hstep : c.step? s = some (d, t)) : Once (calls.set i d) t stopped := by
  have hmem : c ∈ calls := List.mem_of_getElem? hc
  have hpast := h.isSet_of_mem hmem
  have hempty := h.pending_eq_zero
  obtain ⟨hasOwner, hset, hclosed, hpending, hrefused⟩ := h
  have hclosing := count_set hc d .closing
  have hwaking := count_set hc d .waking
  have hreturned := count_set hc d (.returned true)
  cases c with
  | setting =>
    cases hisSet : s.isSet with
    | true =>
      rw [Call.step?_setting_of_isSet hisSet] at hstep
      cases hstep
      simp only [reduceCtorEq, Call.returned.injEq, if_false] at hclosing hwaking hreturned
      refine ⟨hasOwner, ?_, ?_, ?_, fun _ => hisSet⟩ <;> omega
    | false =>
      rw [Call.step?_setting_of_unset hisSet] at hstep
      cases hstep
      simp only [reduceCtorEq, if_true, if_false] at hclosing hwaking hreturned
      rw [hisSet, Bool.toNat_false] at hset
      refine ⟨hasOwner, ?_, ?_, ?_, fun _ => rfl⟩ <;> simp only [Bool.toNat_true] <;> omega
  | closing =>
    cases hstep
    simp only [reduceCtorEq, if_true, if_false] at hclosing hwaking hreturned
    have hset' : s.release.isSet.toNat = s.isSet.toNat := rfl
    have hclosed' : s.release.closed = s.closed + 1 := rfl
    have hpending' : s.release.pending = s.pending := rfl
    refine ⟨hasOwner, ?_, ?_, ?_, fun _ => hpast nofun⟩ <;> omega
  | waking =>
    have hwake : s.wake = {s with pending := 1} := if_pos (hempty hmem)
    cases hstep
    rw [hempty hmem] at hpending
    simp only [reduceCtorEq, if_true, if_false] at hclosing hwaking hreturned
    rw [hwake]
    refine ⟨hasOwner, ?_, ?_, ?_, fun _ => hpast nofun⟩ <;> simp only <;> omega
  | returned released => cases hstep

/-- Another call. -/
theorem begins (h : Once calls s stopped) : Once (calls ++ [.setting]) s stopped := by
  have hcount : ∀ c, Call.setting ≠ c → (calls ++ [Call.setting]).count c = calls.count c := by
    intro c hc
    rw [List.count_append, List.count_cons_of_ne hc, List.count_nil, Nat.add_zero]
  have hclosing := hcount .closing nofun
  have hwaking := hcount .waking nofun
  have hreturned := hcount (.returned true) nofun
  refine ⟨h.hasOwner, ?_, ?_, ?_, fun hmem => h.refused ?_⟩
  · rw [hclosing, hwaking, hreturned, h.isSet]
  · rw [hwaking, hreturned, h.closed]
  · rw [hreturned, h.pending]
  · simpa using hmem

/-- A pause whose time is over finds no message. -/
theorem pause_eq_elapsed_iff (h : Once calls s stopped) :
    s.pause = (.elapsed, t) ↔ s.pending = 0 ∧ t = s := by
  have hasOwner := h.hasOwner
  unfold Switch.pause
  by_cases hpos : 0 < s.pending
  · simp [hpos, Nat.ne_of_gt hpos]
  · simp [Nat.eq_zero_of_not_pos hpos, hasOwner, eq_comm]

/-- A pause that is stopped takes the message. -/
theorem pause_eq_stopped_iff (h : Once calls s stopped) :
    s.pause = (.stopped, t) ↔ 0 < s.pending ∧ t = {s with pending := s.pending - 1} := by
  have hasOwner := h.hasOwner
  unfold Switch.pause
  by_cases hpos : 0 < s.pending
  · simp [hpos, eq_comm]
  · simp [hpos, hasOwner]

theorem stop (h : Once calls s stopped) (hpause : s.pause = (.stopped, t)) :
    Once calls t (stopped + 1) := by
  obtain ⟨hpos, rfl⟩ := h.pause_eq_stopped_iff.mp hpause
  have hpending := h.pending
  refine ⟨h.hasOwner, h.isSet, h.closed, ?_, h.refused⟩
  show _ = s.pending - 1 + (stopped + 1)
  omega

end Once

/-! ### Whoever acts -/

/-- The pauses that took a message. -/
def taken (es : List Event) : Nat := es.count (.wakes .stopped)

theorem taken_snoc (es : List Event) (e : Event) :
    taken (es ++ [e]) = taken es + if e = .wakes .stopped then 1 else 0 := by
  simp [taken, List.count_singleton]

section
variable {w v : SharedSwitch} {e : Event} {es : List Event} {n : Nat}

theorem Happens.isSet (h : Happens w e v) (hset : w.switch.isSet = true) :
    v.switch.isSet = true := by
  cases h with
  | calls _ hstep => exact Call.isSet_step? hstep hset
  | elapses _ hpause | stops _ hpause =>
    have hkept := Switch.isSet_pause w.switch
    rw [hpause] at hkept
    exact hkept.trans hset
  | _ => exact hset

theorem Happens.length_calls (h : Happens w e v) : v.calls.length = w.calls.length := by
  cases h with
  | calls _ _ => exact List.length_set
  | _ => rfl

/-- A call that has returned stays so. -/
theorem Happens.returned {released : Bool} (h : Happens w e v)
    (hmem : .returned released ∈ w.calls) : .returned released ∈ v.calls := by
  cases h with
  | @calls _ c d _ hc hstep =>
    have hcount := count_set hc d (.returned released)
    have hne : c ≠ .returned released := by
      rintro rfl
      cases hstep
    have hpos := List.count_pos_iff.mpr hmem
    rw [if_neg hne, Nat.add_zero] at hcount
    refine List.count_pos_iff.mp ?_
    show 0 < (w.calls.set _ d).count (.returned released)
    omega
  | _ => exact hmem

theorem Happens.once (h : Happens w e v) (hw : Once w.calls w.switch (taken es)) :
    Once v.calls v.switch (taken (es ++ [e])) := by
  rw [taken_snoc]
  cases h with
  | calls hc hstep => exact hw.step hc hstep
  | stops _ hpause => exact hw.stop hpause
  | elapses _ hpause =>
    obtain ⟨-, rfl⟩ := hw.pause_eq_elapsed_iff.mp hpause
    exact hw
  | _ => exact hw

theorem once_of_steps (h : Steps Happens (new n) es w) : Once w.calls w.switch (taken es) :=
  h.invariant_along (P := fun es w => Once w.calls w.switch (taken es))
    (fun _ _ _ _ => Happens.once) (once_new n)

theorem length_calls_of_steps (h : Steps Happens (new n) es w) : w.calls.length = n :=
  h.invariant (P := fun w => w.calls.length = n) (fun _ _ _ hstep => hstep.length_calls.trans)
    List.length_replicate

/-- Once the switch is set, nobody reads that it is not. -/
theorem isSet_of_steps (h : Steps Happens w es v) (hset : w.switch.isSet = true) :
    v.switch.isSet = true ∧ .looks false ∉ es := by
  refine h.invariant_along (P := fun es v => v.switch.isSet = true ∧ .looks false ∉ es) ?_
    ⟨hset, List.not_mem_nil⟩
  rintro es s e t hstep ⟨hs, hlooks⟩
  refine ⟨hstep.isSet hs, ?_⟩
  rw [List.mem_append, List.mem_singleton]
  rintro (hmem | rfl)
  · exact hlooks hmem
  · generalize hlook : Event.looks false = look at hstep
    cases hstep with
    | looks =>
      rw [hs] at hlook
      cases hlook
    | _ => cases hlook

/-- Once a call has left the message, it is there until a pause takes it. -/
theorem pending_pos (h : Steps Happens (new n) es w) (hreturned : .returned true ∈ w.calls)
    (hstops : .wakes .stopped ∉ es) : 0 < w.switch.pending := by
  have hpending := (once_of_steps h).pending
  have hpos := List.count_pos_iff.mpr hreturned
  have hnone : taken es = 0 := List.count_eq_zero.mpr hstops
  omega

/-- The first pause that ends after the call that released. -/
theorem stopped_of_steps (h : Steps Happens (new n) es w) (hreturned : .returned true ∈ w.calls)
    (hstops : .wakes .stopped ∉ es) {more : List Event} {ending : PauseEnd}
    (hmore : ∀ other, .wakes other ∉ more) (hsteps : Steps Happens w (more ++ [.wakes ending]) v) :
    ending = .stopped := by
  obtain ⟨u, hu, hlast⟩ := Steps.append_iff.mp hsteps
  have hall : Steps Happens (new n) (es ++ more) u := Steps.append_iff.mpr ⟨w, h, hu⟩
  have hreturned' : .returned true ∈ u.calls :=
    hu.invariant (P := fun w => .returned true ∈ w.calls) (fun _ _ _ => Happens.returned) hreturned
  have hstops' : .wakes .stopped ∉ es ++ more := by
    rw [List.mem_append]
    exact fun hmem => hmem.elim hstops (hmore _)
  have hpos := pending_pos hall hreturned' hstops'
  cases Steps.singleton_iff.mp hlast with
  | stops => rfl
  | elapses _ hpause =>
    obtain ⟨hzero, -⟩ := (once_of_steps hall).pause_eq_elapsed_iff.mp hpause
    omega

/-- **One call releases the transport, and no wake-up is lost.** However many calls there are, and
in whatever order they, the pauses and those who read the switch act: one call returns true and
closes the transport, once, and only after the switch was set, which it stays. There is room for the
message it leaves, and the first pause to end after that takes it. -/
theorem releases_once (h : Steps Happens (new n) es w) :
    (w.calls.count (.returned true) ≤ 1 ∧ w.switch.closed ≤ 1 ∧
      (0 < n → (∀ c ∈ w.calls, ∃ released, c = .returned released) →
        w.calls.count (.returned true) = 1 ∧ w.switch.closed = 1)) ∧
    (.closing ∈ w.calls ∨ 0 < w.switch.closed → w.switch.isSet = true) ∧
    (w.switch.isSet = true → ∀ more v, Steps Happens w more v →
      v.switch.isSet = true ∧ .looks false ∉ more) ∧
    (w.switch.pending ≤ 1 ∧ (.waking ∈ w.calls → w.switch.pending = 0)) ∧
    (.returned true ∈ w.calls → .wakes .stopped ∉ es →
      (w.sleeper ≠ .awake → ∃ v, Happens w (.wakes .stopped) v) ∧
      ∀ more ending v, (∀ other, .wakes other ∉ more) →
        Steps Happens w (more ++ [.wakes ending]) v → ending = .stopped) ∧
    ∀ i c, w.calls[i]? = some c → (∀ released, c ≠ .returned released) →
      ∃ d v, Happens w (.calls i d) v := by
  have honce := once_of_steps h
  have hone := Bool.toNat_le w.switch.isSet
  have hset := honce.isSet
  have hclosed := honce.closed
  have hpending := honce.pending
  refine ⟨⟨by omega, by omega, ?_⟩, ?_, fun hset more v hmore => isSet_of_steps hmore hset,
    ⟨by omega, honce.pending_eq_zero⟩, ?_, ?_⟩
  · intro hn hall
    have hlength := length_calls_of_steps h
    exact honce.of_all_returned (List.ne_nil_of_length_pos (by omega)) hall
  · rintro (hmem | hpos)
    · exact honce.isSet_of_mem hmem nofun
    · exact honce.isSet_of_closed hpos
  · intro hreturned hstops
    refine ⟨fun hsleeper => ?_, fun more ending v => stopped_of_steps h hreturned hstops⟩
    have hpos := pending_pos h hreturned hstops
    exact ⟨_, .stops hsleeper (honce.pause_eq_stopped_iff.mpr ⟨hpos, rfl⟩)⟩
  · intro i c hc hcalls
    obtain ⟨d, t, hstep⟩ := Call.exists_step? hcalls w.switch
    exact ⟨d, _, .calls hc hstep⟩

end

/-- A pause begins before two calls, and its time is over after the one that releases. -/
theorem stopped_after_two_calls :
    let es := [.sleeps, .looks false, .calls 0 .closing, .calls 1 (.returned false),
      .calls 0 .waking, .looks true, .calls 0 (.returned true)]
    ∃ w, Steps Happens (new 2) es w ∧ w.calls = [.returned true, .returned false] ∧
      w.switch.closed = 1 ∧ (∃ v, Steps Happens w [.expires, .wakes .stopped] v) ∧
        ∀ ending v, Steps Happens w [.expires, .wakes ending] v → ending = .stopped := by
  intro es
  let w : SharedSwitch := ⟨[.returned true, .returned false], ⟨true, 1, 1, true⟩, .asleep⟩
  have hsteps : Steps Happens (new 2) es w :=
    .cons (.sleeps rfl) <| .cons .looks <| .cons (.calls rfl rfl) <| .cons (.calls rfl rfl) <|
      .cons (.calls rfl rfl) <| .cons .looks <| .cons (.calls rfl rfl) .nil
  have hstop : Steps Happens w [.expires, .wakes .stopped]
      ⟨w.calls, ⟨true, 1, 0, true⟩, .awake⟩ :=
    .cons (.expires rfl) <| .cons (.stops nofun rfl) .nil
  have hreturned : .returned true ∈ w.calls := List.mem_cons_self
  have hstops : .wakes .stopped ∉ es := by decide
  obtain ⟨-, -, -, -, hfirst, -⟩ := releases_once hsteps
  exact ⟨w, hsteps, rfl, rfl, ⟨_, hstop⟩, fun ending v =>
    (hfirst hreturned hstops).2 [.expires] ending v (by simp)⟩

end SharedSwitch

end SnapshotFeed
