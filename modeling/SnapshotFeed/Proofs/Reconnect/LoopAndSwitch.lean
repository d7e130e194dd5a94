import SnapshotFeed.Proofs.Reconnect.Reaction
import SnapshotFeed.Proofs.Wakeup

/-! What ends the loop.

Sessions answer as they like, pauses elapse when they like, and calls for shutdown take their steps
in between. The loop keeps a handle on the switch until it is over; others come and go. Only with the
last handle does the switch lose its owner, so a pause that stops has taken a message, and only a
call that has set the switch leaves one. `ends_only_once_set`: the loop takes no way out before the
switch is set. -/
namespace SnapshotFeed

/-- The switch as if an owner were left. -/
def Switch.owned (s : Switch) : Switch := {s with hasOwner := true}

theorem Switch.wake_owned (s : Switch) : s.owned.wake = s.wake.owned := by
  unfold wake
  by_cases hempty : s.pending = 0
  · rw [if_pos hempty, if_pos (show s.owned.pending = 0 from hempty)]
    rfl
  · rw [if_neg hempty, if_neg (show s.owned.pending ≠ 0 from hempty)]

namespace Call
variable {c d : Call} {s t : Switch}

/-- No call asks for the owner. -/
theorem step?_owned (h : c.step? s = some (d, t)) : c.step? s.owned = some (d, t.owned) := by
  obtain ⟨rfl, hset, rfl, rfl⟩ | ⟨rfl, hunset, rfl, rfl⟩ | ⟨rfl, rfl, rfl⟩ | ⟨rfl, rfl, rfl⟩ :=
    step?_cases h
  · exact step?_setting_of_isSet (s := t.owned) hset
  · exact step?_setting_of_unset (s := s.owned) hunset
  · rfl
  · exact congrArg (fun t => some (returned true, t)) s.wake_owned

end Call

namespace Reconnect

/-- The loop is on its way out. -/
def Phase.isLeaving : Phase → Bool
  | reporting _ after | releasing after => after.isLeaving
  | ended => true
  | _ => false

theorem State.isLeaving_handle (s : State) (m : Message) :
    (s.handle m).phase.isLeaving = false := by
  obtain ⟨_, -, h⟩ | ⟨_, -, h⟩ | ⟨_, -, h⟩ | ⟨-, h⟩ := s.handle_cases m <;> rw [h] <;> rfl

/-- The loop takes the way out in a look that finds the switch set, or in a pause that is stopped. -/
theorem Turn.isLeaving_after {t : Turn} (h : t.after.phase.isLeaving = true) :
    t.state.phase.isLeaving = true ∨ (∀ isSet, t.Finds isSet → isSet = true) ∨
      ∃ delay b capacity, t = ⟨⟨.pausing delay, b, capacity⟩, .stopped⟩ := by
  obtain ⟨⟨phase, b, capacity⟩, answer⟩ := t
  cases phase with
  | reporting notice after | releasing after => exact .inl h
  | connecting | refused cause | streaming | settled =>
    cases answer with
    | true => exact .inr (.inl fun _ => Eq.symm)
    | false => cases h
  | received message =>
    cases answer with
    | true => exact .inr (.inl fun _ => Eq.symm)
    | false =>
      rw [Turn.after, State.next_received_of_unset] at h
      exact absurd ((State.isLeaving_handle _ _).symm.trans h) Bool.false_ne_true
  | pausing delay =>
    cases answer with
    | elapsed => cases h
    | stopped => exact .inr (.inr ⟨delay, b, capacity, rfl⟩)
  | preparing =>
    simp only [Turn.after, State.next, State.prepare] at h
    split at h <;> cases h
  | drawing =>
    simp only [Turn.after, State.next, State.pauseAfter] at h
    split at h <;> cases h
  | ended | crashed cause => exact answer.elim
  | _ => cases answer <;> cases h

/-- What a turn has to do with the switch: it looks at it, or pauses. -/
def Turn.Passes : Turn → Switch → Switch → Prop
  | ⟨⟨.pausing _, _, _⟩, ending⟩, s, s' => s.Ends ending s'
  | t, s, s' => t.Finds s.isSet ∧ s' = s

theorem Turn.Passes.finds {t : Turn} {s s' : Switch} (h : t.Passes s s') : t.Finds s.isSet := by
  obtain ⟨⟨phase, b, capacity⟩, answer⟩ := t
  cases phase with
  | pausing delay => trivial
  | _ => exact h.1

/-- A turn leaves the switch alone, unless it stops a pause. -/
theorem Turn.Passes.switch {t : Turn} {s s' : Switch} (h : t.Passes s s') :
    s' = s ∨ s.pause = (.stopped, s') := by
  obtain ⟨⟨phase, b, capacity⟩, answer⟩ := t
  cases phase with
  | pausing delay => exact h.eq_or_pause
  | _ => exact .inl h.2

theorem Turn.Passes.pause_eq_stopped {delay : Duration} {b : Backoff} {capacity : Nat}
    {s s' : Switch} (h : Turn.Passes ⟨⟨.pausing delay, b, capacity⟩, .stopped⟩ s s') :
    s.pause = (.stopped, s') := by
  cases h with
  | stopped hpause => exact hpause

/-- Nothing is asked once the loop is over. -/
theorem Phase.isFinal_of_answer {p : Phase} (answer : p.Answer) : p.isFinal = false := by
  cases p with
  | ended | crashed cause => exact answer.elim
  | _ => rfl

/-- The loop among calls for shutdown, and the handles on the switch. -/
structure LoopAndSwitch where
  loop : State
  calls : List Call
  switch : Switch
  /-- The handles that are not the loop's. -/
  others : Nat
  /-- The loop has let go of its handle. -/
  isRetired : Bool

namespace LoopAndSwitch

/-- A loop that has done nothing, and so many handles besides its own. -/
def new (initial longest : Duration) (capacity others : Nat) : LoopAndSwitch :=
  ⟨.start initial longest capacity, [], .new, others, false⟩

/-- With the last handle the switch loses its owner. -/
def settle (w : LoopAndSwitch) : LoopAndSwitch :=
  if w.others = 0 ∧ w.isRetired = true then {w with switch := w.switch.disown} else w

inductive Event where
  | turn (t : Turn)
  /-- A call takes a step, and then stands there. -/
  | calls (index : Nat) (stand : Call)
  /-- Another call for shutdown. -/
  | begins
  | clones
  | drops
  | retires

inductive Happens : LoopAndSwitch → Event → LoopAndSwitch → Prop where
  | turn {w : LoopAndSwitch} {answer : w.loop.phase.Answer} {switch : Switch} :
    Turn.Passes ⟨w.loop, answer⟩ w.switch switch →
      Happens w (.turn ⟨w.loop, answer⟩) {w with loop := w.loop.next answer, switch}
  | calls {w : LoopAndSwitch} {i : Nat} {c d : Call} {switch : Switch} : w.calls[i]? = some c →
    c.step? w.switch = some (d, switch) →
      Happens w (.calls i d) {w with calls := w.calls.set i d, switch}
  | begins {w : LoopAndSwitch} : w.switch.hasOwner = true →
    Happens w .begins {w with calls := w.calls ++ [.setting]}
  | clones {w : LoopAndSwitch} : w.switch.hasOwner = true →
    Happens w .clones {w with others := w.others + 1}
  | drops {w : LoopAndSwitch} : 0 < w.others →
    Happens w .drops {w with others := w.others - 1}.settle
  | retires {w : LoopAndSwitch} : w.loop.phase.isFinal = true →
    Happens w .retires {w with isRetired := true}.settle

/-! ### What an event leaves alone -/

/-- What becomes of the calls. -/
def Event.callsAfter (calls : List Call) : Event → List Call
  | .calls i stand => calls.set i stand
  | begins => calls ++ [.setting]
  | _ => calls

section Frame
variable {w v : LoopAndSwitch} {e : Event}

theorem settle_frame (w : LoopAndSwitch) : w.settle.loop = w.loop ∧ w.settle.calls = w.calls ∧
    w.settle.switch.isSet = w.switch.isSet ∧ w.settle.switch.closed = w.switch.closed := by
  unfold settle
  split <;> exact ⟨rfl, rfl, rfl, rfl⟩

theorem Happens.calls_eq (h : Happens w e v) : v.calls = e.callsAfter w.calls := by
  cases h with
  | drops | retires => exact (settle_frame _).2.1
  | _ => rfl

/-- Only a turn moves the loop. -/
theorem Happens.loop_eq (h : Happens w e v) (hturn : ∀ t, e ≠ .turn t) : v.loop = w.loop := by
  cases h with
  | turn => exact absurd rfl (hturn _)
  | drops | retires => exact (settle_frame _).1
  | _ => rfl

/-- Whoever takes a step has not returned. -/
theorem Happens.exists_call {i : Nat} {stand : Call} (h : Happens w (.calls i stand) v) :
    ∃ c, w.calls[i]? = some c ∧ ∀ released, c ≠ .returned released := by
  cases h with
  | calls hc hcall =>
    refine ⟨_, hc, ?_⟩
    rintro released rfl
    cases hcall

/-- The switch stays set, and what was closed stays closed. -/
theorem Happens.switch_le (h : Happens w e v) :
    (w.switch.isSet = true → v.switch.isSet = true) ∧ w.switch.closed ≤ v.switch.closed := by
  cases h with
  | turn hpasses =>
    rcases hpasses.switch with rfl | hpause
    · exact ⟨id, Nat.le_refl _⟩
    · have hclosed := w.switch.closed_pause
      have hset := w.switch.isSet_pause
      rw [hpause] at hclosed hset
      exact ⟨fun h => hset.trans h, Nat.le_of_eq hclosed.symm⟩
  | calls _ hcall => exact ⟨Call.isSet_step? hcall, Call.closed_le_step? hcall⟩
  | drops | retires =>
    obtain ⟨-, -, hset, hclosed⟩ := settle_frame _
    exact ⟨fun h => hset.trans h, Nat.le_of_eq hclosed.symm⟩
  | _ => exact ⟨id, Nat.le_refl _⟩

end Frame

/-- What is kept: until the loop is over the switch has an owner, and on its way out it is set. -/
structure Kept (es : List Event) (w : LoopAndSwitch) : Prop where
  final : w.isRetired = true → w.loop.phase.isFinal = true
  owned : w.isRetired = false → w.switch.hasOwner = true
  once : ∃ stopped, SharedSwitch.Once w.calls w.switch.owned stopped
  leaving : w.loop.phase.isLeaving = true → w.switch.isSet = true
  set : w.switch.isSet = true → ∃ i, .calls i .closing ∈ es

section Kept
variable {es : List Event} {w v : LoopAndSwitch} {e : Event}

theorem kept_new (initial longest : Duration) (capacity others : Nat) :
    Kept [] (new initial longest capacity others) where
  final := nofun
  owned _ := rfl
  once := ⟨0, SharedSwitch.once_new 0⟩
  leaving := nofun
  set := nofun

theorem Kept.isRetired (h : Kept es w) (hfinal : w.loop.phase.isFinal = false) :
    w.isRetired = false := by
  cases hretired : w.isRetired with
  | true => exact absurd (hfinal.symm.trans (h.final hretired)) Bool.false_ne_true
  | false => rfl

theorem Kept.owned_eq (h : Kept es w) (hfinal : w.loop.phase.isFinal = false) :
    w.switch.owned = w.switch := by
  rw [Switch.owned, ← h.owned (h.isRetired hfinal)]

/-- As long as the loop is not over, a pause that is stopped takes a message. -/
theorem Kept.pause_eq_stopped_iff (h : Kept es w) (hfinal : w.loop.phase.isFinal = false)
    {switch : Switch} : w.switch.pause = (.stopped, switch) ↔
      0 < w.switch.pending ∧ switch = {w.switch with pending := w.switch.pending - 1} := by
  obtain ⟨stopped, honce⟩ := h.once
  rw [h.owned_eq hfinal] at honce
  exact honce.pause_eq_stopped_iff

/-- Only a call that has set the switch leaves a message. -/
theorem Kept.isSet_of_pending (h : Kept es w) (hpending : 0 < w.switch.pending) :
    w.switch.isSet = true := by
  obtain ⟨stopped, honce⟩ := h.once
  have hreturned := honce.pending
  have hpending' : 0 < w.switch.owned.pending := hpending
  exact honce.isSet_of_pos (by omega)

theorem Kept.closed_le_one (h : Kept es w) : w.switch.closed ≤ 1 := by
  obtain ⟨stopped, honce⟩ := h.once
  have hone := Bool.toNat_le w.switch.isSet
  have hset : _ = w.switch.isSet.toNat := honce.isSet
  have hclosed : _ = w.switch.closed := honce.closed
  omega

theorem Kept.closed_eq_one (h : Kept es w) (hreturned : .returned true ∈ w.calls) :
    w.switch.closed = 1 := by
  obtain ⟨stopped, honce⟩ := h.once
  have hpos := List.count_pos_iff.mpr hreturned
  have hle := h.closed_le_one
  have hclosed : _ = w.switch.closed := honce.closed
  omega

theorem Kept.settle (h : Kept es w) : Kept es w.settle := by
  unfold LoopAndSwitch.settle
  split
  · rename_i hlast
    refine ⟨h.final, fun hretired => ?_, h.once, h.leaving, h.set⟩
    exact absurd (hretired.symm.trans hlast.2) Bool.false_ne_true
  · exact h

theorem Kept.turn (h : Kept es w) {answer : w.loop.phase.Answer} {switch : Switch}
    (hpasses : Turn.Passes ⟨w.loop, answer⟩ w.switch switch) :
    Kept es {w with loop := w.loop.next answer, switch} := by
  have hfinal := Phase.isFinal_of_answer answer
  have hretired := h.isRetired hfinal
  obtain ⟨stopped, honce⟩ := h.once
  have hset : switch.isSet = w.switch.isSet := by
    rcases hpasses.switch with rfl | hpause
    · rfl
    · rw [← w.switch.isSet_pause, hpause]
  refine ⟨fun hretired' => ?_, fun _ => ?_, ?_, fun hleaving => ?_, fun hset' => ?_⟩
  · exact absurd (hretired.symm.trans hretired') Bool.false_ne_true
  · rcases hpasses.switch with rfl | hpause
    · exact h.owned hretired
    · -- The loop is not over, so the switch has an owner, and the pause took a message.
      obtain ⟨-, rfl⟩ := (h.pause_eq_stopped_iff hfinal).mp hpause
      exact h.owned hretired
  · rcases hpasses.switch with rfl | hpause
    · exact ⟨stopped, honce⟩
    · obtain ⟨hpending, rfl⟩ := (h.pause_eq_stopped_iff hfinal).mp hpause
      exact ⟨stopped + 1, honce.stop (honce.pause_eq_stopped_iff.mpr ⟨hpending, rfl⟩)⟩
  · refine hset.trans ?_
    rcases Turn.isLeaving_after (t := ⟨w.loop, answer⟩) hleaving with hbefore | hlook | ⟨_, _, _, heq⟩
    · exact h.leaving hbefore
    · exact hlook _ hpasses.finds
    · rw [heq] at hpasses
      obtain ⟨hpending, -⟩ := (h.pause_eq_stopped_iff hfinal).mp hpasses.pause_eq_stopped
      exact h.isSet_of_pending hpending
  · exact h.set (hset.symm.trans hset')

theorem Happens.kept (hstep : Happens w e v) (h : Kept es w) : Kept (es ++ [e]) v := by
  have hmono : ∀ {w : LoopAndSwitch}, Kept es w → Kept (es ++ [e]) w := fun h =>
    ⟨h.final, h.owned, h.once, h.leaving, fun hset =>
      (h.set hset).imp fun _ => List.mem_append_left _⟩
  cases hstep with
  | turn hpasses => exact hmono (h.turn hpasses)
  | @calls i c d switch hc hcall =>
    obtain ⟨stopped, honce⟩ := h.once
    refine ⟨h.final, fun hretired => ?_, ⟨stopped, honce.step hc (Call.step?_owned hcall)⟩,
      fun hleaving => Call.isSet_step? hcall (h.leaving hleaving), fun hset => ?_⟩
    · exact (Call.hasOwner_step? hcall).trans (h.owned hretired)
    · cases hbefore : w.switch.isSet with
      | true => exact (h.set hbefore).imp fun _ => List.mem_append_left _
      | false =>
        obtain rfl := Call.eq_closing_of_step? hcall hbefore hset
        exact ⟨i, List.mem_append_right _ List.mem_cons_self⟩
  | begins _ =>
    obtain ⟨stopped, honce⟩ := h.once
    exact hmono ⟨h.final, h.owned, ⟨stopped, honce.begins⟩, h.leaving, h.set⟩
  | clones _ => exact hmono ⟨h.final, h.owned, h.once, h.leaving, h.set⟩
  | drops _ => exact hmono (Kept.settle ⟨h.final, h.owned, h.once, h.leaving, h.set⟩)
  | retires hfinal =>
    exact hmono (Kept.settle ⟨fun _ => hfinal, nofun, h.once, h.leaving, h.set⟩)

theorem kept_of_steps {initial longest : Duration} {capacity others : Nat}
    (h : Steps Happens (new initial longest capacity others) es w) : Kept es w :=
  h.invariant_along (P := Kept) (fun _ _ _ _ hstep hkept => hstep.kept hkept) (kept_new ..)

/-- **Only shutdown ends the loop.** Whatever sessions answer, however pauses end, and whoever calls
for shutdown or drops a handle when: a turn by which the loop takes the way out comes after the step
of a call that set the switch, and the loop is at its end only with the switch set. Until then the
switch has an owner, so a pause is not stopped for want of one: it takes a message, and finds the
switch set. -/
theorem ends_only_once_set {initial longest : Duration} {capacity others : Nat}
    (h : Steps Happens (new initial longest capacity others) es w) :
    (∀ before t after, es = before ++ .turn t :: after → t.after.phase.isLeaving = true →
      ∃ i, .calls i .closing ∈ before) ∧
    (w.loop.phase = .ended → w.switch.isSet = true) ∧
    (w.loop.phase.isFinal = false → w.switch.hasOwner = true ∧
      ∀ switch, w.switch.pause = (.stopped, switch) →
        0 < w.switch.pending ∧ w.switch.isSet = true) := by
  have hkept := kept_of_steps h
  refine ⟨?_, fun hended => ?_, fun hfinal => ⟨?_, fun switch hpause => ?_⟩⟩
  · rintro before t after rfl hleaving
    obtain ⟨x, hbefore, hafter⟩ := Steps.append_iff.mp h
    cases hafter with
    | cons hstep _ =>
      cases hstep with
      | turn hpasses =>
        have hturn := (kept_of_steps hbefore).turn hpasses
        exact hturn.set (hturn.leaving hleaving)
  · refine hkept.leaving ?_
    rw [hended]
    rfl
  · exact hkept.owned (hkept.isRetired hfinal)
  · obtain ⟨hpending, -⟩ := (hkept.pause_eq_stopped_iff hfinal).mp hpause
    exact ⟨hpending, hkept.isSet_of_pending hpending⟩

end Kept

/-- A session is refused, and a call stops the pause after it. The caller drops its handle before the
loop is over. -/
theorem ends_only_once_set_in_pause :
    let s (phase : Phase) : State := ⟨phase, .new .zero .zero, 1⟩
    let before : List Event := [.turn ⟨s .connecting, false⟩, .turn ⟨s .preparing, ()⟩,
      .turn ⟨s (.reporting .opening .opening), ()⟩,
      .turn ⟨s .opening, .refused .transportClosed⟩,
      .turn ⟨s (.refused .transportClosed), false⟩,
      .turn ⟨s (.reporting (.openFailed .transportClosed) .failing), ()⟩,
      .turn ⟨s .failing, true⟩, .turn ⟨s .settling, ()⟩, .turn ⟨s .settled, false⟩,
      .turn ⟨s .drawing, .zero⟩, .turn ⟨s (.reporting (.waiting .zero) (.pausing .zero)), ()⟩,
      .begins, .calls 0 .closing, .calls 0 .waking, .calls 0 (.returned true), .drops]
    let after : List Event := [.turn ⟨s .leaving, ()⟩, .retires]
    (∃ w, Steps Happens (new .zero .zero 1 1)
      (before ++ .turn ⟨s (.pausing .zero), .stopped⟩ :: after) w ∧ w.loop.phase = .ended) ∧
      ∃ i, .calls i .closing ∈ before := by
  intro s before after
  have hsteps : Steps Happens (new .zero .zero 1 1)
      (before ++ .turn ⟨s (.pausing .zero), .stopped⟩ :: after)
      ⟨s .ended, [.returned true], ⟨true, 1, 0, false⟩, 0, true⟩ := by
    have hrefused : Steps Happens (new .zero .zero 1 1) (before.take 9)
        ⟨s .drawing, [], .new, 1, false⟩ :=
      .cons (.turn ⟨rfl, rfl⟩) <| .cons (.turn ⟨trivial, rfl⟩) <| .cons (.turn ⟨trivial, rfl⟩) <|
        .cons (.turn ⟨trivial, rfl⟩) <| .cons (.turn ⟨rfl, rfl⟩) <| .cons (.turn ⟨trivial, rfl⟩) <|
          .cons (.turn ⟨trivial, rfl⟩) <| .cons (.turn ⟨trivial, rfl⟩) <|
            .cons (.turn ⟨rfl, rfl⟩) .nil
    have hpausing : Steps Happens ⟨s .drawing, [], .new, 1, false⟩ (before.drop 9)
        ⟨s (.pausing .zero), [.returned true], ⟨true, 1, 1, true⟩, 0, false⟩ :=
      .cons (.turn ⟨trivial, rfl⟩) <| .cons (.turn ⟨trivial, rfl⟩) <| .cons (.begins rfl) <|
        .cons (.calls rfl rfl) <| .cons (.calls rfl rfl) <| .cons (.calls rfl rfl) <|
          .cons (.drops Nat.zero_lt_one) .nil
    have hover : Steps Happens ⟨s (.pausing .zero), [.returned true], ⟨true, 1, 1, true⟩, 0, false⟩
        (.turn ⟨s (.pausing .zero), .stopped⟩ :: after)
        ⟨s .ended, [.returned true], ⟨true, 1, 0, false⟩, 0, true⟩ :=
      .cons (.turn (.stopped rfl)) <| .cons (.turn ⟨trivial, rfl⟩) <| .cons (.retires rfl) .nil
    exact Steps.append_iff.mpr ⟨_, Steps.append_iff.mpr ⟨_, hrefused, hpausing⟩, hover⟩
  exact ⟨⟨_, hsteps, rfl⟩, (ends_only_once_set hsteps).1 before _ after rfl rfl⟩

end LoopAndSwitch

end Reconnect

end SnapshotFeed
