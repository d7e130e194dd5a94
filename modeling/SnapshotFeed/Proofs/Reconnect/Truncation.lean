import SnapshotFeed.Proofs.Reconnect.Reaction
import SnapshotFeed.Proofs.Reconnect.Transparency

/-! Shutdown cuts a run short, and does nothing else to it.

While the switch is not set a run does the first of its course. Once it is set the loop offers what
it decided to offer before (`Phase.pending`) and nothing more, whatever a closed transport tells it:
the switch is set before the transport is closed, and the loop looks at it between an answer and an
offer. So whoever calls for shutdown, and whenever, the offers stay a prefix of the course's
(`offered_prefix_of_calls`). -/
namespace SnapshotFeed.Reconnect

/-- What the loop will offer without another look at the switch. -/
def Phase.pending : Phase → List Payload
  | reporting _ after | releasing after => after.pending
  | delivering payload | notifying payload => [payload]
  | _ => []

/-- A look finds the switch as it is. -/
theorem Setting.Answers.finds {s : State} {w v : Setting} {answer : s.phase.Answer}
    (h : Answers s w answer v) : Turn.Finds w.switch.isSet ⟨s, answer⟩ := by
  obtain ⟨phase, b, capacity⟩ := s
  cases phase with
  | connecting | refused cause | streaming | received message | settled => exact h.1
  | _ => trivial

/-- A turn that finds the switch set decides on nothing. -/
theorem Turn.pending_after (t : Turn) (h : t.Finds true) :
    t.state.phase.offer?.toList ++ t.after.phase.pending = t.state.phase.pending := by
  obtain ⟨⟨phase, b, capacity⟩, answer⟩ := t
  cases phase with
  | connecting | refused cause | streaming | settled =>
    cases h
    rfl
  | received message =>
    cases h
    cases message <;> rfl
  | preparing =>
    simp only [Turn.after, State.next, State.prepare]
    split <;> rfl
  | drawing =>
    simp only [Turn.after, State.next, State.pauseAfter]
    split <;> rfl
  | receiving | reporting notice after | releasing after => rfl
  | ended | crashed cause => exact answer.elim
  | _ => cases answer <;> rfl

theorem pending_prefix_owed (b : Backoff) (w : Setting) (phase : Phase) :
    phase.pending <+: (w.owed b phase).filterMap Deed.payload? := by
  induction phase with
  | reporting _ _ ih | releasing _ ih => exact ih
  | delivering payload | notifying payload => exact ⟨_, rfl⟩
  | _ => exact List.nil_prefix

theorem offered_turns_snoc (steps : List (Option Turn)) (step : Option Turn) :
    offered (turns (steps ++ [step])) =
      offered (turns steps) ++ (step.bind (·.state.phase.offer?)).toList := by
  cases step with
  | none => simp [turns, offered]
  | some t => cases h : t.state.phase.offer? <;> simp [turns, offered, h]

section Set
variable {x y : State × Setting} {step : Option Turn} {steps : List (Option Turn)}

theorem Goes.pending (h : Goes x step y) (hset : x.2.switch.isSet = true) :
    (step.bind (·.state.phase.offer?)).toList ++ y.1.phase.pending = x.1.phase.pending := by
  cases h with
  | move => rfl
  | @turn s w v answer hanswer => exact Turn.pending_after ⟨s, answer⟩ (hset ▸ hanswer.finds)

/-- From the setting of the switch on, a run offers what was pending then. -/
theorem pending_of_steps (h : Steps Goes x steps y) (hset : x.2.switch.isSet = true) :
    offered (turns steps) ++ y.1.phase.pending = x.1.phase.pending := by
  refine (h.invariant_along (P := fun steps y => y.2.switch.isSet = true ∧
    offered (turns steps) ++ y.1.phase.pending = x.1.phase.pending) ?_ ⟨hset, rfl⟩).2
  rintro steps y step z hgoes ⟨hy, hoffered⟩
  refine ⟨hgoes.isSet hy, ?_⟩
  rw [offered_turns_snoc, List.append_assoc, hgoes.pending hy, hoffered]

end Set

section Calls
variable {initial longest : Duration} {capacity : Nat} {visits : List Visit} {calls : List Call}
  {x y : State × Setting} {steps : List (Option Turn)}

/-- What is pending is the first of what is owed. -/
theorem Accounted.pending_prefix {ds : List Deed} (h : Accounted initial longest visits ds x)
    (hunset : x.2.switch.isSet = false) :
    ds.filterMap Deed.payload? ++ x.1.phase.pending <+:
      (course (.new initial longest) visits).filterMap Deed.payload? := by
  rw [← h.deeds hunset, List.filterMap_append, List.prefix_append_right_inj]
  exact pending_prefix_owed x.1.backoff x.2 x.1.phase

/-- Whether the switch is set or not, what is offered and pending is a first part of what the course
offers. -/
theorem offered_prefix_course (h : Steps Goes x steps y)
    (hx : Accounted initial longest visits [] x) (hunset : x.2.switch.isSet = false) :
    offered (turns steps) ++ y.1.phase.pending <+:
      (course (.new initial longest) visits).filterMap Deed.payload? := by
  refine (h.invariant_along (P := fun steps y =>
    Accounted initial longest visits (deeds (turns steps)) y ∧
      offered (turns steps) ++ y.1.phase.pending <+:
        (course (.new initial longest) visits).filterMap Deed.payload?) ?_
    ⟨hx, hx.pending_prefix hunset⟩).2
  rintro steps y step z hgoes ⟨hy, hoffered⟩
  have hz := hy.goes hgoes
  rw [← deeds_turns_snoc] at hz
  refine ⟨hz, ?_⟩
  cases hset : y.2.switch.isSet with
  | true => rwa [offered_turns_snoc, List.append_assoc, hgoes.pending hset]
  | false =>
    cases hgoes with
    | turn hanswer =>
      rw [offered_eq_deeds]
      exact hz.pending_prefix (hanswer.isSet.trans hset)
    | move => rwa [offered_turns_snoc, Option.bind_none, Option.toList_none, List.append_nil]

/-- A transport is closed once the switch is set, and not before. -/
theorem Accounted.isSet_of_closed {ds : List Deed} (h : Accounted initial longest visits ds x)
    (hclosed : 0 < x.2.switch.closed) : x.2.switch.isSet = true := by
  cases hset : x.2.switch.isSet with
  | true => rfl
  | false =>
    rw [(h.orderly hset).1] at hclosed
    cases hclosed

/-- **Shutdown only cuts the offers short.** However many calls for shutdown are made and whenever
they take their steps, what the loop offers is a prefix of what it offers over the same visits
without a call, in any run that cannot go on; and there is such a run. What a closed transport tells
the loop, when that asks for a session or waits for a message, leads to no offer. -/
theorem offered_prefix_of_calls (hfit : (Backoff.new initial longest).Fits) (capacity : Nat)
    (visits : List Visit) (n : Nat) :
    let start (calls : List Call) := (State.start initial longest capacity, Setting.new visits calls)
    let called := start (.replicate n .setting)
    (∃ steps y, Steps Goes (start []) steps y ∧ Stuck y) ∧
    (∀ steps x steps' y, Steps Goes called steps x → Steps Goes (start []) steps' y → Stuck y →
      offered (turns steps) <+: offered (turns steps')) ∧
    (∀ before m after x, Steps Goes called before m → Steps Goes m after x → 0 < m.2.switch.closed →
      m.1.phase = .opening ∨ m.1.phase = .receiving → offered (turns after) = []) := by
  intro start called
  have huncalled : Uncalled (start []).2 := ⟨rfl, rfl⟩
  refine ⟨huncalled.exists_stuck, ?_⟩
  by_cases hroom : 0 < capacity ∧ capacity ≤ Queue.largestCapacity
  · have haccounted : ∀ calls, (∀ c ∈ calls, c = .setting) →
        Accounted initial longest visits [] (start calls) :=
      fun _ => accounted_start hfit hroom.1 hroom.2
    have hcalled := haccounted (.replicate n .setting) fun _ => List.eq_of_mem_replicate
    refine ⟨fun steps x steps' y hrun hrun' hstuck => ?_, fun before m after x hrun hrest hclosed
      hphase => ?_⟩
    · have hdeeds := (huncalled.deeds_of_steps (haccounted [] nofun) hrun').2 hstuck
      rw [offered_eq_deeds (turns steps'), hdeeds]
      exact (List.prefix_append ..).trans (offered_prefix_course hrun hcalled rfl)
    · have hset := (accounted_of_steps hrun hcalled).isSet_of_closed hclosed
      have hoffered := pending_of_steps hrest hset
      have hnone : m.1.phase.pending = [] := by rcases hphase with h | h <;> rw [h] <;> rfl
      rw [hnone] at hoffered
      exact (List.append_eq_nil_iff.mp hoffered).1
  · -- The loop never gets as far as to offer anything.
    have hstops : StopsAtQueue capacity called := ⟨rfl, trivial⟩
    refine ⟨fun steps x steps' y hrun _ _ => ?_, fun before m after x hrun hrest _ _ => ?_⟩
    · rw [offered_eq_deeds, (hstops.steps hroom hrun).2]
      exact List.nil_prefix
    · rw [offered_eq_deeds, ((hstops.steps hroom hrun).1.steps hroom hrest).2]
      rfl

end Calls

/-- Shutdown finds the loop waiting for a session that would have failed without it. -/
theorem offered_prefix_of_one_call :
    let start (calls : List Call) := (State.start (.ofSeconds 2) (.ofSeconds 120) 5,
      Setting.new [.opened [.response ⟨"v1", .all⟩] .leaves] calls)
    ∃ steps x, Steps Goes (start [.setting]) steps x ∧ x.1.phase = .ended ∧
      offered (turns steps) = [.snapshot "v1"] ∧
      ∀ steps' y, Steps Goes (start []) steps' y → Stuck y →
        [.snapshot "v1"] <+: offered (turns steps') := by
  intro start
  let b : Backoff := .new (.ofSeconds 2) (.ofSeconds 120)
  let r : Message := .response ⟨"v1", .all⟩
  let t (phase : Phase) (answer : phase.Answer) : Option Turn := some ⟨⟨phase, b, 5⟩, answer⟩
  let w (items : List Message) (session : Option Sender) (calls : List Call) (switch : Switch) :
    Setting := ⟨[], ⟨5, items, session.toList.length, 1⟩, session, switch, calls⟩
  have hheard : Steps Goes (start [.setting])
      [t .connecting false, t .preparing (), t (.reporting .opening .opening) (), t .opening .opened,
        none, t .streaming false, t .receiving (some r), t (.received (some r)) false,
        t (.delivering (.snapshot "v1")) true]
      (⟨.streaming, b, 5⟩, w [] (some ⟨[], .leaves⟩) [.setting] .new) :=
    .cons (.turn ⟨rfl, rfl⟩) <| .cons (.turn rfl) <| .cons (.turn rfl) <|
      .cons (.turn (.opened rfl rfl rfl)) <| .cons (.move (.sends rfl rfl)) <|
        .cons (.turn ⟨rfl, rfl⟩) <| .cons (.turn ⟨_, rfl, rfl⟩) <| .cons (.turn ⟨rfl, rfl⟩) <|
          .cons (.turn rfl) .nil
  have hcalled : Steps Goes (⟨.streaming, b, 5⟩, w [] (some ⟨[], .leaves⟩) [.setting] .new)
      [t .streaming false, none, none, none]
      (⟨.receiving, b, 5⟩, w [] none [.waking] ⟨true, 1, 0, true⟩) :=
    .cons (.turn ⟨rfl, rfl⟩) <| .cons (.move (.calls ⟨0, _, _, rfl, rfl, rfl⟩)) <|
      .cons (.move (.calls ⟨0, _, _, rfl, rfl, rfl⟩)) <| .cons (.move (.isCut rfl Nat.one_pos)) .nil
  have hleft : Steps Goes (⟨.receiving, b, 5⟩, w [] none [.waking] ⟨true, 1, 0, true⟩)
      [t .receiving none, t (.received none) true, t (.reporting .interrupted .abandoning) (),
        t .abandoning (), t .leaving ()]
      (⟨.ended, b, 5⟩, ⟨[], ⟨5, [], 0, 0⟩, none, ⟨true, 1, 0, true⟩, [.waking]⟩) :=
    .cons (.turn ⟨_, rfl, rfl⟩) <| .cons (.turn ⟨rfl, rfl⟩) <| .cons (.turn rfl) <|
      .cons (.turn rfl) <| .cons (.turn rfl) .nil
  have hended := Steps.append_iff.mpr ⟨_, Steps.append_iff.mpr ⟨_, hheard, hcalled⟩, hleft⟩
  have hfit : (Backoff.new (.ofSeconds 2) (.ofSeconds 120)).Fits := Backoff.fits_of_le (by decide)
  exact ⟨_, _, hended, rfl, rfl, fun steps' y =>
    (offered_prefix_of_calls hfit 5 _ 1).2.1 _ _ steps' y hended⟩

end SnapshotFeed.Reconnect
