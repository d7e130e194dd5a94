import SnapshotFeed.Proofs.Reconnect.History

/-! How fast the loop leaves once the switch is set.

The loop acts when it asks for a session, waits for a message, offers a payload or pauses. It looks
at the switch in five phases and learns nothing of it in the others, so the switch may be set just
after a look. `leaves_once_set`: from the point on at which every look finds the switch set, the
loop begins one more act at most, and is over within six turns. Two measures carry the proof, both
read as if the switch were set: the acts a phase still leads to (`actsLeft`) and its turns
(`turnsLeft`). -/
namespace SnapshotFeed.Reconnect

namespace Phase

/-- The loop does something that its surroundings notice. -/
def isAct : Phase → Bool
  | opening | receiving | delivering _ | notifying _ | pausing _ => true
  | _ => false

/-- How often the loop may still act, from this phase on, if the switch is set. -/
def actsLeft : Phase → Nat
  | reporting _ after | releasing after => after.actsLeft
  | preparing | opening | receiving | delivering _ | notifying _ | drawing | pausing _ => 1
  | connecting | refused _ | streaming | received _ | settled | ended | crashed _ => 0

/-- How many turns the loop may still take, from this phase on, if the switch is set. -/
def turnsLeft : Phase → Nat
  | reporting _ after | releasing after => after.turnsLeft + 1
  | ended | crashed _ => 0
  | connecting | settled => 2
  | streaming | refused _ | pausing _ => 3
  | opening | received _ => 4
  | receiving | delivering _ | notifying _ | drawing => 5
  | preparing => 6

/-- A phase that is over within an act and six turns once the switch is set. -/
def leavesSoon (p : Phase) : Bool := p.actsLeft ≤ 1 && p.turnsLeft ≤ 6

theorem leavesSoon_iff {p : Phase} : p.leavesSoon = true ↔ p.actsLeft ≤ 1 ∧ p.turnsLeft ≤ 6 := by
  simp [leavesSoon]

theorem isAct_le_actsLeft (p : Phase) : p.isAct.toNat ≤ p.actsLeft := by
  cases p <;> first | exact Nat.zero_le _ | exact Nat.le_refl _

theorem isFinal_of_turnsLeft {p : Phase} (h : p.turnsLeft = 0) : p.isFinal = true := by
  cases p <;> first | rfl | cases h

end Phase

/-! ### Every phase the loop comes to leaves soon -/

theorem State.leavesSoon_handle (s : State) (m : Message) : (s.handle m).phase.leavesSoon = true := by
  obtain ⟨_, -, h⟩ | ⟨_, -, h⟩ | ⟨_, -, h⟩ | ⟨-, h⟩ := s.handle_cases m <;> rw [h] <;> rfl

theorem State.leavesSoon_prepare (s : State) : s.prepare.phase.leavesSoon = true := by
  unfold prepare
  split <;> rfl

theorem State.leavesSoon_pauseAfter (s : State) (jitter : Duration) :
    (s.pauseAfter jitter).phase.leavesSoon = true := by
  unfold pauseAfter
  split <;> rfl

/-- Whatever the loop is told, it comes to a phase that leaves soon. -/
theorem Turn.leavesSoon_after (t : Turn) (h : t.state.phase.leavesSoon = true) :
    t.after.phase.leavesSoon = true := by
  obtain ⟨⟨phase, backoff, capacity⟩, answer⟩ := t
  cases phase with
  | reporting notice next | releasing next =>
    rw [Phase.leavesSoon_iff] at h
    exact Phase.leavesSoon_iff.mpr ⟨h.1, Nat.le_of_succ_le h.2⟩
  | preparing => exact State.leavesSoon_prepare _
  | drawing => exact State.leavesSoon_pauseAfter _ answer
  | receiving => rfl
  | received message =>
    cases answer with
    | true => cases message <;> rfl
    | false =>
      rw [Turn.after, State.next_received_of_unset]
      exact State.leavesSoon_handle _ _
  | _ => cases answer <;> rfl

/-! ### Once the switch is set -/

/-- If the turn looks at the switch, it finds it so. -/
def Turn.Finds (isSet : Bool) : Turn → Prop
  | ⟨⟨.connecting, _, _⟩, found⟩ | ⟨⟨.refused _, _, _⟩, found⟩ | ⟨⟨.streaming, _, _⟩, found⟩
  | ⟨⟨.received _, _, _⟩, found⟩ | ⟨⟨.settled, _, _⟩, found⟩ => found = isSet
  | _ => True

/-- A turn that finds the switch set uses up some of what is left. -/
theorem Turn.left_after (t : Turn) (h : t.Finds true) :
    t.state.phase.isAct.toNat + t.after.phase.actsLeft ≤ t.state.phase.actsLeft ∧
      t.after.phase.turnsLeft + 1 ≤ t.state.phase.turnsLeft := by
  obtain ⟨⟨phase, backoff, capacity⟩, answer⟩ := t
  cases phase with
  | connecting | refused cause | streaming | settled =>
    cases h
    exact ⟨Nat.le_of_ble_eq_true rfl, Nat.le_of_ble_eq_true rfl⟩
  | reporting notice next | releasing next =>
    exact ⟨Nat.le_of_eq (Nat.zero_add next.actsLeft), Nat.le_refl _⟩
  | received message =>
    cases h
    cases message <;> exact ⟨Nat.le_of_ble_eq_true rfl, Nat.le_of_ble_eq_true rfl⟩
  | receiving => exact ⟨Nat.le_of_ble_eq_true rfl, Nat.le_of_ble_eq_true rfl⟩
  | preparing =>
    simp only [after, State.next, State.prepare]
    split <;> exact ⟨Nat.le_of_ble_eq_true rfl, Nat.le_of_ble_eq_true rfl⟩
  | drawing =>
    simp only [after, State.next, State.pauseAfter]
    split <;> exact ⟨Nat.le_of_ble_eq_true rfl, Nat.le_of_ble_eq_true rfl⟩
  | _ => cases answer <;> exact ⟨Nat.le_of_ble_eq_true rfl, Nat.le_of_ble_eq_true rfl⟩

/-- The acts begun in a history. The state it leads to may be the last of them: an act without an
answer yet. -/
def begun (ts : List Turn) (u : State) : List Phase :=
  (ts.map (·.state.phase) ++ [u.phase]).filter (·.isAct)

theorem begun_cons_length (t : Turn) (ts : List Turn) (u : State) :
    (begun (t :: ts) u).length = t.state.phase.isAct.toNat + (begun ts u).length := by
  cases h : t.state.phase.isAct <;> simp [begun, h, Nat.add_comm]

theorem History.left {s u : State} {ts : List Turn} (h : History s ts u)
    (hset : ∀ t ∈ ts, t.Finds true) :
    (begun ts u).length ≤ s.phase.actsLeft ∧ ts.length + u.phase.turnsLeft ≤ s.phase.turnsLeft := by
  induction h with
  | @nil s =>
    have hact := Phase.isAct_le_actsLeft s.phase
    refine ⟨?_, by simp⟩
    cases h : s.phase.isAct <;> simp_all [begun]
  | @cons _ _ u t ts htakes _ ih =>
    obtain ⟨rfl, rfl⟩ := htakes
    obtain ⟨hacts, hturns⟩ := t.left_after (hset _ (List.mem_cons_self ..))
    obtain ⟨ihacts, ihturns⟩ := ih fun v hv => hset v (List.mem_cons_of_mem _ hv)
    have hcount := begun_cons_length t ts u
    rw [List.length_cons]
    omega

/-- **Once the switch is set the loop acts once more at most, and leaves.** The switch may be set
at any point of any history: between two turns or, if the first turn of `after` is no look, during
that turn. If the one act left opens a session, nothing is received from it; if it is a pause, no
session is opened, however the pause ends. -/
theorem leaves_once_set {initial longest : Duration} {capacity : Nat} {before after : List Turn}
    {u : State} (h : History (.start initial longest capacity) (before ++ after) u)
    (hset : ∀ t ∈ after, t.Finds true) :
    (begun after u).length ≤ 1 ∧
      (.opening ∈ begun after u → .receiving ∉ begun after u) ∧
      (∀ delay, .pausing delay ∈ begun after u → .opening ∉ begun after u) ∧
      after.length ≤ 6 ∧ (after.length = 6 → u.phase.isFinal = true) := by
  obtain ⟨m, hbefore, hafter⟩ := Steps.append_iff.mp h
  have hsoon : m.phase.leavesSoon = true := by
    refine hbefore.invariant (P := fun s => s.phase.leavesSoon = true) ?_ rfl
    rintro _ t _ ⟨rfl, rfl⟩ hsoon
    exact t.leavesSoon_after hsoon
  obtain ⟨hacts, hturns⟩ := Phase.leavesSoon_iff.mp hsoon
  obtain ⟨hbegun, htaken⟩ := History.left hafter hset
  have hone : (begun after u).length ≤ 1 := Nat.le_trans hbegun hacts
  have hsame : ∀ p ∈ begun after u, ∀ q ∈ begun after u, p = q := by
    intro p hp q hq
    match begun after u, hone, hp, hq with
    | [a], _, hp, hq => rw [List.mem_singleton.mp hp, List.mem_singleton.mp hq]
  refine ⟨hone, ?_, ?_, by omega, ?_⟩
  · intro hopen hreceive
    cases hsame _ hopen _ hreceive
  · intro delay hpause hopen
    cases hsame _ hpause _ hopen
  · intro hsix
    exact Phase.isFinal_of_turnsLeft (by omega)

/-- The switch is set while a session opens: the loop looks, releases the session and is over. -/
theorem leaves_once_set_while_opening :
    (begun [⟨⟨.opening, .new .zero .zero, 1⟩, .opened⟩, ⟨⟨.streaming, .new .zero .zero, 1⟩, true⟩,
        ⟨⟨.abandoning, .new .zero .zero, 1⟩, ()⟩, ⟨⟨.leaving, .new .zero .zero, 1⟩, ()⟩]
      ⟨.ended, .new .zero .zero, 1⟩).length ≤ 1 := by
  have hbefore : History (.start .zero .zero 1)
      [⟨⟨.connecting, .new .zero .zero, 1⟩, false⟩, ⟨⟨.preparing, .new .zero .zero, 1⟩, ()⟩,
        ⟨⟨.reporting .opening .opening, .new .zero .zero, 1⟩, ()⟩]
      ⟨.opening, .new .zero .zero, 1⟩ :=
    .cons ⟨rfl, rfl⟩ <| .cons ⟨rfl, rfl⟩ <| .cons ⟨rfl, rfl⟩ .nil
  have hafter : History ⟨.opening, .new .zero .zero, 1⟩
      [⟨⟨.opening, .new .zero .zero, 1⟩, .opened⟩, ⟨⟨.streaming, .new .zero .zero, 1⟩, true⟩,
        ⟨⟨.abandoning, .new .zero .zero, 1⟩, ()⟩, ⟨⟨.leaving, .new .zero .zero, 1⟩, ()⟩]
      ⟨.ended, .new .zero .zero, 1⟩ :=
    .cons ⟨rfl, rfl⟩ <| .cons ⟨rfl, rfl⟩ <| .cons ⟨rfl, rfl⟩ <| .cons ⟨rfl, rfl⟩ .nil
  refine (leaves_once_set (Steps.append_iff.mpr ⟨_, hbefore, hafter⟩) ?_).1
  intro t ht
  simp only [List.mem_cons, List.not_mem_nil, or_false] at ht
  rcases ht with rfl | rfl | rfl | rfl <;> first | rfl | trivial

end SnapshotFeed.Reconnect
