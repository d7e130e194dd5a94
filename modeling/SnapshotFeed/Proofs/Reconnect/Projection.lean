import SnapshotFeed.Proofs.Reconnect.History

/-! What is seen of a run.

Who follows a run may miss some of its turns, and of others see a part only. A `Projection` supplies
an image of the loop and its world and three facts: a turn that is not seen leaves the image as it is
(`hidden`), a turn that is seen moves it on in the one way there is for that image (`seen`), and
where the run waits the image has no way on (`waits`). Then the image is all that counts: two runs
whose images agree look alike from there on (`Projection.alike`), whatever else is different about
them. -/
namespace SnapshotFeed.Reconnect

namespace Surroundings
variable {World : Type} (E : Surroundings World)

/-- The next turn, and where it leads. -/
def turn? (x : State × World) : Option (Turn × (State × World)) :=
  (E.answer x.1 x.2).map fun (answer, w) => (⟨x.1, answer⟩, (x.1.next answer, w))

variable {E} {x y : State × World} {t : Turn}

theorem turn?_eq_some : E.turn? x = some (t, y) ↔
    ∃ answer w, E.answer x.1 x.2 = some (answer, w) ∧ t = ⟨x.1, answer⟩ ∧
      y = (x.1.next answer, w) := by
  unfold turn?
  cases E.answer x.1 x.2 with
  | none => simp
  | some found =>
    obtain ⟨answer, w⟩ := found
    constructor
    · intro h
      cases h
      exact ⟨answer, w, rfl, rfl, rfl⟩
    · rintro ⟨_, _, h, rfl, rfl⟩
      cases h
      rfl

theorem turn?_eq_none : E.turn? x = none ↔ E.answer x.1 x.2 = none := Option.map_eq_none_iff

theorem step_eq (x : State × World) : E.step x = (E.turn? x).map Prod.snd := by
  simp only [step, turn?, Option.map_map]
  rfl

theorem step_eq_none : E.step x = none ↔ E.turn? x = none := by
  rw [step_eq, Option.map_eq_none_iff]

theorem turns_succ_of_turn? (h : E.turn? x = some (t, y)) (n : Nat) :
    E.turns (n + 1) x = t :: E.turns n y := by
  obtain ⟨answer, w, hanswer, rfl, rfl⟩ := turn?_eq_some.mp h
  simp only [turns, hanswer]

theorem run_succ_of_turn? (h : E.turn? x = some (t, y)) (n : Nat) :
    E.run (n + 1) x = E.run n y :=
  E.run_succ_of_step (by rw [step_eq, h]; rfl)

theorem turns_of_turn?_eq_none (h : E.turn? x = none) (n : Nat) : E.turns n x = [] := by
  cases n with
  | zero => rfl
  | succ n => simp only [turns, turn?_eq_none.mp h]

theorem run_of_turn?_eq_none (h : E.turn? x = none) (n : Nat) : E.run n x = x :=
  E.run_of_step_none (step_eq_none.mpr h) n

theorem turns_add (m n : Nat) (x : State × World) :
    E.turns (m + n) x = E.turns m x ++ E.turns n (E.run m x) := by
  induction m generalizing x with
  | zero => rw [Nat.zero_add, run, turns, List.nil_append]
  | succ m ih =>
    cases h : E.turn? x with
    | none => simp only [turns_of_turn?_eq_none h, run_of_turn?_eq_none h, List.nil_append]
    | some found =>
      obtain ⟨t, y⟩ := found
      rw [Nat.add_right_comm, turns_succ_of_turn? h, turns_succ_of_turn? h, run_succ_of_turn? h, ih,
        List.cons_append]

/-- What every turn keeps holds all along a run. -/
theorem run_invariant {P : State × World → Prop}
    (hturn : ∀ x t y, E.turn? x = some (t, y) → P x → P y) (n : Nat) (hx : P x) :
    P (E.run n x) := by
  induction n generalizing x with
  | zero => exact hx
  | succ n ih =>
    cases h : E.turn? x with
    | none => rwa [run_of_turn?_eq_none h]
    | some found =>
      obtain ⟨t, y⟩ := found
      rw [run_succ_of_turn? h]
      exact ih (hturn x t y h hx)

end Surroundings

/-! ### Images of a run -/

section Projection
variable {World World' Sight Image : Type}

/-- How an image moves on, sight by sight. -/
def follow (next : Image → Option (Sight × Image)) : Nat → Image → List Sight × Image
  | 0, i => ([], i)
  | k + 1, i =>
    match next i with
    | none => ([], i)
    | some (sight, i) =>
      let (sights, last) := follow next k i
      (sight :: sights, last)

/-- What is seen of a run, as an image of it. `Inv` may be assumed of the points of the run, and only
so many turns in a row are hidden as `weight` says. -/
structure Projection (E : Surroundings World) (seen? : Turn → Option Sight)
    (next : Image → Option (Sight × Image)) where
  image : State × World → Image
  Inv : State × World → Prop
  weight : State × World → Nat
  kept : ∀ x t y, E.turn? x = some (t, y) → Inv x → Inv y
  hidden : ∀ x t y, E.turn? x = some (t, y) → Inv x → seen? t = none →
    image y = image x ∧ weight y < weight x
  seen : ∀ x t y sight, E.turn? x = some (t, y) → Inv x → seen? t = some sight →
    next (image x) = some (sight, image y)
  waits : ∀ x, E.turn? x = none → Inv x → next (image x) = none

namespace Projection
variable {E : Surroundings World} {E' : Surroundings World'} {seen? : Turn → Option Sight}
  {next : Image → Option (Sight × Image)}

/-- The image follows the run. -/
theorem exists_follow_eq (P : Projection E seen? next) (n : Nat) {x : State × World} (hx : P.Inv x) :
    ∃ k, follow next k (P.image x) = ((E.turns n x).filterMap seen?, P.image (E.run n x)) := by
  induction n generalizing x with
  | zero => exact ⟨0, rfl⟩
  | succ n ih =>
    cases h : E.turn? x with
    | none =>
      refine ⟨0, ?_⟩
      rw [E.turns_of_turn?_eq_none h, E.run_of_turn?_eq_none h]
      rfl
    | some found =>
      obtain ⟨t, y⟩ := found
      obtain ⟨k, hk⟩ := ih (P.kept x t y h hx)
      rw [E.turns_succ_of_turn? h, E.run_succ_of_turn? h]
      cases hseen : seen? t with
      | none =>
        refine ⟨k, ?_⟩
        rw [← (P.hidden x t y h hx hseen).1, hk, List.filterMap_cons_none hseen]
      | some sight =>
        refine ⟨k + 1, ?_⟩
        simp only [follow, P.seen x t y sight h hx hseen, hk, List.filterMap_cons_some hseen]

/-- The run comes to where it waits, or to a turn that is seen. Until then nothing is seen of it. -/
theorem exists_run_seen (P : Projection E seen? next) {x : State × World} (hx : P.Inv x) :
    ∃ n, (E.turns n x).filterMap seen? = [] ∧ P.image (E.run n x) = P.image x ∧
      (E.turn? (E.run n x) = none ∨
        ∃ t y sight, E.turn? (E.run n x) = some (t, y) ∧ seen? t = some sight) := by
  cases h : E.turn? x with
  | none => exact ⟨0, rfl, rfl, .inl h⟩
  | some found =>
    obtain ⟨t, y⟩ := found
    cases hseen : seen? t with
    | some sight => exact ⟨0, rfl, rfl, .inr ⟨t, y, sight, h, hseen⟩⟩
    | none =>
      obtain ⟨himage, hweight⟩ := P.hidden x t y h hx hseen
      obtain ⟨n, hturns, hn, hlast⟩ := P.exists_run_seen (P.kept x t y h hx)
      refine ⟨n + 1, ?_, ?_, ?_⟩
      · rw [E.turns_succ_of_turn? h, List.filterMap_cons_none hseen, hturns]
      · rw [E.run_succ_of_turn? h, hn, himage]
      · rwa [E.run_succ_of_turn? h]
termination_by P.weight x

/-- The run follows the image, and waits where that has no way on. -/
theorem exists_turns_eq (P : Projection E seen? next) (k : Nat) {x : State × World} (hx : P.Inv x) :
    ∃ n, follow next k (P.image x) = ((E.turns n x).filterMap seen?, P.image (E.run n x)) ∧
      (next (P.image (E.run n x)) = none → E.turn? (E.run n x) = none) := by
  -- The induction is on the image: a step of it is a stretch of hidden turns and one that is seen.
  induction k generalizing x with
  | zero =>
    obtain ⟨n, hturns, himage, hwaits | ⟨t, y, sight, hturn, hseen⟩⟩ := P.exists_run_seen hx
    · exact ⟨n, by rw [hturns, himage]; rfl, fun _ => hwaits⟩
    · refine ⟨n, by rw [hturns, himage]; rfl, fun hnone => ?_⟩
      rw [P.seen _ t y sight hturn (E.run_invariant P.kept n hx) hseen] at hnone
      cases hnone
  | succ k ih =>
    obtain ⟨n, hturns, himage, hwaits | ⟨t, y, sight, hturn, hseen⟩⟩ := P.exists_run_seen hx
    · have hnone := P.waits _ hwaits (E.run_invariant P.kept n hx)
      rw [himage] at hnone
      refine ⟨n, ?_, fun _ => hwaits⟩
      rw [hturns, himage]
      simp only [follow, hnone]
    · have hinv := E.run_invariant P.kept n hx
      have hnext := P.seen _ t y sight hturn hinv hseen
      rw [himage] at hnext
      obtain ⟨m, hm, hend⟩ := ih (P.kept _ t y hturn hinv)
      have hrun : E.run (n + (m + 1)) x = E.run m y := by
        rw [E.run_add, E.run_succ_of_turn? hturn]
      refine ⟨n + (m + 1), ?_, by rwa [hrun]⟩
      rw [E.turns_add, E.turns_succ_of_turn? hturn, List.filterMap_append, hturns, hrun,
        List.filterMap_cons_some hseen]
      simp only [follow, hnext, hm, List.nil_append]

/-- **Two runs whose images agree look alike.** Whatever is seen of one run up to some point is seen
of the other up to some point; the images agree there again, and if the one waits there so does the
other. -/
theorem alike (P : Projection E seen? next) (P' : Projection E' seen? next) {x : State × World}
    {x' : State × World'} (hx : P.Inv x) (hx' : P'.Inv x') (h : P.image x = P'.image x') (n : Nat) :
    ∃ m, (E'.turns m x').filterMap seen? = (E.turns n x).filterMap seen? ∧
      P'.image (E'.run m x') = P.image (E.run n x) ∧
      (E.step (E.run n x) = none → E'.step (E'.run m x') = none) := by
  obtain ⟨k, hk⟩ := P.exists_follow_eq n hx
  obtain ⟨m, hm, hend⟩ := P'.exists_turns_eq k hx'
  rw [← h, hk, Prod.mk.injEq] at hm
  refine ⟨m, hm.1.symm, hm.2.symm, fun hwaits => E'.step_eq_none.mpr (hend ?_)⟩
  rw [← hm.2]
  exact P.waits _ (E.step_eq_none.mp hwaits) (E.run_invariant P.kept n hx)

end Projection

end Projection

end SnapshotFeed.Reconnect
