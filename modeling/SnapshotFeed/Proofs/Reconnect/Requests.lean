import SnapshotFeed.Proofs.Reconnect.Crash
import SnapshotFeed.Proofs.Reconnect.Reaction

/-! How often the loop asks for a session.

Between two requests there is a pause that elapsed. `Phase.asksNext` says that a request is due: one
is from the start, and again after such a pause, until it is made. Nobody who answers the loop can
change that (`History.asked_le`). -/
namespace SnapshotFeed.Reconnect

/-- The loop asks for a session before it pauses. -/
def Phase.asksNext : Phase → Bool
  | reporting _ after | releasing after => after.asksNext
  | connecting | preparing | opening => true
  | _ => false

def Turn.isRequest (t : Turn) : Bool := t.state.phase == .opening

def Turn.isElapsed : Turn → Bool
  | ⟨⟨.pausing _, _, _⟩, ending⟩ => ending == .elapsed
  | _ => false

/-- How many pauses elapsed. -/
def elapsed (ts : List Turn) : Nat := ts.countP Turn.isElapsed

/-- How often a session was asked for. The last request may have no answer yet. -/
def asked (ts : List Turn) (u : State) : Nat := (begun ts u).count .opening

theorem asked_eq (ts : List Turn) (u : State) :
    asked ts u = ts.countP Turn.isRequest + (u.phase == .opening).toNat := by
  have hlast : [u.phase].count .opening = (u.phase == .opening).toNat := by
    rw [List.count_singleton]
    cases u.phase == .opening <;> rfl
  rw [asked, begun, List.count_filter rfl, List.count_append, hlast, List.count, List.countP_map]
  rfl

theorem State.asksNext_handle (s : State) (m : Message) : (s.handle m).phase.asksNext = false := by
  obtain ⟨_, -, h⟩ | ⟨_, -, h⟩ | ⟨_, -, h⟩ | ⟨-, h⟩ := s.handle_cases m <;> rw [h] <;> rfl

/-- A request that is due is made or stays due, and only an elapsed pause makes one due. If the loop
finds the switch set or breaks, the request may come to nothing. -/
theorem Turn.asksNext_after (t : Turn) :
    t.isRequest.toNat + t.after.phase.asksNext.toNat =
        t.state.phase.asksNext.toNat + t.isElapsed.toNat ∨
      (¬t.Finds false ∨ t.after.phase.isIntact = false) ∧
        t.isRequest.toNat + t.after.phase.asksNext.toNat ≤
          t.state.phase.asksNext.toNat + t.isElapsed.toNat := by
  obtain ⟨⟨phase, b, capacity⟩, answer⟩ := t
  cases phase with
  | connecting =>
    cases answer with
    | false => exact .inl rfl
    | true => exact .inr ⟨.inl nofun, Nat.zero_le _⟩
  | preparing =>
    simp only [Turn.after, State.next, State.prepare]
    split
    · exact .inr ⟨.inr rfl, Nat.zero_le _⟩
    · exact .inl rfl
  | reporting notice after | releasing after => exact .inl (Nat.zero_add _)
  | received message =>
    cases answer with
    | true => cases message <;> exact .inl rfl
    | false =>
      rw [Turn.after, State.next_received_of_unset, State.asksNext_handle]
      exact .inl rfl
  | receiving => exact .inl rfl
  | drawing =>
    simp only [Turn.after, State.next, State.pauseAfter]
    split <;> exact .inl rfl
  | ended | crashed cause => exact answer.elim
  | _ => cases answer <;> exact .inl rfl

theorem Turn.asksNext_after_le (t : Turn) : t.isRequest.toNat + t.after.phase.asksNext.toNat ≤
    t.state.phase.asksNext.toNat + t.isElapsed.toNat := by
  rcases t.asksNext_after with heq | ⟨-, hle⟩
  · exact Nat.le_of_eq heq
  · exact hle

theorem Turn.asksNext_after_eq {t : Turn} (hunset : t.Finds false)
    (hintact : t.after.phase.isIntact = true) :
    t.isRequest.toNat + t.after.phase.asksNext.toNat =
      t.state.phase.asksNext.toNat + t.isElapsed.toNat := by
  rcases t.asksNext_after with heq | ⟨hset | hbroken, -⟩
  · exact heq
  · exact absurd hunset hset
  · exact absurd (hbroken.symm.trans hintact) Bool.false_ne_true

theorem countP_snoc (p : Turn → Bool) (ts : List Turn) (t : Turn) :
    (ts ++ [t]).countP p = ts.countP p + (p t).toNat := by
  rw [List.countP_append, List.countP_singleton]
  cases p t <;> rfl

/-- Whatever answers the loop, it asks once, and once more for each pause that elapsed. -/
theorem History.asked_le {initial longest : Duration} {capacity : Nat} {ts : List Turn} {u : State}
    (h : History (.start initial longest capacity) ts u) : asked ts u ≤ 1 + elapsed ts := by
  have hdue : ts.countP Turn.isRequest + u.phase.asksNext.toNat ≤ 1 + elapsed ts := by
    refine h.invariant_along (P := fun ts u =>
      ts.countP Turn.isRequest + u.phase.asksNext.toNat ≤ 1 + elapsed ts) ?_ (Nat.le_refl _)
    rintro ts _ t _ ⟨rfl, rfl⟩ hts
    have hturn := t.asksNext_after_le
    rw [elapsed] at hts ⊢
    rw [countP_snoc, countP_snoc]
    omega
  have hlast : (u.phase == .opening).toNat ≤ u.phase.asksNext.toNat := by
    cases u.phase <;> first | exact Nat.zero_le _ | exact Nat.le_refl _
  rw [asked_eq]
  omega

end SnapshotFeed.Reconnect
