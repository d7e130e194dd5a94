import SnapshotFeed.Message

/-! What is heard of a session: its messages up to the first terminal one. -/
namespace SnapshotFeed.Message

@[simp]
theorem isTerminal_response (r : Response) : (response r).isTerminal = false := rfl

@[simp]
theorem isTerminal_error (cause : StreamError) : (error cause).isTerminal = true := rfl

@[simp]
theorem isTerminal_complete : complete.isTerminal = true := rfl

/-- The messages up to the first terminal one, which is the last. -/
def upToTerminal : List Message → List Message
  | [] => []
  | m :: rest => if m.isTerminal then [m] else m :: upToTerminal rest

/-- Messages, and what comes after them unless one of them is terminal. -/
def followedBy (ms rest : List Message) : List Message :=
  if ms.any isTerminal then upToTerminal ms else ms ++ rest

@[simp]
theorem upToTerminal_nil : upToTerminal [] = [] := rfl

@[simp]
theorem followedBy_nil (rest : List Message) : followedBy [] rest = rest := rfl

theorem followedBy_of_any_eq_false {ms : List Message} (h : ms.any isTerminal = false)
    (rest : List Message) : followedBy ms rest = ms ++ rest := by
  simp [followedBy, h]

theorem followedBy_of_any {ms : List Message} (h : ms.any isTerminal = true) (rest : List Message) :
    followedBy ms rest = upToTerminal ms := by
  simp [followedBy, h]

theorem upToTerminal_append (a b : List Message) :
    upToTerminal (a ++ b) = followedBy a (upToTerminal b) := by
  unfold followedBy
  induction a with
  | nil => rfl
  | cons m rest ih =>
    cases h : m.isTerminal <;> simp [upToTerminal, h, ih]
    split <;> rfl

theorem upToTerminal_of_any_eq_false {a : List Message} (h : a.any isTerminal = false) :
    upToTerminal a = a := by
  simpa [followedBy, h] using upToTerminal_append a []

theorem followedBy_append (a b rest : List Message) :
    followedBy (a ++ b) rest = followedBy a (followedBy b rest) := by
  unfold followedBy
  rw [List.any_append, upToTerminal_append, followedBy]
  cases ha : a.any isTerminal <;> cases hb : b.any isTerminal <;> simp

theorem mem_of_mem_upToTerminal {m : Message} {ms : List Message} (h : m ∈ upToTerminal ms) :
    m ∈ ms := by
  induction ms with
  | nil => exact h
  | cons a rest ih =>
    unfold upToTerminal at h
    split at h
    · rw [List.mem_singleton.mp h]
      exact List.mem_cons_self
    · rcases List.mem_cons.mp h with rfl | h
      · exact List.mem_cons_self
      · exact List.mem_cons_of_mem _ (ih h)

theorem mem_or_mem_of_mem_followedBy {m : Message} {ms rest : List Message}
    (h : m ∈ followedBy ms rest) : m ∈ ms ∨ m ∈ rest := by
  unfold followedBy at h
  split at h
  · exact .inl (mem_of_mem_upToTerminal h)
  · exact List.mem_append.mp h

theorem any_isTerminal_upToTerminal (ms : List Message) :
    (upToTerminal ms).any isTerminal = ms.any isTerminal := by
  induction ms with
  | nil => rfl
  | cons m rest ih => cases h : m.isTerminal <;> simp [upToTerminal, h, ih]

theorem any_isTerminal_followedBy (ms rest : List Message) :
    (followedBy ms rest).any isTerminal = (ms.any isTerminal || rest.any isTerminal) := by
  unfold followedBy
  split
  · rename_i h
    rw [any_isTerminal_upToTerminal, h, Bool.true_or]
  · rw [List.any_append]

theorem exists_followedBy_cons (m : Message) (ms rest : List Message) :
    ∃ tail, followedBy (m :: ms) rest = m :: tail := by
  unfold followedBy upToTerminal
  repeat' split
  all_goals exact ⟨_, rfl⟩

end SnapshotFeed.Message
