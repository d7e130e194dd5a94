import SnapshotFeed.Queue.Session

/-! What the queue of a session answers. -/
namespace SnapshotFeed.Queue.Session

theorem new_eq_ok_iff {capacity : Nat} {q : Session} :
    new capacity = .ok q ↔ 0 < capacity ∧ capacity ≤ largestCapacity ∧ q = Bounded.new capacity := by
  unfold new
  split
  · simp only [reduceCtorEq, false_iff]
    omega
  · split
    · simp only [reduceCtorEq, false_iff]
      omega
    · simp only [Except.ok.injEq]
      constructor
      · rintro rfl
        exact ⟨by omega, by omega, rfl⟩
      · rintro ⟨-, -, rfl⟩
        rfl

/-! ### One answer of the queue for each answer here -/

/-- A message is taken while there is a receiver and room. -/
theorem offer_eq_true_iff {q r : Session} {m : Message} :
    offer q m = (some true, r) ↔
      q.receivers ≠ 0 ∧ q.items.length < q.capacity ∧ r = {q with items := q.items ++ [m]} := by
  rw [← Bounded.send_eq_stored_iff, offer]
  generalize q.send m = sent
  obtain ⟨answer, rest⟩ := sent
  cases answer <;> simp

/-- A message is declined once there is no receiver. -/
theorem offer_eq_false_iff {q r : Session} {m : Message} :
    offer q m = (some false, r) ↔ q.receivers = 0 ∧ r = q := by
  rw [← Bounded.send_eq_closed_iff (a := m), offer]
  generalize q.send m = sent
  obtain ⟨answer, rest⟩ := sent
  cases answer <;> simp

/-- A receiver is told the first message, or once every sender is gone that there is none. -/
theorem next_eq_some_iff {q r : Session} {found : Option Message} :
    next q = (some found, r) ↔
      (∃ m rest, q.items = m :: rest ∧ found = some m ∧ r = {q with items := rest}) ∨
        q.items = [] ∧ q.senders = 0 ∧ found = none ∧ r = q := by
  have hanswers : next q = (some found, r) ↔
      (∃ m, q.receive = (.item m, r) ∧ some m = found) ∨
        q.receive = (.closed, r) ∧ none = found := by
    unfold next
    generalize q.receive = received
    obtain ⟨answer, rest⟩ := received
    cases answer with
    | item m => simpa [and_assoc] using and_comm
    | empty => simp
    | closed => simpa using and_comm
  rw [hanswers]
  simp only [Bounded.receive_eq_item_iff, Bounded.receive_eq_closed_iff]
  constructor
  · rintro (⟨m, ⟨rest, hitems, hr⟩, rfl⟩ | ⟨⟨hitems, hsenders, hr⟩, rfl⟩)
    · exact .inl ⟨m, rest, hitems, rfl, hr⟩
    · exact .inr ⟨hitems, hsenders, rfl, hr⟩
  · rintro (⟨m, rest, hitems, rfl, hr⟩ | ⟨hitems, hsenders, rfl, hr⟩)
    · exact .inl ⟨m, ⟨rest, hitems, hr⟩, rfl⟩
    · exact .inr ⟨⟨hitems, hsenders, hr⟩, rfl⟩

/-! ### Whatever is sent or received, the handles stay -/

theorem receivers_of_offer {q r : Session} {m : Message} {answer : Bool}
    (h : offer q m = (some answer, r)) : r.receivers = q.receivers := by
  cases answer with
  | true =>
    obtain ⟨-, -, rfl⟩ := offer_eq_true_iff.mp h
    rfl
  | false =>
    obtain ⟨-, rfl⟩ := offer_eq_false_iff.mp h
    rfl

theorem receivers_of_next {q r : Session} {found : Option Message}
    (h : next q = (some found, r)) : r.receivers = q.receivers := by
  obtain ⟨_, _, -, -, rfl⟩ | ⟨-, -, -, rfl⟩ := next_eq_some_iff.mp h <;> rfl

end SnapshotFeed.Queue.Session
