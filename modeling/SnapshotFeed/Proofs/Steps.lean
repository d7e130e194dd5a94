/-! Events that follow each other.

Where several parties act on one thing in no set order, what may happen is a relation: a state, an
event, and the state after it. `Steps` is any number of events. What every event keeps, they keep
(`invariant`), and the same of what is known of the events so far (`invariant_along`). -/
namespace SnapshotFeed

variable {State Event : Type} {step : State → Event → State → Prop}

/-- What is seen of some events, and one more. -/
theorem filterMap_snoc {Seen : Type} (seen? : Event → Option Seen) (es : List Event) (e : Event) :
    (es ++ [e]).filterMap seen? = es.filterMap seen? ++ (seen? e).toList := by
  cases h : seen? e <;> simp [h]

/-- Events that lead from one state to another. -/
inductive Steps (step : State → Event → State → Prop) : State → List Event → State → Prop where
  | nil {s : State} : Steps step s [] s
  | cons {s t u : State} {e : Event} {es : List Event} : step s e t → Steps step t es u →
    Steps step s (e :: es) u

namespace Steps
variable {s u : State} {es : List Event}

theorem append_iff {before after : List Event} : Steps step s (before ++ after) u ↔
    ∃ t, Steps step s before t ∧ Steps step t after u := by
  induction before generalizing s with
  | nil =>
    constructor
    · intro h
      exact ⟨s, .nil, h⟩
    · rintro ⟨t, hbefore, hafter⟩
      cases hbefore
      exact hafter
  | cons e rest ih =>
    constructor
    · intro h
      cases h with
      | cons hstep h =>
        obtain ⟨t, hrest, hafter⟩ := ih.mp h
        exact ⟨t, .cons hstep hrest, hafter⟩
    · rintro ⟨t, hbefore, hafter⟩
      cases hbefore with
      | cons hstep hrest => exact .cons hstep (ih.mpr ⟨t, hrest, hafter⟩)

theorem singleton_iff {e : Event} : Steps step s [e] u ↔ step s e u := by
  constructor
  · intro h
    cases h with
    | cons hstep hnil =>
      cases hnil
      exact hstep
  · exact fun hstep => .cons hstep .nil

theorem snoc {t : State} {e : Event} (h : Steps step s es t) (hstep : step t e u) :
    Steps step s (es ++ [e]) u :=
  append_iff.mpr ⟨t, h, singleton_iff.mpr hstep⟩

theorem invariant_along {P : List Event → State → Prop}
    (hstep : ∀ es s e t, step s e t → P es s → P (es ++ [e]) t) (h : Steps step s es u)
    (hs : P [] s) : P es u := by
  suffices ∀ before, P before s → P (before ++ es) u from this [] hs
  clear hs
  induction h with
  | nil =>
    intro before hs
    rwa [List.append_nil]
  | cons hfirst _ ih =>
    intro before hs
    rw [List.append_cons]
    exact ih _ (hstep before _ _ _ hfirst hs)

theorem invariant {P : State → Prop} (hstep : ∀ s e t, step s e t → P s → P t)
    (h : Steps step s es u) (hs : P s) : P u :=
  h.invariant_along (fun _ => hstep) hs

/-- Where every step lowers a weight, there are no more steps than that. -/
theorem length_add_le {P : State → Prop} {weight : State → Nat}
    (hstep : ∀ s e t, step s e t → P s → P t ∧ weight t < weight s) (h : Steps step s es u)
    (hs : P s) : es.length + weight u ≤ weight s := by
  refine (h.invariant_along (P := fun es u => P u ∧ es.length + weight u ≤ weight s) ?_
    ⟨hs, Nat.le_of_eq (Nat.zero_add _)⟩).2
  rintro es t e u hlast ⟨ht, hle⟩
  obtain ⟨hu, hless⟩ := hstep t e u hlast ht
  refine ⟨hu, ?_⟩
  rw [List.length_append, List.length_singleton]
  omega

/-- Where each state has one next state at most, events are the first of those that lead to an
end. -/
theorem exists_rest {all : List Event} {v : State} (h : Steps step s es u)
    (hall : Steps step s all v)
    (honly : ∀ s e t e' t', step s e t → step s e' t' → e = e' ∧ t = t')
    (hend : ∀ e t, ¬step v e t) : ∃ rest, all = es ++ rest ∧ Steps step u rest v := by
  induction h generalizing all with
  | nil => exact ⟨all, rfl, hall⟩
  | cons hfirst _ ih =>
    cases hall with
    | nil => exact absurd hfirst (hend _ _)
    | cons hfirst' hall =>
      obtain ⟨rfl, rfl⟩ := honly _ _ _ _ _ hfirst hfirst'
      obtain ⟨rest, rfl, hrest⟩ := ih hall
      exact ⟨rest, rfl, hrest⟩

end Steps

/-! ### One party among several -/

/-- An event that happens, or none. -/
def Maybe (step : State → Event → State → Prop) (s : State) : Option Event → State → Prop
  | some e, t => step s e t
  | none, t => t = s

theorem Maybe.cases {s t : State} {e? : Option Event} (h : Maybe step s e? t) :
    e? = none ∧ t = s ∨ ∃ e, e? = some e ∧ step s e t := by
  cases e? with
  | none => exact .inl ⟨rfl, h⟩
  | some e => exact .inr ⟨e, rfl, h⟩

/-- What one party sees of the events follows each other too. -/
theorem Steps.project {Part Seen : Type} {view : State → Part} {seen? : Event → Option Seen}
    {step' : Part → Seen → Part → Prop}
    (hstep : ∀ s e t, step s e t → Maybe step' (view s) (seen? e) (view t)) {s u : State}
    {es : List Event} (h : Steps step s es u) :
    Steps step' (view s) (es.filterMap seen?) (view u) := by
  induction h with
  | nil => exact .nil
  | @cons s t u e es hfirst _ ih =>
    obtain ⟨hunseen, hsame⟩ | ⟨e', hseen, hview⟩ := (hstep s e t hfirst).cases
    · rw [List.filterMap_cons_none hunseen, ← hsame]
      exact ih
    · rw [List.filterMap_cons_some hseen]
      exact .cons hview ih

end SnapshotFeed
