import SnapshotFeed.Proofs.Json.Lexer

/-! An object is over at its last brace.

Any text that is read was read up to every point before its end (`reads_of_lexFrom`), and only a
number is not yet a token there. The last token of an object is a brace, and after it the reader
takes no other. `allBlank_of_object`: what may follow a text that is an object are blanks. -/
namespace SnapshotFeed.Json

/-! ### What the lexer has read of a text -/

/-- Bytes that may end a text lead to a mode, in which the last tokens are still open. -/
theorem reads_of_lexFrom {m : Mode} {done : List Token} {bytes : List UInt8} {ts : List Token}
    (h : lexFrom m done bytes = some ts) :
    ∃ read m' last, m.Reads bytes read m' ∧ m'.finish? = some last ∧
      ts = done.reverse ++ (read ++ last) := by
  induction bytes generalizing m done with
  | nil =>
    obtain ⟨last, hlast, rfl⟩ := Option.map_eq_some_iff.mp h
    exact ⟨[], m, last, .refl, hlast, rfl⟩
  | cons b bytes ih =>
    rw [lexFrom] at h
    cases hstep : m.step b with
    | none =>
      rw [hstep] at h
      cases h
    | some found =>
      obtain ⟨tokens, m₁⟩ := found
      rw [hstep] at h
      obtain ⟨read, m', last, hread, hlast, rfl⟩ := ih h
      refine ⟨tokens ++ read, m', last, (Mode.Reads.byte hstep).trans hread, hlast, ?_⟩
      simp

/-- A text may end between tokens or in a number. -/
theorem Mode.finish?_eq_some {m : Mode} {last : List Token} (h : m.finish? = some last) :
    m = .between ∧ last = [] ∨ ∃ n, last = [.number n] := by
  cases m with
  | between =>
    cases h
    exact .inl ⟨rfl, rfl⟩
  | number part n =>
    simp only [finish?] at h
    split at h
    · cases h
      exact .inr ⟨n, rfl⟩
    · cases h
  | _ => cases h

theorem Mode.start_eq_between {b : UInt8} (h : start b = some ([], .between)) :
    isBlank b = true := by
  unfold start at h
  split at h
  · assumption
  · split at h
    · cases h
    · repeat' split at h
      all_goals simp at h

/-- Only a blank finishes nothing and leaves nothing open. -/
theorem Mode.step_eq_between {m : Mode} {b : UInt8} (h : m.step b = some ([], .between)) :
    m = .between ∧ isBlank b = true := by
  cases m with
  | between => exact ⟨rfl, start_eq_between h⟩
  | word rest token =>
    cases rest with
    | nil => cases h
    | cons c rest => cases rest <;> simp [step] at h
  | string read =>
    simp only [step] at h
    repeat' split at h
    all_goals simp at h
  | escape read =>
    simp only [step] at h
    split at h <;> simp at h
  | unit read missing value =>
    obtain ⟨d, -, hunit⟩ := Option.bind_eq_some_iff.mp h
    split at hunit <;> simp at hunit
  | number part n =>
    simp only [step] at h
    repeat' split at h
    all_goals simp at h

/-- Bytes that add no token are blanks between tokens. -/
theorem allBlank_of_lexFrom {m : Mode} {done : List Token} {bytes : List UInt8}
    (h : lexFrom m done bytes = some done.reverse) : m = .between ∧ AllBlank bytes := by
  induction bytes generalizing m done with
  | nil =>
    obtain ⟨last, hlast, hdone⟩ := Option.map_eq_some_iff.mp h
    rcases Mode.finish?_eq_some hlast with ⟨hm, -⟩ | ⟨n, rfl⟩
    · exact ⟨hm, fun _ hb => nomatch hb⟩
    · simp at hdone
  | cons b bytes ih =>
    rw [lexFrom] at h
    cases hstep : m.step b with
    | none =>
      rw [hstep] at h
      cases h
    | some found =>
      obtain ⟨tokens, m₁⟩ := found
      rw [hstep] at h
      obtain ⟨read, m', last, -, -, hdone⟩ := reads_of_lexFrom h
      obtain rfl : tokens = [] := by
        simp only [List.reverse_append, List.reverse_reverse, List.append_assoc,
          List.self_eq_append_right, List.append_eq_nil_iff] at hdone
        exact hdone.1
      obtain ⟨rfl, hbytes⟩ := ih h
      obtain ⟨hm, hb⟩ := Mode.step_eq_between hstep
      exact ⟨hm, List.forall_mem_cons.mpr ⟨hb, hbytes⟩⟩

/-! ### What the reader makes of it -/

/-- An object is done at a brace. -/
theorem Reader.eq_closeBrace_of_step {r : Reader} {t : Token} {ms : List (List Piece × Value)}
    (h : r.step t = some (.done (.object ms))) : t = .closeBrace := by
  have hput : ∀ v outer, put v outer = .done (.object ms) → v = .object ms := by
    intro v outer hput
    cases outer with
    | nil =>
      cases hput
      rfl
    | cons layer outer => cases layer <;> cases hput
  have hstart : ∀ outer, startValue outer t ≠ some (.done (.object ms)) := by
    intro outer hstart
    cases t with
    | null | bool b | number n | string s => cases hput _ _ (Option.some.inj hstart)
    | _ => cases hstart
  cases r with
  | value outer => exact absurd h (hstart outer)
  | firstItem outer =>
    cases t with
    | closeBracket => cases hput _ _ (Option.some.inj h)
    | _ => exact absurd h (hstart (.array [] :: outer))
  | afterItem items outer =>
    cases t with
    | closeBracket => cases hput _ _ (Option.some.inj h)
    | _ => cases h
  | _ =>
    cases t with
    | closeBrace => rfl
    | _ => cases h

/-- The tokens of an object end with a brace. -/
theorem exists_closeBrace_of_object {ts : List Token} {ms : List (List Piece × Value)}
    (h : ts.foldlM Reader.step (.value []) = some (.done (.object ms))) :
    ∃ us, ts = us ++ [.closeBrace] := by
  rcases List.eq_nil_or_concat ts with rfl | ⟨us, t, rfl⟩
  · cases h
  · rw [List.concat_eq_append, List.foldlM_append] at h
    obtain ⟨r, -, hlast⟩ := Option.bind_eq_some_iff.mp h
    simp only [List.foldlM_cons, List.foldlM_nil, bind_pure] at hlast
    exact ⟨us, by rw [List.concat_eq_append, Reader.eq_closeBrace_of_step hlast]⟩

/-- A reader that is done takes no token. -/
theorem Reader.eq_nil_of_done {v : Value} {ts : List Token} {r : Reader}
    (h : ts.foldlM Reader.step (.done v) = some r) : ts = [] := by
  cases ts with
  | nil => rfl
  | cons t ts =>
    rw [List.foldlM_cons, Reader.step_done] at h
    cases h

theorem Value.ofTokens?_eq_some {ts : List Token} {v : Value} (h : ofTokens? ts = some v) :
    ts.foldlM Reader.step (.value []) = some (.done v) := by
  obtain ⟨r, hr, hv⟩ := Option.bind_eq_some_iff.mp h
  cases r with
  | done w =>
    cases hv
    exact hr
  | _ => cases hv

/-- **A text that is an object goes on with blanks only**, if it goes on to be a text at all. -/
theorem allBlank_of_object {text rest : List UInt8} {ms : List (List Piece × Value)} {v : Value}
    (h : Value.parse? text = some (.object ms)) (hrest : Value.parse? (text ++ rest) = some v) :
    AllBlank rest := by
  obtain ⟨ts, hlex, hobject⟩ := Option.bind_eq_some_iff.mp h
  obtain ⟨us, hlexrest, hvalue⟩ := Option.bind_eq_some_iff.mp hrest
  have hdone := Value.ofTokens?_eq_some hobject
  obtain ⟨read, m, last, hread, hlast, rfl⟩ := reads_of_lexFrom hlex
  obtain ⟨init, hbrace⟩ := exists_closeBrace_of_object hdone
  -- The brace was a token by the end of the text: what is still open there can only be a number.
  obtain rfl : last = [] := by
    rcases Mode.finish?_eq_some hlast with ⟨-, rfl⟩ | ⟨n, rfl⟩
    · rfl
    · simp only [List.reverse_nil, List.nil_append] at hbrace
      have hlasts := congrArg List.getLast? hbrace
      simp at hlasts
  simp only [List.reverse_nil, List.nil_append, List.append_nil] at hdone
  have hgo : lexFrom m read.reverse rest = some us := by
    have hsplit := hread [] rest
    rw [List.append_nil] at hsplit
    exact hsplit.symm.trans hlexrest
  obtain ⟨more, m', last, -, -, rfl⟩ := reads_of_lexFrom hgo
  have hfold := Value.ofTokens?_eq_some hvalue
  rw [List.reverse_reverse, List.foldlM_append, hdone] at hfold
  have hnone : more ++ last = [] := Reader.eq_nil_of_done hfold
  rw [hnone, List.append_nil] at hgo
  exact (allBlank_of_lexFrom hgo).2

end SnapshotFeed.Json
