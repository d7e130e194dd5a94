import Mathlib.Algebra.Group.Int.Defs
import SnapshotFeed.Proofs.Frame.Meaning

/-! Numbers in frames are exact, or refused.

The state of a response and the code of a status may be number literals of any length. A literal is
taken for the integer it writes out, if it writes one out and that has the width the place asks for
(`literals_are_exact`); a fraction, an exponent, a minus zero and what is too wide make the line
malformed, so no literal is ever taken for another number. -/
namespace SnapshotFeed
open Json (Piece Value Number Magnitude Says ascii says_pieces parse?_eq_some_iff)

/-! ### Literals -/

/-- The literals that write an integer out: its digits, after a minus sign if it is negative. -/
inductive Json.WritesInt : Int → List UInt8 → Prop where
  | natural {n : Nat} {s : List UInt8} : Magnitude n s → WritesInt n s
  | negative {n : Nat} {s : List UInt8} : 0 < n → Magnitude n s → WritesInt (-n) (0x2D :: s)

open Json (WritesInt)

/-- The integer has a width of so many bits, one of them for its sign. -/
def FitsIn (bits : Nat) (i : Int) : Prop := -2 ^ (bits - 1) ≤ i ∧ i ≤ 2 ^ (bits - 1) - 1

instance (bits : Nat) (i : Int) : Decidable (FitsIn bits i) :=
  inferInstanceAs (Decidable (_ ∧ _))

theorem Json.Magnitude.append_digits {n : Nat} {s : List UInt8} (h : Magnitude n s) (hpos : 0 < n)
    {ds : List Nat} (hds : ∀ d ∈ ds, d < 10) :
    Magnitude (ds.foldl (10 * · + ·) n) (s ++ ds.map digit) := by
  induction ds generalizing n s with
  | nil => rwa [List.map_nil, List.append_nil]
  | cons d ds ih =>
    obtain ⟨hd, hds⟩ := List.forall_mem_cons.mp hds
    rw [List.map_cons, List.append_cons]
    exact ih (.next h hpos hd) (Nat.add_pos_left (Nat.mul_pos (by decide) hpos) d) hds

/-- A literal is that of one number. -/
theorem Json.Number.Written.unique {n m : Number} {s : List UInt8} (h : n.Written s)
    (h' : m.Written s) : n = m := by
  have hlex : ∀ k : Number, k.Written s → lex s = some [.number k] := by
    intro k hk
    have hone := spells_cons (.number hk) .nil
    rw [List.append_nil] at hone
    exact lex_of_spells hone ⟨fun _ u hu => (nomatch hu), trivial⟩
  have hsame := (hlex n h).symm.trans (hlex m h')
  simpa using hsame

theorem Json.Number.written_ofInt {i : Int} {s : List UInt8} (h : WritesInt i s) :
    (Number.ofInt i).Written s := by
  cases h with
  | @natural n s hs =>
    have hn : Number.ofInt n = ⟨false, n, true⟩ := by simp [Number.ofInt]
    have hwritten := Number.Written.positive hs .none
    rwa [List.append_nil, ← hn] at hwritten
  | @negative n s hpos hs =>
    have hn : Number.ofInt (-n) = ⟨true, n, true⟩ := by simp [Number.ofInt, hpos]
    have hwritten := Number.Written.negative hs .none
    rwa [List.append_nil, ← hn] at hwritten

/-- The integer that a literal denotes is the one it writes out. -/
theorem Json.Number.toInt?_eq_some_iff {n : Number} {s : List UInt8} (h : n.Written s) {i : Int} :
    n.toInt? = some i ↔ WritesInt i s := by
  constructor
  · intro hint
    cases h with
    | @positive n integral s t hs ht =>
      cases ht with
      | none =>
        cases hint
        rw [List.append_nil]
        exact .natural hs
      | _ => cases hint
    | @negative n integral s t hs ht =>
      cases ht with
      | none =>
        rw [List.append_nil]
        by_cases hzero : n = 0
        · simp [toInt?, hzero] at hint
        · have hi : -(n : Int) = i := by simpa [toInt?, hzero] using hint
          rw [← hi]
          exact .negative (Nat.pos_of_ne_zero hzero) hs
      | _ => cases hint
  · intro hwrites
    rw [h.unique (written_ofInt hwrites), toInt?_ofInt]

theorem SyncState.ofValue?_number_iff {n : Number} {s : SyncState} :
    ofValue? (.number n) = some s ↔ ∃ i, n.toInt? = some i ∧ FitsIn 64 i ∧ ofNumber i = s := by
  simp only [ofValue?, Option.bind_eq_bind, Option.bind_eq_some_iff, Option.ite_none_right_eq_some,
    Option.some.injEq]
  refine exists_congr fun i => and_congr_right fun _ => and_congr_left fun _ => ?_
  show (_ ∧ _) ↔ (_ ∧ _)
  omega

theorem Status.code?_number_iff {n : Number} {i : Int} :
    code? (.number n) = some i ↔ n.toInt? = some i ∧ FitsIn 32 i := by
  simp only [code?, Value.int?, Option.bind_eq_bind, Option.bind_eq_some_iff,
    Option.ite_none_right_eq_some, Option.some.injEq]
  constructor
  · rintro ⟨j, hj, hfits, rfl⟩
    refine ⟨hj, ?_⟩
    show _ ∧ _
    omega
  · rintro ⟨hi, hfits⟩
    change _ ∧ _ at hfits
    exact ⟨i, hi, by omega, rfl⟩

/-- No number is a known state but those from zero to five. -/
theorem SyncState.ofNumber_eq_unrecognized {i : Int} (h : ¬(0 ≤ i ∧ i ≤ 5)) :
    ofNumber i = .unrecognized := by
  unfold ofNumber
  split
  · rfl
  · have hlength : numbered.length ≤ i.toNat := by
      show 6 ≤ i.toNat
      omega
    rw [List.getD_eq_getElem?_getD, List.getElem?_eq_none hlength]
    rfl

/-! ### The place of a literal -/

/-- A response with this value for its state, and with the configuration if it gives one. -/
inductive Response.HasState : Option String → Value → Value → Prop where
  | object {text : Option String} {before after : List (List Piece × Value)} {key : List Piece}
    {v : Value} : Says key "state" → Members text none (before ++ after) →
    HasState text v (.object (before ++ (key, v) :: after))
  | array {ps : List Piece} {text : String} {v : Value} : Says ps text →
    HasState (some text) v (.array [.string ps, v])

/-- The members of a status beside its code, with the message if they give one. -/
inductive Status.Others : Option String → List (List Piece × Value) → Prop where
  | nil : Others none []
  | message {key ps : List Piece} {text : String} {ms : List (List Piece × Value)} :
    Says key "message" → Says ps text → Others none ms → Others (some text) ((key, .string ps) :: ms)
  | other {key : List Piece} {name : String} {v : Value} {text : Option String}
    {ms : List (List Piece × Value)} : Says key name → name ≠ "code" → name ≠ "message" →
    Others text ms → Others text ((key, v) :: ms)

/-- A status with this value for its code, and with the message if it gives one. -/
inductive Status.HasCode : Option String → Value → Value → Prop where
  | object {text : Option String} {before after : List (List Piece × Value)} {key : List Piece}
    {v : Value} : Says key "code" → Others text (before ++ after) →
    HasCode text v (.object (before ++ (key, v) :: after))
  | alone {v : Value} : HasCode none v (.array [v])
  | array {ps : List Piece} {text : String} {v : Value} : Says ps text →
    HasCode (some text) v (.array [v, .string ps])

theorem exists_keyed?_insert {before after : List (List Piece × Value)}
    {members : List (String × Value)} (h : keyed? (before ++ after) = some members)
    {key : List Piece} {name : String} (hkey : Says key name) (v : Value) :
    ∃ xs ys, members = xs ++ ys ∧
      keyed? (before ++ (key, v) :: after) = some (xs ++ (name, v) :: ys) := by
  obtain ⟨xs, ys, hxs, hys, rfl⟩ := keyed?_append.mp h
  exact ⟨xs, ys, rfl, keyed?_append.mpr ⟨xs, _, hxs, keyed?_cons hkey hys, rfl⟩⟩

section Insert
variable {α : Type} {name : String} {read : Value → Option α} {found : Option α}
  {xs ys : List (String × Value)}

theorem Finds.field?_insert (h : Finds name read none (xs ++ ys)) (v : Value) (absent : α) :
    field? name read absent (xs ++ (name, v) :: ys) = read v := by
  have hnone : (xs ++ ys).filter (·.1 == name) = [] := h
  rw [List.filter_append, List.append_eq_nil_iff] at hnone
  rw [field?, List.filter_append, hnone.1, List.filter_cons_of_pos (by simp), hnone.2]
  rfl

theorem Finds.field?_insert_of_ne (h : Finds name read found (xs ++ ys)) {key : String}
    (hne : key ≠ name) (v : Value) (absent : α) :
    field? name read absent (xs ++ (key, v) :: ys) = some (found.getD absent) := by
  rw [← h.field?_eq, field?, field?, List.filter_append,
    List.filter_cons_of_neg (by simpa using hne), ← List.filter_append]

end Insert

theorem Response.ofValue?_of_hasState {text : Option String} {v w : Value}
    (h : HasState text v w) :
    ofValue? w = (SyncState.ofValue? v).map fun s => ⟨text.getD "", s⟩ := by
  cases h with
  | object hkey hmembers =>
    obtain ⟨members, hkeyed, hconfiguration, hstate⟩ := exists_keyed?_of_members hmembers
    obtain ⟨xs, ys, rfl, hkeyed'⟩ := exists_keyed?_insert hkeyed hkey v
    have hkept := hconfiguration.field?_insert_of_ne (by decide : "state" ≠ _) v ""
    simp only [ofValue?, hkeyed', hkept, hstate.field?_insert, Option.bind_eq_bind,
      Option.bind_some]
    cases SyncState.ofValue? v <;> rfl
  | array htext =>
    simp only [ofValue?, Value.text?, Json.text?_of_says htext, Option.bind_eq_bind,
      Option.bind_some]
    cases SyncState.ofValue? v <;> rfl

theorem Status.exists_keyed?_of_others {text : Option String} {ms : List (List Piece × Value)}
    (h : Others text ms) : ∃ members, keyed? ms = some members ∧
      Finds "code" code? none members ∧ Finds "message" Value.text? text members := by
  induction h with
  | nil => exact ⟨[], rfl, rfl, rfl⟩
  | message hkey htext _ ih =>
    obtain ⟨members, hkeyed, hcode, hmessage⟩ := ih
    exact ⟨_, keyed?_cons hkey hkeyed, hcode.cons_of_ne (by decide) _,
      hmessage.cons_self (Json.text?_of_says htext)⟩
  | other hkey hcode' hmessage' _ ih =>
    obtain ⟨members, hkeyed, hcode, hmessage⟩ := ih
    exact ⟨_, keyed?_cons hkey hkeyed, hcode.cons_of_ne hcode' _, hmessage.cons_of_ne hmessage' _⟩

theorem Status.ofValue?_of_hasCode {text : Option String} {v w : Value} (h : HasCode text v w) :
    ofValue? w = (code? v).map fun i => ⟨i, text.getD ""⟩ := by
  cases h with
  | object hkey hothers =>
    obtain ⟨members, hkeyed, hcode, hmessage⟩ := exists_keyed?_of_others hothers
    obtain ⟨xs, ys, rfl, hkeyed'⟩ := exists_keyed?_insert hkeyed hkey v
    have hkept := hmessage.field?_insert_of_ne (by decide : "code" ≠ _) v ""
    simp only [ofValue?, hkeyed', hkept, hcode.field?_insert, Option.bind_eq_bind,
      Option.bind_some]
    cases code? v <;> rfl
  | alone =>
    simp only [ofValue?]
    cases code? v <;> rfl
  | array htext =>
    simp only [ofValue?, Value.text?, Json.text?_of_says htext, Option.bind_eq_bind,
      Option.bind_some]
    cases code? v <;> rfl

/-! ### Frames -/

theorem Frame.ofValue?_error {key : List Piece} (hkey : Says key "error") (v : Value) :
    ofValue? (.object [(key, v)]) = (Status.ofValue? v).map .error := by
  simp only [ofValue?, Json.text?_of_says hkey]

/-- A frame that has a number for its state is read exactly if the number is an integer of 64 bits,
and then as the state of that number. -/
theorem Frame.decode?_number_state {n : Number} {key : List Piece} (hkey : Says key "result")
    {text : Option String} {body : Value} (hbody : Response.HasState text (.number n) body)
    {bytes : List UInt8} (hholds : Value.Holds (.object [(key, body)]) bytes) {f : Frame} :
    decode? bytes = some f ↔ ∃ i, n.toInt? = some i ∧ FitsIn 64 i ∧
      f = .result ⟨text.getD "", .ofNumber i⟩ := by
  rw [decode?_of_holds hholds, ofValue?_result hkey, Response.ofValue?_of_hasState hbody,
    Option.map_map, Option.map_eq_some_iff]
  constructor
  · rintro ⟨s, hs, rfl⟩
    obtain ⟨i, hi, hfits, rfl⟩ := SyncState.ofValue?_number_iff.mp hs
    exact ⟨i, hi, hfits, rfl⟩
  · rintro ⟨i, hi, hfits, rfl⟩
    exact ⟨_, SyncState.ofValue?_number_iff.mpr ⟨i, hi, hfits, rfl⟩, rfl⟩

/-- A frame that has a number for its code is read exactly if the number is an integer of 32 bits,
and then with that code. -/
theorem Frame.decode?_number_code {n : Number} {key : List Piece} (hkey : Says key "error")
    {text : Option String} {body : Value} (hbody : Status.HasCode text (.number n) body)
    {bytes : List UInt8} (hholds : Value.Holds (.object [(key, body)]) bytes) {f : Frame} :
    decode? bytes = some f ↔ ∃ i, n.toInt? = some i ∧ FitsIn 32 i ∧
      f = .error ⟨i, text.getD ""⟩ := by
  rw [decode?_of_holds hholds, ofValue?_error hkey, Status.ofValue?_of_hasCode hbody,
    Option.map_map, Option.map_eq_some_iff]
  constructor
  · rintro ⟨i, hi, rfl⟩
    obtain ⟨hi, hfits⟩ := Status.code?_number_iff.mp hi
    exact ⟨i, hi, hfits, rfl⟩
  · rintro ⟨i, hi, hfits, rfl⟩
    exact ⟨i, Status.code?_number_iff.mpr ⟨hi, hfits⟩, rfl⟩

/-- **Literals are exact, or refused.** A frame with a number literal for its state is read exactly
if the literal writes out an integer of 64 bits, and then as the state of that integer, which is a
known one from zero to five only; with a literal for its code, exactly if that writes out an integer
of 32 bits, and then with that integer for its code. -/
theorem Frame.literals_are_exact {n : Number} {literal : List UInt8} (hn : n.Written literal)
    {key : List Piece} {body : Value} {bytes : List UInt8}
    (hholds : Value.Holds (.object [(key, body)]) bytes) {text : Option String} {f : Frame} :
    (Says key "result" → Response.HasState text (.number n) body →
      (decode? bytes = some f ↔ ∃ i, WritesInt i literal ∧ FitsIn 64 i ∧
        f = .result ⟨text.getD "", .ofNumber i⟩ ∧
          (¬(0 ≤ i ∧ i ≤ 5) → SyncState.ofNumber i = .unrecognized))) ∧
    (Says key "error" → Status.HasCode text (.number n) body →
      (decode? bytes = some f ↔ ∃ i, WritesInt i literal ∧ FitsIn 32 i ∧
        f = .error ⟨i, text.getD ""⟩)) := by
  constructor
  · intro hkey hbody
    rw [decode?_number_state hkey hbody hholds]
    refine exists_congr fun i => and_congr (Number.toInt?_eq_some_iff hn) (and_congr_right fun _ => ?_)
    exact (and_iff_left SyncState.ofNumber_eq_unrecognized).symm
  · intro hkey hbody
    rw [decode?_number_code hkey hbody hholds]
    exact exists_congr fun i => and_congr_left fun _ => Number.toInt?_eq_some_iff hn

/-- The least integer of 64 bits for a state, and the first code that is too great. -/
theorem Frame.literals_are_exact_at_edges :
    decode? (ascii "\x7b\"result\":\x7b\"state\":-9223372036854775808\x7d\x7d") =
      some (.result ⟨"", .unrecognized⟩) ∧
    decode? (ascii "\x7b\"error\":\x7b\"code\":2147483648\x7d\x7d") = none := by
  constructor
  · have hwrites : WritesInt (-9223372036854775808) (ascii "-9223372036854775808") :=
      .negative (by decide) ((Magnitude.first (by decide : 0 < 9) (by decide)).append_digits
        (by decide) (by decide : ∀ d ∈ [2, 2, 3, 3, 7, 2, 0, 3, 6, 8, 5, 4, 7, 7, 5, 8, 0, 8], d < 10))
    have hbody := @Response.HasState.object none [] [] _ (.number (.ofInt (-9223372036854775808)))
      (says_pieces "state") .nil
    exact ((literals_are_exact (Number.written_ofInt hwrites) (parse?_eq_some_iff.mp rfl)).1
      (says_pieces "result") hbody).mpr ⟨_, hwrites, by decide, rfl, fun _ => rfl⟩
  · have hwrites : WritesInt 2147483648 (ascii "2147483648") :=
      .natural ((Magnitude.first (by decide : 0 < 2) (by decide)).append_digits (by decide)
        (by decide : ∀ d ∈ [1, 4, 7, 4, 8, 3, 6, 4, 8], d < 10))
    have hn := Number.written_ofInt hwrites
    have hbody := @Status.HasCode.object none [] [] _ (.number (.ofInt 2147483648))
      (says_pieces "code") .nil
    refine Option.eq_none_iff_forall_ne_some.mpr fun f hf => ?_
    obtain ⟨i, hi, hfits, -⟩ := ((literals_are_exact hn (parse?_eq_some_iff.mp rfl)).2
      (says_pieces "error") hbody).mp hf
    have hsame := (Number.toInt?_eq_some_iff hn).mpr hi
    rw [Number.toInt?_ofInt] at hsame
    cases hsame
    exact absurd hfits (by decide)

end SnapshotFeed
