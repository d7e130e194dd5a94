import SnapshotFeed.Proofs.Frame
import SnapshotFeed.Proofs.Json.Exact

/-! A result is read by what it means.

How its strings are escaped, the order of its members, the blanks between its tokens and whatever
stands under names nobody knows say nothing. `reads_by_meaning`: a result frame is read as the
configuration and the state it gives, by name or by position, and not at all if it gives one of
them twice. -/
namespace SnapshotFeed
open Json (Piece Value Says ascii pieces says_pieces text?_eq_some_iff parse?_eq_some_iff)

/-! ### Members -/

theorem keyed?_append {ms ns : List (List Piece × Value)} {members : List (String × Value)} :
    keyed? (ms ++ ns) = some members ↔
      ∃ xs ys, keyed? ms = some xs ∧ keyed? ns = some ys ∧ members = xs ++ ys := by
  unfold keyed?
  rw [List.mapM_append]
  constructor
  · intro h
    obtain ⟨xs, hxs, h⟩ := Option.bind_eq_some_iff.mp h
    obtain ⟨ys, hys, h⟩ := Option.bind_eq_some_iff.mp h
    cases h
    exact ⟨xs, ys, hxs, hys, rfl⟩
  · rintro ⟨xs, ys, hxs, hys, rfl⟩
    rw [hxs, hys]
    rfl

theorem keyed?_cons_eq_some {key : List Piece} {v : Value} {ms : List (List Piece × Value)}
    {members : List (String × Value)} :
    keyed? ((key, v) :: ms) = some members ↔
      ∃ name rest, Says key name ∧ keyed? ms = some rest ∧ members = (name, v) :: rest := by
  constructor
  · unfold keyed?
    rw [List.mapM_cons]
    intro h
    obtain ⟨m, hm, h⟩ := Option.bind_eq_some_iff.mp h
    obtain ⟨rest, hrest, h⟩ := Option.bind_eq_some_iff.mp h
    obtain ⟨name, hname, rfl⟩ := Option.map_eq_some_iff.mp hm
    cases h
    exact ⟨name, rest, text?_eq_some_iff.mp hname, hrest, rfl⟩
  · rintro ⟨name, rest, hkey, hrest, rfl⟩
    exact keyed?_cons hkey hrest

theorem Json.Says.unique {ps : List Piece} {text other : String} (h : Says ps text)
    (h' : Says ps other) : text = other :=
  Option.some.inj ((text?_eq_some_iff.mpr h).symm.trans (text?_eq_some_iff.mpr h'))

/-- Two members have this name, however they spell it. -/
def Repeats (name : String) (ms : List (List Piece × Value)) : Prop :=
  ∃ before key v between key' w after, Says key name ∧ Says key' name ∧
    ms = before ++ (key, v) :: (between ++ (key', w) :: after)

theorem field?_of_repeats {name : String} {ms : List (List Piece × Value)} (h : Repeats name ms)
    {members : List (String × Value)} (hkeyed : keyed? ms = some members) {α : Type}
    (read : Value → Option α) (absent : α) : field? name read absent members = none := by
  obtain ⟨before, key, v, between, key', w, after, hkey, hkey', rfl⟩ := h
  obtain ⟨xs, rest, -, hrest, rfl⟩ := keyed?_append.mp hkeyed
  obtain ⟨first, others, hfirst, hothers, rfl⟩ := keyed?_cons_eq_some.mp hrest
  obtain ⟨ys, last, -, hlast, rfl⟩ := keyed?_append.mp hothers
  obtain ⟨second, zs, hsecond, -, rfl⟩ := keyed?_cons_eq_some.mp hlast
  rw [hfirst.unique hkey, hsecond.unique hkey']
  have hlength : 2 ≤ ((xs ++ (name, v) :: (ys ++ (name, w) :: zs)).filter (·.1 == name)).length := by
    simp only [List.filter_append, List.filter_cons, beq_self_eq_true, if_true, List.length_append,
      List.length_cons]
    omega
  unfold field?
  split
  · rename_i hnone
    rw [hnone] at hlength
    cases hlength
  · rename_i hone
    rw [hone] at hlength
    simp at hlength
  · rfl

/-! ### Responses -/

namespace Response

/-- Members by position: the configuration first, then the state; the later may be missing. -/
inductive Items : Option String → Option SyncState → List Value → Prop where
  | nil : Items none none []
  | configuration {ps : List Piece} {text : String} : Says ps text →
    Items (some text) none [.string ps]
  | state {ps : List Piece} {text : String} {s : SyncState} {v : Value} : Says ps text →
    s.WrittenAs v → Items (some text) (some s) [.string ps, v]

/-- A response as a value, with the configuration and the state if it gives them. -/
inductive Gives : Option String → Option SyncState → Value → Prop where
  | object {text : Option String} {state : Option SyncState} {ms : List (List Piece × Value)} :
    Members text state ms → Gives text state (.object ms)
  | array {text : Option String} {state : Option SyncState} {vs : List Value} :
    Items text state vs → Gives text state (.array vs)

variable {text : Option String} {state : Option SyncState}

theorem ofValue?_of_items {vs : List Value} (h : Items text state vs) :
    ofValue? (.array vs) = some ⟨text.getD "", state.getD .unspecified⟩ := by
  cases h with
  | nil => rfl
  | configuration htext =>
    simp only [ofValue?, Value.text?, Json.text?_of_says htext, Option.bind_eq_bind,
      Option.bind_some]
    rfl
  | state htext hstate =>
    simp only [ofValue?, Value.text?, Json.text?_of_says htext,
      SyncState.ofValue?_of_writtenAs hstate, Option.bind_eq_bind, Option.bind_some]
    rfl

theorem ofValue?_of_gives {v : Value} (h : Gives text state v) :
    ofValue? v = some ⟨text.getD "", state.getD .unspecified⟩ := by
  cases h with
  | object h => exact ofValue?_of_writtenAs (.object h)
  | array h => exact ofValue?_of_items h

theorem ofValue?_of_repeats {name : String} (hname : name ∈ ["flagConfiguration", "state"])
    {ms : List (List Piece × Value)} (h : Repeats name ms) : ofValue? (.object ms) = none := by
  cases hkeyed : keyed? ms with
  | none => simp [ofValue?, hkeyed]
  | some members =>
    simp only [List.mem_cons, List.not_mem_nil, or_false] at hname
    rcases hname with rfl | rfl
    · simp [ofValue?, hkeyed, field?_of_repeats h hkeyed]
    · simp [ofValue?, hkeyed, field?_of_repeats h hkeyed]

end Response

/-! ### Frames -/

theorem Frame.decode?_of_holds {bytes : List UInt8} {v : Value} (h : v.Holds bytes) :
    decode? bytes = ofValue? v := by
  rw [decode?, parse?_eq_some_iff.mpr h, Option.bind_some]

theorem Frame.ofValue?_result {key : List Piece} (hkey : Says key "result") (v : Value) :
    ofValue? (.object [(key, v)]) = (Response.ofValue? v).map .result := by
  simp only [ofValue?, Json.text?_of_says hkey]

theorem Message.ofLine_eq_malformedFrame_iff {line : List UInt8} :
    ofLine line = .error .malformedFrame ↔ Frame.decode? line = none := by
  unfold ofLine
  split <;> simp_all

/-- **A result is read by what it means**: as the configuration and the state it gives, whatever the
spelling, the order, the blanks and the other members, and by position as by name. If a known member
stands in it twice, it is malformed. -/
theorem Frame.reads_by_meaning {key : List Piece} (hkey : Says key "result") {bytes : List UInt8} :
    (∀ text state v, Response.Gives text state v → Value.Holds (.object [(key, v)]) bytes →
      decode? bytes = some (.result ⟨text.getD "", state.getD .unspecified⟩)) ∧
    (∀ name ms, name ∈ ["flagConfiguration", "state"] → Repeats name ms →
      Value.Holds (.object [(key, .object ms)]) bytes →
        Message.ofLine bytes = .error .malformedFrame) := by
  constructor
  · intro text state v hgives hholds
    rw [decode?_of_holds hholds, ofValue?_result hkey, Response.ofValue?_of_gives hgives]
    rfl
  · intro name ms hname hrepeats hholds
    rw [Message.ofLine_eq_malformedFrame_iff, decode?_of_holds hholds, ofValue?_result hkey,
      Response.ofValue?_of_repeats hname hrepeats]
    rfl

/-- A configuration in escapes, after a value that is skipped; and a state that is given twice. -/
theorem Frame.reads_by_meaning_of_escapes :
    Says (pieces "result") "result" ∧
    decode? (ascii (" \x7b\"result\": \x7b\"x\":[\"\x7d\",\x7b\"a\":[]\x7d], \"state\":1," ++
      "\"flagConfiguration\":\"\\u00e9\\ud83d\\ude00\"\x7d\x7d ")) = some (.result ⟨"é😀", .all⟩) ∧
    Message.ofLine (ascii "\x7b\"result\":\x7b\"state\":1,\"s\\u0074ate\":2\x7d\x7d") =
      .error .malformedFrame := by
  have hkey := says_pieces "result"
  refine ⟨hkey, ?_, ?_⟩
  · have hstate : SyncState.WrittenAs .all (.number ⟨false, 1, true⟩) :=
      .number (i := 1) (by decide) (by decide)
    have hgives : Response.Gives (some "é😀") (some .all) (.object
        [(pieces "x", .array [.string [.byte 0x7D], .object [(pieces "a", .array [])]]),
          (pieces "state", .number ⟨false, 1, true⟩),
          (pieces "flagConfiguration", .string (pieces "é😀"))]) :=
      .object (.other (says_pieces "x") (by decide) (by decide)
        (.state (says_pieces _) hstate (.configuration (says_pieces _) (says_pieces _) .nil)))
    exact (reads_by_meaning hkey).1 _ _ _ hgives (parse?_eq_some_iff.mp rfl)
  · have hrepeats : Repeats "state" [(pieces "state", .number ⟨false, 1, true⟩),
        ([.byte 0x73, .unit 0x74, .byte 0x61, .byte 0x74, .byte 0x65], .number ⟨false, 2, true⟩)] :=
      ⟨[], _, _, [], _, _, [], says_pieces _, text?_eq_some_iff.mp (by decide), rfl⟩
    exact (reads_by_meaning hkey).2 _ _ (by decide) hrepeats (parse?_eq_some_iff.mp rfl)

end SnapshotFeed
