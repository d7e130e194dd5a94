import SnapshotFeed.Frame
import SnapshotFeed.Lines
import SnapshotFeed.Proofs.Json.Reader
import SnapshotFeed.Proofs.Json.Writer

/-! How the frame of a response may be written, and that it is read as that response.

The members come in any order, an absent one stands for its default, and members nobody knows may
stand among them. `ofLine_of_framed`: whichever way it is written, the message is the response. -/
namespace SnapshotFeed
open Json (Piece Value Spells Says pieces quoted says_pieces spells_cons spells_punctuation
  written_quoted)

/-- The literal of an integer. -/
def Json.Number.ofInt (i : Int) : Number := ⟨i < 0, i.natAbs, true⟩

/-- A state by a name, which may be one nobody knows, or by a number of 64 bits. -/
inductive SyncState.WrittenAs : SyncState → Value → Prop where
  | name {ps : List Piece} {text : String} : Says ps text → WrittenAs (ofName text) (.string ps)
  | number {i : Int} : -0x8000000000000000 ≤ i → i < 0x8000000000000000 →
    WrittenAs (ofNumber i) (.number (.ofInt i))

namespace Response

/-- Members, with the configuration and the state if they give one. -/
inductive Members : Option String → Option SyncState → List (List Piece × Value) → Prop where
  | nil : Members none none []
  | configuration {key ps : List Piece} {text : String} {state : Option SyncState}
    {ms : List (List Piece × Value)} : Says key "flagConfiguration" → Says ps text →
    Members none state ms → Members (some text) state ((key, .string ps) :: ms)
  | state {key : List Piece} {v : Value} {text : Option String} {s : SyncState}
    {ms : List (List Piece × Value)} : Says key "state" → s.WrittenAs v → Members text none ms →
    Members text (some s) ((key, v) :: ms)
  | other {key : List Piece} {name : String} {v : Value} {text : Option String}
    {state : Option SyncState} {ms : List (List Piece × Value)} : Says key name →
    name ≠ "flagConfiguration" → name ≠ "state" → Members text state ms →
    Members text state ((key, v) :: ms)

/-- A response as a value. -/
inductive WrittenAs : Response → Value → Prop where
  | object {text : Option String} {state : Option SyncState} {ms : List (List Piece × Value)} :
    Members text state ms → WrittenAs ⟨text.getD "", state.getD .unspecified⟩ (.object ms)

/-- The frame of a response as a value. -/
inductive Framed : Response → Value → Prop where
  | result {key : List Piece} {r : Response} {v : Value} : Says key "result" → r.WrittenAs v →
    Framed r (.object [(key, v)])

end Response

/-! ### Reading -/

theorem Json.Number.toInt?_ofInt (i : Int) : (ofInt i).toInt? = some i := by
  unfold toInt? ofInt
  by_cases h : i < 0
  · have hne : i.natAbs ≠ 0 := by omega
    simp only [h, decide_true, Bool.not_true, Bool.false_eq_true, if_false, hne, Option.some.injEq]
    omega
  · simp only [h, decide_false, Bool.not_true, Bool.not_false, Bool.false_eq_true, if_false,
      if_true, Option.some.injEq]
    omega

theorem SyncState.ofValue?_of_writtenAs {s : SyncState} {v : Value} (h : s.WrittenAs v) :
    ofValue? v = some s := by
  cases h with
  | name h => rw [ofValue?, Json.text?_of_says h, Option.map_some]
  | @number i hlow hhigh =>
    rw [ofValue?, Json.Number.toInt?_ofInt, Option.bind_eq_bind, Option.bind_some,
      if_pos ⟨hlow, hhigh⟩]

/-- The members of a name: one that is read as what was found, or none if nothing was. -/
def Finds {α : Type} (name : String) (read : Value → Option α) (found : Option α)
    (members : List (String × Value)) : Prop :=
  match found with
  | none => members.filter (·.1 == name) = []
  | some a => ∃ v, members.filter (·.1 == name) = [(name, v)] ∧ read v = some a

namespace Finds
variable {α : Type} {name : String} {read : Value → Option α} {found : Option α}
  {members : List (String × Value)}

theorem field?_eq (h : Finds name read found members) (absent : α) :
    field? name read absent members = some (found.getD absent) := by
  cases found with
  | none =>
    have hnone : members.filter (·.1 == name) = [] := h
    rw [field?, hnone]
    rfl
  | some a =>
    obtain ⟨v, hone, hread⟩ := h
    rw [field?, hone]
    exact hread

theorem cons_of_ne (h : Finds name read found members) {key : String} (hne : key ≠ name)
    (v : Value) :
    Finds name read found ((key, v) :: members) := by
  cases found <;> simpa [Finds, hne] using h

theorem cons_self (h : Finds name read none members) {v : Value} {a : α} (hread : read v = some a) :
    Finds name read (some a) ((name, v) :: members) := by
  have hnone : members.filter (·.1 == name) = [] := h
  exact ⟨v, by rw [List.filter_cons_of_pos (by simp), hnone], hread⟩

end Finds

theorem keyed?_cons {key : List Piece} {name : String} (hkey : Says key name) {v : Value}
    {ms : List (List Piece × Value)} {members : List (String × Value)}
    (h : keyed? ms = some members) : keyed? ((key, v) :: ms) = some ((name, v) :: members) := by
  unfold keyed? at h ⊢
  simp only [List.mapM_cons, h, Json.text?_of_says hkey]
  rfl

theorem Response.exists_keyed?_of_members {text : Option String} {state : Option SyncState}
    {ms : List (List Piece × Value)} (h : Members text state ms) :
    ∃ members, keyed? ms = some members ∧
      Finds "flagConfiguration" Value.text? text members ∧
      Finds "state" SyncState.ofValue? state members := by
  induction h with
  | nil => exact ⟨[], rfl, rfl, rfl⟩
  | configuration hkey htext _ ih =>
    obtain ⟨members, hkeyed, hconfiguration, hstate⟩ := ih
    exact ⟨_, keyed?_cons hkey hkeyed, hconfiguration.cons_self (Json.text?_of_says htext),
      hstate.cons_of_ne (by decide) _⟩
  | state hkey hs _ ih =>
    obtain ⟨members, hkeyed, hconfiguration, hstate⟩ := ih
    exact ⟨_, keyed?_cons hkey hkeyed, hconfiguration.cons_of_ne (by decide) _,
      hstate.cons_self (SyncState.ofValue?_of_writtenAs hs)⟩
  | other hkey hconfiguration' hstate' _ ih =>
    obtain ⟨members, hkeyed, hconfiguration, hstate⟩ := ih
    exact ⟨_, keyed?_cons hkey hkeyed, hconfiguration.cons_of_ne hconfiguration' _,
      hstate.cons_of_ne hstate' _⟩

theorem Response.ofValue?_of_writtenAs {r : Response} {v : Value} (h : r.WrittenAs v) :
    ofValue? v = some r := by
  cases h with
  | object h =>
    obtain ⟨members, hkeyed, hconfiguration, hstate⟩ := exists_keyed?_of_members h
    simp only [ofValue?, hkeyed, hconfiguration.field?_eq, hstate.field?_eq, Option.bind_eq_bind,
      Option.bind_some]

theorem Frame.ofValue?_of_framed {r : Response} {v : Value} (h : r.Framed v) :
    ofValue? v = some (.result r) := by
  cases h with
  | result hkey hr =>
    rw [ofValue?, Json.text?_of_says hkey]
    simp only [Response.ofValue?_of_writtenAs hr, Option.map_some]

/-- **The bytes of a framed response are read as that response.** -/
theorem Message.ofLine_of_framed {r : Response} {v : Value} (h : r.Framed v) {bytes : List UInt8}
    (hv : v.Written bytes) : Message.ofLine bytes = .response r := by
  rw [Message.ofLine, Frame.decode?, Json.parse?_of_written hv, Option.bind_some,
    Frame.ofValue?_of_framed h]

/-! ### A way to write any response -/

namespace Response

/-- The frame of a response, with its state by name. -/
def encode (r : Response) : List UInt8 :=
  0x7B :: (quoted "result" ++ 0x3A :: 0x7B :: (quoted "flagConfiguration" ++ 0x3A ::
    (quoted r.flagConfiguration ++ 0x2C :: (quoted "state" ++ 0x3A ::
      (quoted r.state.name ++ 0x7D :: [0x7D])))))

/-- The value that is written there. -/
def encoded (r : Response) : Value :=
  .object [(pieces "result", .object [
    (pieces "flagConfiguration", .string (pieces r.flagConfiguration)),
    (pieces "state", .string (pieces r.state.name))])]

theorem framed_encoded (r : Response) : r.Framed r.encoded := by
  have hstate : r.state.WrittenAs (.string (pieces r.state.name)) := by
    have hname := SyncState.WrittenAs.name (says_pieces r.state.name)
    rwa [SyncState.ofName_name] at hname
  exact .result (says_pieces _) (.object (.configuration (says_pieces _) (says_pieces _)
    (.state (says_pieces _) hstate .nil)))

theorem written_encode (r : Response) : r.encoded.Written r.encode := by
  refine ⟨_, .object (.lastMember (.object (.member .string (.lastMember .string)))), ?_⟩
  show Spells [.openBrace, .string _, .colon, .openBrace, .string _, .colon, .string _, .comma,
    .string _, .colon, .string _, .closeBrace, .closeBrace] _
  refine spells_punctuation (by decide) (spells_cons (written_quoted _) ?_)
  refine spells_punctuation (by decide) (spells_punctuation (by decide) ?_)
  refine spells_cons (written_quoted _) (spells_punctuation (by decide) ?_)
  refine spells_cons (written_quoted _) (spells_punctuation (by decide) ?_)
  refine spells_cons (written_quoted _) (spells_punctuation (by decide) ?_)
  refine spells_cons (written_quoted _) (spells_punctuation (by decide) ?_)
  exact spells_punctuation (by decide) .nil

/-- The frame is one line. -/
theorem newline_notMem_encode (r : Response) : newline ∉ r.encode := by
  have hquoted : ∀ text, newline ∉ quoted text := fun text h =>
    absurd (Json.le_of_mem_quoted h) (by decide)
  have hbytes : newline ≠ 0x7B ∧ newline ≠ 0x7D ∧ newline ≠ 0x3A ∧ newline ≠ 0x2C := by decide
  simp [encode, hquoted, hbytes]

end Response

end SnapshotFeed
