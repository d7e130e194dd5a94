import SnapshotFeed.Proofs.Json.Reader
import SnapshotFeed.Proofs.Json.Spelling

/-! What is read is exactly what is written.

A reader has read the tokens of a value, or of the layers that are still open (`Reader.Read`), and a
token takes it from one to the other. `parse?_eq_some_iff`: a text is read as a value if and only if
it holds that value, which is to say that it writes it, with blanks around it. -/
namespace SnapshotFeed.Json

/-! ### Items and members -/

/-- The tokens of the items or members that stand before another one. -/
inductive Phrase.Before : Phrase → List Token → Prop where
  | noItem : Before (.items []) []
  | noMember : Before (.members []) []
  | comma {p : Phrase} {ts : List Token} : p.Written ts → Before p (ts ++ [.comma])

namespace Phrase.Before
variable {v : Value} {ts us : List Token}

theorem items {vs : List Value} (h : Before (.items vs) us) (hv : Phrase.Written (.value v) ts) :
    Phrase.Written (.items (vs ++ [v])) (us ++ ts) := by
  cases h with
  | noItem => exact .lastItem hv
  | @comma _ us hvs =>
    rw [List.append_assoc, List.singleton_append]
    induction vs generalizing us with
    | nil => cases hvs
    | cons w vs ih =>
      cases hvs with
      | lastItem hw => exact .item hw (.lastItem hv)
      | item hw hvs =>
        rw [List.append_assoc, List.cons_append]
        exact .item hw (ih hvs)

theorem members {ms : List (List Piece × Value)} (h : Before (.members ms) us) {key : List Piece}
    (hv : Phrase.Written (.value v) ts) :
    Phrase.Written (.members (ms ++ [(key, v)])) (us ++ .string key :: .colon :: ts) := by
  cases h with
  | noMember => exact .lastMember hv
  | @comma _ us hms =>
    rw [List.append_assoc, List.singleton_append]
    induction ms generalizing us with
    | nil => cases hms
    | cons m ms ih =>
      cases hms with
      | lastMember hw => exact .member hw (.lastMember hv)
      | member hw hms =>
        simp only [List.cons_append, List.append_assoc]
        exact .member hw (ih hms)

end Phrase.Before

/-! ### The reader -/

/-- The tokens of the layers around a value, up to that value. -/
inductive Opened : List Layer → List Token → Prop where
  | nil : Opened [] []
  | array {items : List Value} {outer : List Layer} {ts us : List Token} : Opened outer ts →
    Phrase.Before (.items items.reverse) us → Opened (.array items :: outer) (ts ++ .openBracket :: us)
  | object {members : List (List Piece × Value)} {key : List Piece} {outer : List Layer}
    {ts us : List Token} : Opened outer ts → Phrase.Before (.members members.reverse) us →
    Opened (.object members key :: outer) (ts ++ .openBrace :: (us ++ [.string key, .colon]))

namespace Reader

/-- The tokens a reader has read. -/
inductive Read : Reader → List Token → Prop where
  | value {outer : List Layer} {ts : List Token} : Opened outer ts → Read (.value outer) ts
  | firstItem {outer : List Layer} {ts : List Token} : Opened outer ts →
    Read (.firstItem outer) (ts ++ [.openBracket])
  | afterItem {items : List Value} {outer : List Layer} {ts us : List Token} : Opened outer ts →
    Phrase.Written (.items items.reverse) us →
    Read (.afterItem items outer) (ts ++ .openBracket :: us)
  | firstKey {outer : List Layer} {ts : List Token} : Opened outer ts →
    Read (.firstKey outer) (ts ++ [.openBrace])
  | nextKey {members : List (List Piece × Value)} {outer : List Layer} {ts us : List Token} :
    Opened outer ts → Phrase.Written (.members members.reverse) us →
    Read (.nextKey members outer) (ts ++ .openBrace :: (us ++ [.comma]))
  | afterKey {key : List Piece} {members : List (List Piece × Value)} {outer : List Layer}
    {ts us : List Token} : Opened outer ts → Phrase.Before (.members members.reverse) us →
    Read (.afterKey key members outer) (ts ++ .openBrace :: (us ++ [.string key]))
  | afterMember {members : List (List Piece × Value)} {outer : List Layer} {ts us : List Token} :
    Opened outer ts → Phrase.Written (.members members.reverse) us →
    Read (.afterMember members outer) (ts ++ .openBrace :: us)
  | done {v : Value} {ts : List Token} : Phrase.Written (.value v) ts → Read (.done v) ts

variable {outer : List Layer} {ts us : List Token} {r : Reader} {t : Token} {v : Value}

/-- A value that has been read goes into the layer it stands in. -/
theorem read_put (h : Opened outer ts) (hv : Phrase.Written (.value v) us) :
    (put v outer).Read (ts ++ us) := by
  cases h with
  | nil => exact .done hv
  | array houter hbefore =>
    rw [List.append_assoc, List.cons_append]
    refine .afterItem houter ?_
    rw [List.reverse_cons]
    exact hbefore.items hv
  | @object _ key _ _ _ houter hbefore =>
    simp only [List.append_assoc, List.cons_append, List.nil_append]
    refine .afterMember houter ?_
    rw [List.reverse_cons]
    exact hbefore.members hv

theorem read_startValue (h : Opened outer ts) (hstart : startValue outer t = some r) :
    r.Read (ts ++ [t]) := by
  cases t with
  | null | bool b | number n | string s =>
    cases hstart
    exact read_put h (by constructor)
  | openBracket =>
    cases hstart
    exact .firstItem h
  | openBrace =>
    cases hstart
    exact .firstKey h
  | _ => cases hstart

/-- A token takes the reader on, or closes the layer it is in. -/
theorem Read.step {r' : Reader} (h : r.Read ts) (hstep : r.step t = some r') :
    r'.Read (ts ++ [t]) := by
  cases h with
  | value houter => exact read_startValue houter hstep
  | @firstItem outer ts houter =>
    have hfirst : Opened (.array [] :: outer) (ts ++ [.openBracket]) := .array houter .noItem
    cases t with
    | closeBracket =>
      cases hstep
      rw [List.append_assoc]
      exact read_put houter .emptyArray
    | _ => exact read_startValue hfirst hstep
  | @afterItem items outer ts us houter hitems =>
    cases t with
    | comma =>
      cases hstep
      rw [List.append_assoc, List.cons_append]
      exact .value (.array houter (.comma hitems))
    | closeBracket =>
      cases hstep
      rw [List.append_assoc]
      exact read_put houter (.array hitems)
    | _ => cases hstep
  | @firstKey outer ts houter =>
    cases t with
    | closeBrace =>
      cases hstep
      rw [List.append_assoc]
      exact read_put houter .emptyObject
    | string key =>
      cases hstep
      rw [List.append_assoc]
      exact .afterKey houter .noMember
    | _ => cases hstep
  | @nextKey members outer ts us houter hmembers =>
    cases t with
    | string key =>
      cases hstep
      rw [List.append_assoc, List.cons_append]
      exact .afterKey houter (.comma hmembers)
    | _ => cases hstep
  | @afterKey key members outer ts us houter hbefore =>
    cases t with
    | colon =>
      cases hstep
      simp only [List.append_assoc, List.cons_append, List.nil_append]
      exact .value (.object houter hbefore)
    | _ => cases hstep
  | @afterMember members outer ts us houter hmembers =>
    cases t with
    | comma =>
      cases hstep
      rw [List.append_assoc, List.cons_append]
      exact .nextKey houter hmembers
    | closeBrace =>
      cases hstep
      rw [List.append_assoc]
      exact read_put houter (.object hmembers)
    | _ => cases hstep
  | done _ =>
    rw [step_done] at hstep
    cases hstep

theorem Read.run {r' : Reader} (h : r.Read ts) (hrun : us.foldlM Reader.step r = some r') :
    r'.Read (ts ++ us) := by
  induction us generalizing r ts with
  | nil =>
    obtain rfl : r = r' := Option.some.inj hrun
    rwa [List.append_nil]
  | cons t us ih =>
    rw [List.foldlM_cons] at hrun
    obtain ⟨r₁, hstep, hrest⟩ := Option.bind_eq_some_iff.mp hrun
    have hread := ih (h.step hstep) hrest
    rwa [List.append_assoc, List.singleton_append] at hread

end Reader

/-- The tokens that are read as a value write it. -/
theorem Value.written_of_ofTokens? {ts : List Token} {v : Value} (h : ofTokens? ts = some v) :
    Phrase.Written (.value v) ts := by
  have hread := (Reader.Read.value .nil).run (Value.ofTokens?_eq_some h)
  cases hread with
  | done hv => exact hv

/-! ### Texts -/

/-- Bytes that write a value, with blanks around it. -/
def Value.Holds (v : Value) (bytes : List UInt8) : Prop :=
  ∃ text after, v.Written text ∧ AllBlank after ∧ bytes = text ++ after

/-- Blanks after a text change nothing. -/
theorem lex_append_blanks {text after : List UInt8} {ts : List Token} (h : lex text = some ts)
    (hafter : AllBlank after) : lex (text ++ after) = some ts := by
  obtain ⟨read, m, last, hread, hlast, rfl⟩ := reads_of_lexFrom h
  have hblanks : ∀ done, lexFrom .between done after = some done.reverse := by
    intro done
    have hskip := reads_blanks hafter done []
    rw [List.append_nil] at hskip
    simp [hskip, lexFrom, Mode.finish?]
  rw [lex, hread]
  cases m with
  | between =>
    cases hlast
    simp [hblanks]
  | number part n =>
    obtain ⟨hpart, hn⟩ := Option.ite_none_right_eq_some.mp hlast
    cases hn
    have hends : ∀ b ∈ after.head?, EndsNumber b := fun b hb =>
      .inl (hafter b (List.mem_of_mem_head? hb))
    rw [lexFrom_number hpart n hends, hblanks]
    simp
  | _ => cases hlast

/-- **A text is read as a value exactly if it holds it.** -/
theorem parse?_eq_some_iff {bytes : List UInt8} {v : Value} :
    Value.parse? bytes = some v ↔ v.Holds bytes := by
  constructor
  · intro h
    obtain ⟨ts, hlex, hvalue⟩ := Option.bind_eq_some_iff.mp h
    obtain ⟨text, after, hspells, hafter, rfl⟩ := spelled_of_lex hlex
    exact ⟨text, after, ⟨ts, Value.written_of_ofTokens? hvalue, hspells⟩, hafter, rfl⟩
  · rintro ⟨text, after, hwritten, hafter, rfl⟩
    obtain ⟨ts, hlex, hvalue⟩ := Option.bind_eq_some_iff.mp (parse?_of_written hwritten)
    rw [Value.parse?, lex_append_blanks hlex hafter]
    exact hvalue

end SnapshotFeed.Json
