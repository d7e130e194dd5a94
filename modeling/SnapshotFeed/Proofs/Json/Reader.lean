import SnapshotFeed.Proofs.Json.Lexer

/-! The reader reads what is written.

The tokens of a value take the reader past that value, whatever layers are around it; those of items
and members go into the layer they stand in. `parse?_of_written`: bytes that write a value are read
as that value, whichever way it is written. -/
namespace SnapshotFeed.Json

/-- The tokens take the reader from where a phrase starts to where it ends. -/
def Phrase.Reads (ts : List Token) : Phrase → Prop
  | value v => ∀ outer, ts.foldlM Reader.step (.value outer) = some (.put v outer)
  | items vs => ∀ done outer, ts.foldlM Reader.step (.value (.array done :: outer)) =
    some (.afterItem (vs.reverse ++ done) outer)
  | members ms => ∀ done outer, ts.foldlM Reader.step (.nextKey done outer) =
    some (.afterMember (ms.reverse ++ done) outer)

/-- A phrase starts with no bracket that would end it, and members with a key. -/
def Phrase.Starts : List Token → Phrase → Prop
  | ts, value _ | ts, items _ => ts.head? ≠ some .closeBracket ∧ ts ≠ []
  | ts, members _ => ∃ key us, ts = .string key :: us

namespace Phrase.Written

theorem starts {p : Phrase} {ts : List Token} (h : p.Written ts) : p.Starts ts := by
  induction h with
  | lastItem _ ih => exact ih
  | @item _ _ ts us _ _ ih _ =>
    obtain ⟨hhead, hne⟩ := ih
    obtain ⟨t, ts, rfl⟩ := List.exists_cons_of_ne_nil hne
    exact ⟨hhead, by simp⟩
  | lastMember _ _ => exact ⟨_, _, rfl⟩
  | member _ _ _ _ => exact ⟨_, _, rfl⟩
  | _ => exact ⟨by simp, by simp⟩

/-- After an opening bracket items are read as after a comma. -/
theorem firstItem_eq {ts : List Token} (hhead : ts.head? ≠ some .closeBracket) (hne : ts ≠ [])
    (outer : List Layer) :
    ts.foldlM Reader.step (.firstItem outer) =
      ts.foldlM Reader.step (.value (.array [] :: outer)) := by
  obtain ⟨t, ts, rfl⟩ := List.exists_cons_of_ne_nil hne
  have hstep : Reader.step (.firstItem outer) t = Reader.step (.value (.array [] :: outer)) t := by
    cases t with
    | closeBracket => exact absurd rfl hhead
    | _ => rfl
  simp only [List.foldlM_cons, hstep]

/-- Brackets around what is read. -/
theorem bracketed {opening closing : Token} {ts : List Token} {r r₁ r₂ r₃ : Reader}
    (hopen : r.step opening = some r₁) (hinside : ts.foldlM Reader.step r₁ = some r₂)
    (hclose : r₂.step closing = some r₃) :
    (opening :: ts ++ [closing]).foldlM Reader.step r = some r₃ := by
  simp [hopen, hinside, hclose]

theorem reads {p : Phrase} {ts : List Token} (h : p.Written ts) : p.Reads ts := by
  induction h with
  | null | bool | number | string | emptyArray | emptyObject => exact fun _ => rfl
  | @array vs ts h ih =>
    intro outer
    obtain ⟨hhead, hne⟩ := h.starts
    refine bracketed rfl ((firstItem_eq hhead hne outer).trans (ih [] outer)) ?_
    simp [Reader.step]
  | @object ms ts h ih =>
    intro outer
    obtain ⟨key, us, rfl⟩ := h.starts
    have hmembers : (Token.string key :: us).foldlM Reader.step (.firstKey outer) =
        some (.afterMember (ms.reverse ++ []) outer) := ih [] outer
    refine bracketed rfl hmembers ?_
    simp [Reader.step]
  | @lastItem v ts _ ih =>
    intro done outer
    exact ih (.array done :: outer)
  | @item v vs ts us _ _ ihv ihvs =>
    intro done outer
    simp [ihv (.array done :: outer), Reader.put, Reader.step, ihvs (v :: done) outer]
  | @lastMember key v ts _ ih =>
    intro done outer
    simp [Reader.step, ih (.object done key :: outer), Reader.put]
  | @member key v ms ts us _ _ ihv ihms =>
    intro done outer
    simp [Reader.step, ihv (.object done key :: outer), Reader.put, ihms ((key, v) :: done) outer]

end Phrase.Written

/-- **Bytes that write a value are read as that value.** -/
theorem parse?_of_written {v : Value} {bytes : List UInt8} (h : v.Written bytes) :
    Value.parse? bytes = some v := by
  obtain ⟨ts, hv, hspells⟩ := h
  rw [Value.parse?, lex_of_spells hspells (separated_of_written hv), Option.bind_some,
    Value.ofTokens?, hv.reads []]
  rfl

end SnapshotFeed.Json
