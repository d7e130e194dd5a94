import SnapshotFeed.Proofs.Frame.Meaning
import SnapshotFeed.Proofs.Http.Prefix

/-! A frame is one tagged object.

The text of a frame is an object with a single member, whose key names the kind of the frame, and
there are only blanks around it. `reads_only_tagged`: no other text is read as a frame, and no text
that goes on after a frame; such a line is malformed, whatever of it would have made sense. -/
namespace SnapshotFeed
open Json (Piece Value Says AllBlank ascii pieces text?_eq_some_iff parse?_eq_some_iff
  allBlank_of_object)

namespace Frame

/-- What the only member of an object makes of it as a frame: its key names the kind. -/
inductive Tagged : List Piece → Value → Frame → Prop where
  | result {key : List Piece} {v : Value} {r : Response} : Says key "result" →
    Response.ofValue? v = some r → Tagged key v (.result r)
  | error {key : List Piece} {v : Value} {s : Status} : Says key "error" →
    Status.ofValue? v = some s → Tagged key v (.error s)

/-- The values that are no object with a single member under the name of a kind. -/
inductive Untagged : Value → Prop where
  | null : Untagged .null
  | bool {b : Bool} : Untagged (.bool b)
  | number {n : Json.Number} : Untagged (.number n)
  | string {s : List Piece} : Untagged (.string s)
  | array {items : List Value} : Untagged (.array items)
  | empty : Untagged (.object [])
  | many {m m' : List Piece × Value} {ms : List (List Piece × Value)} :
    Untagged (.object (m :: m' :: ms))
  | otherKey {key : List Piece} {v : Value} : ¬Says key "result" → ¬Says key "error" →
    Untagged (.object [(key, v)])

/-! ### Values -/

theorem tagged_of_ofValue? {v : Value} {f : Frame} (h : ofValue? v = some f) :
    ∃ key w, v = .object [(key, w)] ∧ Tagged key w f := by
  unfold ofValue? at h
  split at h
  · rename_i key w
    refine ⟨key, w, rfl, ?_⟩
    split at h
    · obtain ⟨r, hr, rfl⟩ := Option.map_eq_some_iff.mp h
      exact .result (text?_eq_some_iff.mp ‹_›) hr
    · obtain ⟨s, hs, rfl⟩ := Option.map_eq_some_iff.mp h
      exact .error (text?_eq_some_iff.mp ‹_›) hs
    · cases h
  · cases h

theorem ofValue?_of_untagged {v : Value} (h : Untagged v) : ofValue? v = none := by
  cases hv : ofValue? v with
  | none => rfl
  | some f =>
    obtain ⟨key, w, rfl, htagged⟩ := tagged_of_ofValue? hv
    cases h with
    | otherKey hresult herror =>
      cases htagged with
      | result hkey _ => exact absurd hkey hresult
      | error hkey _ => exact absurd hkey herror

/-- **Only one tagged object is a frame.** What is read as a frame is an object with a single
member under the name of its kind, with blanks around it. So a line that holds anything else is
malformed, and so is a frame that goes on with anything but blanks. -/
theorem reads_only_tagged :
    (∀ bytes f, decode? bytes = some f → ∃ before inside after key v,
      bytes = before ++ 0x7B :: (inside ++ [0x7D]) ++ after ∧ AllBlank before ∧ AllBlank after ∧
        Value.Written (.object [(key, v)]) (0x7B :: (inside ++ [0x7D])) ∧ Tagged key v f) ∧
    (∀ v bytes, Untagged v → v.Holds bytes → Message.ofLine bytes = .error .malformedFrame) ∧
    (∀ bytes f more, decode? bytes = some f → ¬AllBlank more →
      Message.ofLine (bytes ++ more) = .error .malformedFrame) := by
  refine ⟨?_, ?_, ?_⟩
  · intro bytes f h
    obtain ⟨v, hv, hf⟩ := Option.bind_eq_some_iff.mp h
    obtain ⟨key, w, rfl, htagged⟩ := tagged_of_ofValue? hf
    obtain ⟨text, after, hwritten, hafter, rfl⟩ := parse?_eq_some_iff.mp hv
    obtain ⟨before, inside, hbefore, rfl, hinside⟩ := hwritten.exists_braces
    exact ⟨before, inside, after, key, w, rfl, hbefore, hafter, hinside, htagged⟩
  · intro v bytes huntagged hholds
    rw [Message.ofLine_eq_malformedFrame_iff, decode?_of_holds hholds,
      ofValue?_of_untagged huntagged]
  · intro bytes f more h hmore
    obtain ⟨ms, hobject⟩ := exists_object_of_decode? h
    rw [Message.ofLine_eq_malformedFrame_iff]
    cases hlonger : decode? (bytes ++ more) with
    | none => rfl
    | some g =>
      obtain ⟨v, hv, -⟩ := Option.bind_eq_some_iff.mp hlonger
      exact absurd (allBlank_of_object hobject hv) hmore

/-- A status between blanks is an error frame; the name of a kind is no frame, and neither is a
status with a comma after it. -/
theorem reads_only_tagged_of_neighbours :
    (∃ key v, Tagged key v (.error ⟨7, ""⟩)) ∧
    Message.ofLine (ascii "\"result\"") = .error .malformedFrame ∧
    Message.ofLine (ascii " \x7b\"error\":[7]\x7d " ++ ascii ",") = .error .malformedFrame := by
  have hframe : decode? (ascii " \x7b\"error\":[7]\x7d ") = some (.error ⟨7, ""⟩) := by decide
  refine ⟨?_, ?_, ?_⟩
  · obtain ⟨-, -, -, key, v, -, -, -, -, htagged⟩ := reads_only_tagged.1 _ _ hframe
    exact ⟨key, v, htagged⟩
  · exact reads_only_tagged.2.1 (.string (pieces "result")) _ .string (parse?_eq_some_iff.mp rfl)
  · exact reads_only_tagged.2.2 _ _ _ hframe (by unfold AllBlank; decide)

end Frame

end SnapshotFeed
