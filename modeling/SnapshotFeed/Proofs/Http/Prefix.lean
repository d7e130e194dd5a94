import SnapshotFeed.Proofs.Http.Protocol
import SnapshotFeed.Proofs.Http.RoundTrip
import SnapshotFeed.Proofs.Json.Prefix

/-! A body that is cut short.

Whoever writes the body may stop at any byte, and the line it stopped in is read all the same. No
beginning of a frame is a frame (`Frame.decode?_eq_none_of_prefix`), so that line is worth what it
would have been worth in full, or nothing if only white space of it came, or the error of a
malformed frame. `messages_of_prefix` says so of the whole session. -/
namespace SnapshotFeed

/-! ### Frames -/

theorem Frame.exists_object_of_decode? {text : List UInt8} {f : Frame} (h : decode? text = some f) :
    ∃ ms, Json.Value.parse? text = some (.object ms) := by
  obtain ⟨v, hv, hf⟩ := Option.bind_eq_some_iff.mp h
  cases v with
  | object ms => exact ⟨ms, hv⟩
  | _ => cases hf

/-- **No beginning of a frame is a frame.** Without the white space around it a frame ends with what
is no blank, and a text that is a frame goes on with blanks only. -/
theorem Frame.decode?_eq_none_of_prefix {line part more : List UInt8} {f : Frame}
    (htrimmed : nonBlank? line = some (part ++ more)) (hmore : more ≠ [])
    (h : decode? (part ++ more) = some f) : decode? part = none := by
  cases hpart : decode? part with
  | none => rfl
  | some g =>
    obtain ⟨ms, hobject⟩ := exists_object_of_decode? hpart
    obtain ⟨v, hv, -⟩ := Option.bind_eq_some_iff.mp h
    have hblank := Json.allBlank_of_object hobject hv _ (List.getLast_mem hmore)
    obtain ⟨htrim, -⟩ := nonBlank?_eq_some.mp htrimmed
    have hmem : more.getLast hmore ∈ (trimLine line).getLast? := by
      rw [htrim, List.getLast?_append, List.getLast?_eq_some_getLast hmore]
      rfl
    have hlast := getLast?_trimLine line _ hmem
    rw [Http.isLineBlank_of_isBlank hblank] at hlast
    cases hlast

/-! ### Lines -/

theorem Message.ofLines_singleton {line text : List UInt8} (h : nonBlank? line = some text) :
    ofLines [line] = [ofLine text] := by
  simp [ofLines, h]

/-- What the beginning of a line is worth, if the line is a result or blank. -/
theorem Message.ofLines_of_append {line more : List UInt8}
    (h : (ofLines [line ++ more]).any isTerminal = false) :
    ofLines [line] = [] ∨ ofLines [line] = ofLines [line ++ more] ∨
      ofLines [line] = [.error .malformedFrame] := by
  cases hline : nonBlank? line with
  | none => exact .inl (by simp [ofLines, hline])
  | some text =>
    refine .inr ?_
    obtain ⟨tail, htail⟩ := exists_nonBlank?_append hline more
    rw [ofLines_singleton htail] at h
    rw [ofLines_singleton hline, ofLines_singleton htail]
    by_cases hnil : tail = []
    · exact .inl (by rw [hnil, List.append_nil])
    · refine .inr ?_
      simp only [List.any_cons, List.any_nil, Bool.or_false] at h
      obtain ⟨r, hr⟩ := isTerminal_ofLine_eq_false_iff.mp h
      rw [ofLine, Frame.decode?_eq_none_of_prefix htail hnil hr]

namespace Http

/-! ### Bodies -/

/-- The lines of a body go on where those of its beginning stop. -/
theorem exists_lines_of_prefix (part more : List UInt8) : ∃ tail lines,
    (cut [] (part ++ more)).lines =
      (cut [] part).finished ++ ((cut [] part).rest ++ tail) :: lines := by
  obtain ⟨tail, lines, hlines⟩ := exists_prefix_cut (cut [] part).rest more
  exact ⟨tail, lines, by rw [lines_cut_append, hlines]⟩

/-- A session that is completed sends the results of its lines. -/
theorem fits_and_ofLines_of_complete {limit : Nat} {chunks : List (List UInt8)} {rs : List Response}
    (h : Session.stream patient .closes 0 (.new limit) chunks = rs.map .response ++ [.complete]) :
    (cut [] chunks.flatten).Fits limit ∧
      Message.ofLines (cut [] chunks.flatten).lines = rs.map .response := by
  have hcomplete : .complete ∈ Session.stream patient .closes 0 (.new limit) chunks := by
    rw [h]
    exact List.mem_append_right _ List.mem_cons_self
  obtain ⟨-, hfits, hquiet⟩ := (Session.complete_mem_stream_iff _ _ _).mp hcomplete
  rw [Session.stream_eq_of_fits hfits, Message.upToTerminal_append,
    Message.followedBy_of_any_eq_false hquiet] at h
  exact ⟨hfits, (List.append_inj' h rfl).1⟩

/-- The lines of a beginning are worth the first of the responses; the one it stops in may be worth
an error. -/
theorem ofLines_of_prefix {part more : List UInt8} {rs : List Response}
    (h : Message.ofLines (cut [] (part ++ more)).lines = rs.map .response) :
    ∃ kept : List Response, kept <+: rs ∧
      Message.ofLines (cut [] part).finished <+: kept.map .response ∧
        (Message.ofLines (cut [] part).lines = kept.map .response ∨
          Message.ofLines (cut [] part).lines = kept.map .response ++ [.error .malformedFrame]) := by
  obtain ⟨tail, lines, hlines⟩ := exists_lines_of_prefix part more
  have hsplit := Message.ofLines_append [(cut [] part).rest ++ tail] lines
  rw [List.singleton_append] at hsplit
  rw [hlines, Message.ofLines_append, hsplit, eq_comm, List.map_eq_append_iff] at h
  obtain ⟨first, others, rfl, hfirst, hothers⟩ := h
  obtain ⟨there, later, rfl, hthere, -⟩ := List.map_eq_append_iff.mp hothers
  have hquiet : (Message.ofLines [(cut [] part).rest ++ tail]).any Message.isTerminal = false := by
    rw [← hthere]
    simp
  rw [Cut.lines, Message.ofLines_append, ← hfirst]
  rcases Message.ofLines_of_append hquiet with hnone | hfull | herror
  · exact ⟨first, List.prefix_append _ _, List.prefix_rfl, .inl (by rw [hnone, List.append_nil])⟩
  · refine ⟨first ++ there, ?_, ?_, .inl ?_⟩
    · rw [← List.append_assoc]
      exact List.prefix_append _ _
    · rw [List.map_append]
      exact List.prefix_append _ _
    · rw [hfull, ← hthere, List.map_append]
  · exact ⟨first, List.prefix_append _ _, List.prefix_rfl, .inr (by rw [herror])⟩

/-- **A body that is cut short is worth no response that it would not have been worth in full.** If
a session is completed, one whose body stops before, at any byte and in whatever chunks, sends the
first of the same responses, those of the lines it finished among them, and then the completion or
the error of a malformed frame. For no beginning of a frame is a frame. -/
theorem messages_of_prefix {status : Nat} (hsuccess : 200 ≤ status ∧ status ≤ 299) {limit : Nat}
    {chunks : List (List UInt8)} {rs : List Response}
    (h : Session.messages patient limit (.answered ⟨status, chunks, .closes⟩) =
      rs.map .response ++ [.complete]) :
    (∀ parts : List (List UInt8), parts.flatten <+: chunks.flatten → ∃ kept : List Response,
      kept <+: rs ∧ Message.ofLines (cut [] parts.flatten).finished <+: kept.map .response ∧
        (Session.messages patient limit (.answered ⟨status, parts, .closes⟩) =
            kept.map .response ++ [.complete] ∨
          Session.messages patient limit (.answered ⟨status, parts, .closes⟩) =
            kept.map .response ++ [.error .malformedFrame])) ∧
    ∀ (line part more : List UInt8) (f : Frame), nonBlank? line = some (part ++ more) →
      more ≠ [] → Frame.decode? (part ++ more) = some f → Frame.decode? part = none := by
  refine ⟨?_, fun _ _ _ _ => Frame.decode?_eq_none_of_prefix⟩
  rw [Session.messages_of_success hsuccess] at h
  obtain ⟨hfits, hlines⟩ := fits_and_ofLines_of_complete h
  rintro parts ⟨more, hmore⟩
  rw [← hmore] at hfits hlines
  rw [Session.messages_of_success hsuccess,
    Session.stream_eq_of_fits (fits_cut_append.mp hfits).1]
  obtain ⟨kept, hkept, hfinished, hpart⟩ := ofLines_of_prefix hlines
  refine ⟨kept, hkept, hfinished, ?_⟩
  rcases hpart with hpart | hpart
  · left
    rw [hpart, upToTerminal_responses]
    rfl
  · right
    rw [hpart, List.append_assoc, upToTerminal_responses]
    rfl

/-- Two frames, cut within the second. -/
theorem messages_of_cut_frame :
    let body := blankFrame ++ newline :: blankFrame
    Session.messages patient 13 (.answered ⟨200, [body], .closes⟩) =
        [.response .blank, .response .blank, .complete] ∧
      (∃ kept, kept <+: [Response.blank, .blank] ∧
        [.response .blank] <+: kept.map Message.response ∧
          (Session.messages patient 13 (.answered ⟨200, [body.take 17, body.extract 17 20],
                .closes⟩) = kept.map .response ++ [.complete] ∨
            Session.messages patient 13 (.answered ⟨200, [body.take 17, body.extract 17 20],
                .closes⟩) = kept.map .response ++ [.error .malformedFrame])) ∧
      Frame.decode? (blankFrame.take 6) = none := by
  intro body
  have hsuccess : 200 ≤ 200 ∧ 200 ≤ 299 := by decide
  have hbody : Session.messages patient 13 (.answered ⟨200, [body], .closes⟩) =
      [Response.blank, .blank].map .response ++ [.complete] := by decide
  have hframe : Frame.decode? (blankFrame.take 6 ++ blankFrame.drop 6) = some (.result .blank) := by
    decide
  obtain ⟨hparts, hprefix⟩ := messages_of_prefix hsuccess hbody
  refine ⟨hbody, hparts [body.take 17, body.extract 17 20] ⟨body.drop 20, by decide⟩, ?_⟩
  exact hprefix blankFrame _ _ _ (by decide) (by decide) hframe

end Http

end SnapshotFeed
