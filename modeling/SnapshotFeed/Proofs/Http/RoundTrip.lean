import SnapshotFeed.Proofs.Frame
import SnapshotFeed.Proofs.Http.Stream

/-! Responses through the wire.

A body is lines, each of which frames a response or is blank (`Body`); how a frame is written is the
writer's choice. `messages_of_body`: whatever the chunks are, what is sent are these responses in
their order, and the completion. -/
namespace SnapshotFeed.Http

/-- A line that frames a response, or none. White space may stand around the frame. -/
inductive Line : Option Response → List UInt8 → Prop where
  | blank {line : List UInt8} : AllLineBlank line → Line none line
  | frame {r : Response} {v : Json.Value} {before text after : List UInt8} : AllLineBlank before →
    AllLineBlank after → r.Framed v → v.Written text → Line (some r) (before ++ text ++ after)

/-- Lines within the limit, each ended by a newline but for the last. -/
inductive Body (limit : Nat) : List Response → List UInt8 → Prop where
  | last {found : Option Response} {line : List UInt8} : Line found line → newline ∉ line →
    line.length ≤ limit → Body limit found.toList line
  | line {found : Option Response} {rs : List Response} {line rest : List UInt8} : Line found line →
    newline ∉ line → line.length ≤ limit → Body limit rs rest →
    Body limit (found.toList ++ rs) (line ++ newline :: rest)

/-! ### Lines -/

theorem isLineBlank_of_isBlank {b : UInt8} (h : Json.isBlank b = true) : isLineBlank b = true := by
  simp only [Json.isBlank, Bool.or_eq_true, beq_iff_eq] at h
  rcases h with ((rfl | rfl) | rfl) | rfl <;> rfl

/-- A trimmed line is the frame alone, braces first and last. -/
theorem exists_nonBlank?_of_line {r : Response} {line : List UInt8} (h : Line (some r) line) :
    ∃ text, nonBlank? line = some text ∧ Message.ofLine text = .response r := by
  cases h with
  | @frame _ v before text after hbefore hafter hframed hwritten =>
    cases hframed with
    | @result key _ v hkey hr =>
      obtain ⟨blanks, inside, hblanks, rfl, hinside⟩ := hwritten.exists_braces
      refine ⟨0x7B :: (inside ++ [0x7D]), ?_, Message.ofLine_of_framed (.result hkey hr) hinside⟩
      have hbefore' : AllLineBlank (before ++ blanks) := by
        intro b hb
        rcases List.mem_append.mp hb with hb | hb
        · exact hbefore b hb
        · exact isLineBlank_of_isBlank (hblanks b hb)
      have htrim : trimLine (before ++ blanks ++ 0x7B :: (inside ++ 0x7D :: after)) =
          0x7B :: (inside ++ [0x7D]) := trimLine_eq hbefore' hafter rfl rfl
      simp only [List.append_assoc, List.cons_append, List.nil_append] at htrim ⊢
      rw [nonBlank?, htrim]

theorem ofLines_of_line {found : Option Response} {line : List UInt8} (h : Line found line) :
    Message.ofLines [line] = found.toList.map .response := by
  cases found with
  | none =>
    cases h with
    | blank h => simp [Message.ofLines, nonBlank?_of_allLineBlank h]
  | some r =>
    obtain ⟨text, htext, hmessage⟩ := exists_nonBlank?_of_line h
    simp [Message.ofLines, htext, hmessage]

/-! ### Bodies -/

theorem fits_and_ofLines_of_body {limit : Nat} {rs : List Response} {body : List UInt8}
    (h : Body limit rs body) :
    (cut [] body).Fits limit ∧ Message.ofLines (cut [] body).lines = rs.map .response := by
  induction h with
  | last hline hnewline hlength =>
    rw [cut_of_notMem hnewline]
    exact ⟨Cut.fits_iff.mpr ⟨fun _ h => (nomatch h), hlength⟩, ofLines_of_line hline⟩
  | @line found rs line rest hline hnewline hlength _ ih =>
    obtain ⟨hfits, hmessages⟩ := ih
    obtain ⟨hfinished, hrest⟩ := Cut.fits_iff.mp hfits
    rw [cut_line hnewline]
    refine ⟨Cut.fits_iff.mpr ⟨List.forall_mem_cons.mpr ⟨hlength, hfinished⟩, hrest⟩, ?_⟩
    have hsplit := Message.ofLines_append [line] (cut [] rest).lines
    rw [hmessages, ofLines_of_line hline, ← List.map_append] at hsplit
    exact hsplit

theorem upToTerminal_responses (rs : List Response) (rest : List Message) :
    Message.upToTerminal (rs.map .response ++ rest) =
      rs.map .response ++ Message.upToTerminal rest := by
  rw [Message.upToTerminal_append, Message.followedBy_of_any_eq_false (by simp)]

/-! ### A way to write any responses -/

theorem line_encode (r : Response) : Line (some r) r.encode := by
  have hline := Line.frame allLineBlank_nil allLineBlank_nil r.framed_encoded r.written_encode
  rwa [List.nil_append, List.append_nil] at hline

/-- Responses in lines are a body, if the limit is not too low. -/
theorem body_of_encode {limit : Nat} {rs : List Response}
    (h : ∀ r ∈ rs, r.encode.length ≤ limit) :
    Body limit rs (rs.flatMap fun r => r.encode ++ [newline]) := by
  induction rs with
  | nil => exact .last (.blank allLineBlank_nil) (by simp) (Nat.zero_le _)
  | cons r rs ih =>
    obtain ⟨hr, hrs⟩ := List.forall_mem_cons.mp h
    have hbody := Body.line (line_encode r) r.newline_notMem_encode hr (ih hrs)
    rw [List.flatMap_cons, List.append_assoc]
    exact hbody

/-! ### The round trip -/

/-- **Responses come through the wire as they were written**, whatever the chunks, and then the
completion. -/
theorem messages_of_body {status limit : Nat} (hsuccess : 200 ≤ status ∧ status ≤ 299)
    {rs : List Response} {chunks : List (List UInt8)} (h : Body limit rs chunks.flatten) :
    Session.messages patient limit (.answered ⟨status, chunks, .closes⟩) =
      rs.map .response ++ [.complete] := by
  obtain ⟨hfits, hmessages⟩ := fits_and_ofLines_of_body h
  rw [Session.messages_of_success hsuccess, Session.stream_eq_of_fits hfits, hmessages,
    upToTerminal_responses]
  rfl

/-- Two responses in three chunks, one of them empty; the first ends inside an escape. -/
theorem messages_of_two_responses :
    let body := [⟨"é", .all⟩, ⟨"", .unrecognized⟩].flatMap fun r => Response.encode r ++ [newline]
    Session.messages patient 100 (.answered ⟨200, [body.take 34, [], body.drop 34], .closes⟩) =
      [.response ⟨"é", .all⟩, .response ⟨"", .unrecognized⟩, .complete] := by
  intro body
  have hflatten : [body.take 34, [], body.drop 34].flatten = body := by simp
  have hbody : Body 100 [⟨"é", .all⟩, ⟨"", .unrecognized⟩]
      [body.take 34, [], body.drop 34].flatten := by
    rw [hflatten]
    exact body_of_encode (by decide)
  have hsuccess : 200 ≤ 200 ∧ 200 ≤ 299 := by decide
  exact messages_of_body hsuccess hbody

end SnapshotFeed.Http
