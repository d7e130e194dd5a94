import SnapshotFeed.Proofs.Http.Stream

/-! What the chunks of a body make of its messages.

`reference` says what a body is worth, with no chunk in sight. A chunk swallows lines if it finishes
some and takes a later one over the limit: the error comes out and the lines do not.
`messages_eq_reference_iff`: that is the one way in which chunks make a difference. -/
namespace SnapshotFeed

/-- The message of a line of the body, blank or too long as it may be. -/
def Message.ofBodyLine? (limit : Nat) (line : List UInt8) : Option Message :=
  if limit < line.length then some (.error (.frameTooLarge limit))
  else (nonBlank? line).map Message.ofLine

/-- The lines before the first one over the limit. -/
def Cut.short (limit : Nat) (c : Cut) : List (List UInt8) := c.lines.takeWhile (·.length ≤ limit)

theorem Cut.length_le_of_mem_short {limit : Nat} {c : Cut} {line : List UInt8}
    (h : line ∈ c.short limit) : line.length ≤ limit := by
  have hall := List.all_takeWhile (p := (·.length ≤ limit)) (l := c.lines)
  simpa using List.all_eq_true.mp hall line h

namespace Http

/-- What a body is worth: the messages of its lines, then the completion, up to the first that is
terminal. -/
def reference (limit : Nat) (body : List UInt8) : List Message :=
  Message.upToTerminal ((cut [] body).lines.filterMap (Message.ofBodyLine? limit) ++ [.complete])

/-- After the chunks `before`, all of them within the limit and nothing terminal among their lines,
`chunk` takes a line over the limit and finishes one before it that is not blank. -/
structure Swallows (limit : Nat) (before : List (List UInt8)) (chunk : List UInt8) : Prop where
  fits : (cut [] before.flatten).Fits limit
  quiet : (Message.ofLines (cut [] before.flatten).finished).any Message.isTerminal = false
  exceeds : ¬(cut (cut [] before.flatten).rest chunk).Fits limit
  loses : ∃ line ∈ (cut (cut [] before.flatten).rest chunk).short limit, nonBlank? line ≠ none

/-! ### The first line that is too long -/

theorem filterMap_ofBodyLine?_of_forall_le {limit : Nat} {lines : List (List UInt8)}
    (h : ∀ line ∈ lines, line.length ≤ limit) :
    lines.filterMap (Message.ofBodyLine? limit) = Message.ofLines lines := by
  induction lines with
  | nil => rfl
  | cons line lines ih =>
    obtain ⟨hline, hlines⟩ := List.forall_mem_cons.mp h
    have hmessage : Message.ofBodyLine? limit line = (nonBlank? line).map Message.ofLine := by
      rw [Message.ofBodyLine?, if_neg (Nat.not_lt.mpr hline)]
    have hsplit := Message.ofLines_append [line] lines
    rw [List.singleton_append] at hsplit
    rw [hsplit, ← ih hlines]
    cases hblank : nonBlank? line <;> simp [hmessage, hblank, Message.ofLines]

theorem exists_first_long_line {limit : Nat} {lines : List (List UInt8)}
    (h : ¬∀ line ∈ lines, line.length ≤ limit) :
    ∃ short long more, lines = short ++ long :: more ∧ (∀ line ∈ short, line.length ≤ limit) ∧
      limit < long.length := by
  induction lines with
  | nil => exact absurd (fun line hline => nomatch hline) h
  | cons line lines ih =>
    by_cases hline : line.length ≤ limit
    · have hlines : ¬∀ l ∈ lines, l.length ≤ limit :=
        fun hall => h (List.forall_mem_cons.mpr ⟨hline, hall⟩)
      obtain ⟨short, long, more, rfl, hshort, hlong⟩ := ih hlines
      exact ⟨line :: short, long, more, rfl, List.forall_mem_cons.mpr ⟨hline, hshort⟩, hlong⟩
    · exact ⟨[], line, lines, rfl, fun _ h => (nomatch h), Nat.not_le.mp hline⟩

/-- The first chunk that takes a line over the limit. -/
theorem exists_first_long_chunk {limit : Nat} {line : List UInt8} {chunks : List (List UInt8)}
    (hline : line.length ≤ limit) (h : ¬(cut line chunks.flatten).Fits limit) :
    ∃ before chunk after, chunks = before ++ chunk :: after ∧
      (cut line before.flatten).Fits limit ∧
      ¬(cut (cut line before.flatten).rest chunk).Fits limit := by
  induction chunks generalizing line with
  | nil => exact absurd (fits_cut_nil hline) h
  | cons chunk chunks ih =>
    by_cases hchunk : (cut line chunk).Fits limit
    · have hchunks : ¬(cut (cut line chunk).rest chunks.flatten).Fits limit :=
        fun hfits => h (fits_cut_append.mpr ⟨hchunk, hfits⟩)
      obtain ⟨before, long, after, rfl, hbefore, hlong⟩ :=
        ih (Cut.fits_iff.mp hchunk).2 hchunks
      refine ⟨chunk :: before, long, after, rfl, ?_, ?_⟩
      · rw [List.flatten_cons]
        exact fits_cut_append.mpr ⟨hchunk, hbefore⟩
      · rw [List.flatten_cons, cut_append]
        exact hlong
    · exact ⟨[], chunk, chunks, rfl, fits_cut_nil hline, hchunk⟩

theorem lines_cut_append (line a b : List UInt8) :
    (cut line (a ++ b)).lines = (cut line a).finished ++ (cut (cut line a).rest b).lines := by
  rw [cut_append, Cut.lines, Cut.lines, List.append_assoc]

/-- The lines of a chunk up to its first long one are lines of the body, and then a long one
follows. -/
theorem lines_of_not_fits {limit : Nat} {line chunk : List UInt8}
    (h : ¬(cut line chunk).Fits limit) (after : List UInt8) :
    ∃ long more, limit < long.length ∧ (cut line (chunk ++ after)).lines =
      (cut line chunk).short limit ++ long :: more := by
  rw [lines_cut_append]
  by_cases hfinished : ∀ l ∈ (cut line chunk).finished, l.length ≤ limit
  · -- The line left open is too long, and what comes after only makes it longer.
    have hrest : limit < (cut line chunk).rest.length :=
      Nat.not_le.mp fun hle => h (Cut.fits_iff.mpr ⟨hfinished, hle⟩)
    obtain ⟨tail, lines, hafter⟩ := exists_prefix_cut (cut line chunk).rest after
    refine ⟨(cut line chunk).rest ++ tail, lines, ?_, ?_⟩
    · rw [List.length_append]
      omega
    · rw [hafter, Cut.short, Cut.lines, List.takeWhile_append_of_pos (by simpa using hfinished)]
      simp [Nat.not_le.mpr hrest]
  · obtain ⟨short, long, more, hlines, hshort, hlong⟩ := exists_first_long_line hfinished
    have htake : (cut line chunk).short limit = short := by
      rw [Cut.short, Cut.lines, hlines, List.append_assoc,
        List.takeWhile_append_of_pos (by simpa using hshort)]
      simp [Nat.not_le.mpr hlong]
    refine ⟨long, more ++ (cut (cut line chunk).rest after).lines, hlong, ?_⟩
    rw [htake, hlines, List.append_assoc, List.cons_append]

/-! ### With a chunk that exceeds the limit -/

/-- What is sent if `chunk` is the first to take a line over the limit. -/
theorem stream_eq_of_first {limit : Nat} {before : List (List UInt8)} {chunk : List UInt8}
    (hfits : (cut [] before.flatten).Fits limit)
    (hlong : ¬(cut (cut [] before.flatten).rest chunk).Fits limit) (ending : BodyEnd)
    (after : List (List UInt8)) :
    Session.stream patient ending 0 (.new limit) (before ++ chunk :: after) =
      Message.followedBy (Message.ofLines (cut [] before.flatten).finished)
        [.error (.frameTooLarge limit)] := by
  obtain ⟨sent, hstream⟩ := Session.stream_append hfits ending 0 (chunk :: after)
  rw [← LineDecoder.holding_nil, hstream, Session.stream_of_not_fits hlong]

/-- What the body is worth then. -/
theorem reference_eq_of_first {limit : Nat} {before : List (List UInt8)} {chunk : List UInt8}
    (hfits : (cut [] before.flatten).Fits limit)
    (hlong : ¬(cut (cut [] before.flatten).rest chunk).Fits limit) (after : List (List UInt8)) :
    reference limit (before ++ chunk :: after).flatten =
      Message.followedBy (Message.ofLines (cut [] before.flatten).finished)
        (Message.followedBy
          (Message.ofLines ((cut (cut [] before.flatten).rest chunk).short limit))
          [.error (.frameTooLarge limit)]) := by
  obtain ⟨long, more, hlt, hlines⟩ := lines_of_not_fits hlong after.flatten
  have herror : Message.ofBodyLine? limit long = some (.error (.frameTooLarge limit)) := by
    rw [Message.ofBodyLine?, if_pos hlt]
  rw [reference, List.flatten_append, List.flatten_cons, lines_cut_append, hlines,
    List.filterMap_append, List.filterMap_append,
    filterMap_ofBodyLine?_of_forall_le (Cut.fits_iff.mp hfits).1,
    filterMap_ofBodyLine?_of_forall_le fun _ => Cut.length_le_of_mem_short,
    List.filterMap_cons_some herror, List.append_assoc, List.append_assoc,
    Message.upToTerminal_append, Message.upToTerminal_append]
  rfl

theorem reference_eq_of_fits {limit : Nat} {body : List UInt8} (h : (cut [] body).Fits limit) :
    reference limit body =
      Message.upToTerminal (Message.ofLines (cut [] body).lines ++ [.complete]) := by
  rw [reference, filterMap_ofBodyLine?_of_forall_le h]

theorem Swallows.stream_eq {limit : Nat} {before : List (List UInt8)} {chunk : List UInt8}
    (h : Swallows limit before chunk) (after : List (List UInt8)) :
    Session.stream patient .closes 0 (.new limit) (before ++ chunk :: after) =
      Message.ofLines (cut [] before.flatten).finished ++ [.error (.frameTooLarge limit)] := by
  rw [stream_eq_of_first h.fits h.exceeds, Message.followedBy_of_any_eq_false h.quiet]

/-- The error stands where the body has a message of a line that was swallowed. -/
theorem Swallows.stream_ne {limit : Nat} {before : List (List UInt8)} {chunk : List UInt8}
    (h : Swallows limit before chunk) (after : List (List UInt8)) :
    Session.stream patient .closes 0 (.new limit) (before ++ chunk :: after) ≠
      reference limit (before ++ chunk :: after).flatten := by
  rw [h.stream_eq, reference_eq_of_first h.fits h.exceeds,
    Message.followedBy_of_any_eq_false h.quiet]
  intro heq
  obtain ⟨line, hline, hblank⟩ := h.loses
  cases hlost : Message.ofLines ((cut (cut [] before.flatten).rest chunk).short limit) with
  | nil => exact hblank (Message.ofLines_eq_nil.mp hlost line hline)
  | cons m ms =>
    obtain ⟨tail, htail⟩ := Message.exists_followedBy_cons m ms [.error (.frameTooLarge limit)]
    rw [hlost, htail] at heq
    have herror : Message.error (.frameTooLarge limit) = m :=
      (List.cons.inj (List.append_cancel_left heq)).1
    obtain ⟨l, -, hm⟩ := List.mem_map.mp (hlost ▸ List.mem_cons_self (a := m) (l := ms))
    exact Message.ofLine_ne_frameTooLarge l limit (hm.trans herror.symm)

/-- The messages of a body are those of its lines, or a chunk swallows some. -/
theorem stream_eq_reference_or_swallows (limit : Nat) (chunks : List (List UInt8)) :
    Session.stream patient .closes 0 (.new limit) chunks = reference limit chunks.flatten ∨
      ∃ before chunk after, chunks = before ++ chunk :: after ∧ Swallows limit before chunk := by
  by_cases hfits : (cut [] chunks.flatten).Fits limit
  · exact .inl (by rw [Session.stream_eq_of_fits hfits, reference_eq_of_fits hfits])
  obtain ⟨before, chunk, after, rfl, hbefore, hlong⟩ :=
    exists_first_long_chunk (Nat.zero_le _) hfits
  by_cases hloses : ∃ line ∈ (cut (cut [] before.flatten).rest chunk).short limit,
      nonBlank? line ≠ none
  · cases hquiet : (Message.ofLines (cut [] before.flatten).finished).any Message.isTerminal with
    | false => exact .inr ⟨before, chunk, after, rfl, hbefore, hquiet, hlong, hloses⟩
    | true =>
      refine .inl ?_
      rw [stream_eq_of_first hbefore hlong, reference_eq_of_first hbefore hlong,
        Message.followedBy_of_any hquiet, Message.followedBy_of_any hquiet]
  · refine .inl ?_
    have hnone : Message.ofLines ((cut (cut [] before.flatten).rest chunk).short limit) = [] :=
      Message.ofLines_eq_nil.mpr fun line hline =>
        Decidable.not_not.mp fun hblank => hloses ⟨line, hline, hblank⟩
    rw [stream_eq_of_first hbefore hlong, reference_eq_of_first hbefore hlong, hnone,
      Message.followedBy_nil]

/-! ### Chunks -/

/-- **Chunks make no difference to what is sent, unless one of them swallows lines.** If one does,
the messages of the lines finished before it are sent, and then the error. -/
theorem messages_eq_reference_iff {status : Nat} (hsuccess : 200 ≤ status ∧ status ≤ 299)
    (limit : Nat) (chunks : List (List UInt8)) :
    (Session.messages patient limit (.answered ⟨status, chunks, .closes⟩) =
        reference limit chunks.flatten ↔
      ¬∃ before chunk after, chunks = before ++ chunk :: after ∧ Swallows limit before chunk) ∧
    ∀ before chunk after, chunks = before ++ chunk :: after → Swallows limit before chunk →
      Session.messages patient limit (.answered ⟨status, chunks, .closes⟩) =
        Message.ofLines (cut [] before.flatten).finished ++ [.error (.frameTooLarge limit)] := by
  rw [Session.messages_of_success hsuccess]
  refine ⟨⟨?_, ?_⟩, ?_⟩
  · rintro heq ⟨before, chunk, after, rfl, hswallows⟩
    exact hswallows.stream_ne after heq
  · exact fun hnone => (stream_eq_reference_or_swallows limit chunks).resolve_right hnone
  · rintro before chunk after rfl hswallows
    exact hswallows.stream_eq after

/-- Thirteen bytes that are the frame of a blank response. -/
def blankFrame : List UInt8 := Json.ascii "\x7b\"result\":\x7b\x7d\x7d"

/-- The second chunk finishes a frame and takes the next line over the limit. -/
theorem messages_of_swallowing_chunk :
    Session.messages patient 13 (.answered ⟨200, [blankFrame ++ [newline],
        blankFrame ++ newline :: Json.ascii "12345678901234"], .closes⟩) =
      [.response .blank, .error (.frameTooLarge 13)] :=
  (messages_eq_reference_iff (by decide) 13 _).2 [blankFrame ++ [newline]] _ [] rfl
    ⟨by decide, by decide, by decide, blankFrame, by decide, by decide⟩

/-- One body in two chunkings, of which one swallows a frame. -/
theorem messages_ne_of_chunks :
    [blankFrame ++ newline :: Json.ascii "12345678901234"].flatten =
        [blankFrame ++ [newline], Json.ascii "12345678901234"].flatten ∧
      Session.messages patient 13 (.answered ⟨200,
        [blankFrame ++ newline :: Json.ascii "12345678901234"], .closes⟩) =
          [.error (.frameTooLarge 13)] ∧
      Session.messages patient 13 (.answered ⟨200,
        [blankFrame ++ [newline], Json.ascii "12345678901234"], .closes⟩) =
          [.response .blank, .error (.frameTooLarge 13)] :=
  ⟨rfl, by decide, by decide⟩

end Http

end SnapshotFeed
