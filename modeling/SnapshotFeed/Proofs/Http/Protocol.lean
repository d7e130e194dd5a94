import SnapshotFeed.Proofs.Http.Segmentation

/-! How a session ends.

`Utters` are the messages a session may send, whenever the worker leaves: responses that are taken,
and at the end a terminal message or a response that is not taken. `messages_protocol`: every session
keeps to that; one that is heard to its end sends one terminal message, which is the completion
exactly if nothing was wrong with the exchange (`Exchange.Sound`). -/
namespace SnapshotFeed

/-! ### What a line is worth -/

namespace Message

/-- A line that is not terminal is a result. -/
theorem isTerminal_ofLine_eq_false_iff {line : List UInt8} :
    (ofLine line).isTerminal = false ↔ ∃ r, Frame.decode? line = some (.result r) := by
  unfold ofLine
  cases Frame.decode? line with
  | none => simp
  | some frame => cases frame <;> simp

theorem any_isTerminal_ofLines_eq_false_iff {lines : List (List UInt8)} :
    (ofLines lines).any isTerminal = false ↔ ∀ line ∈ lines, ∀ text, nonBlank? line = some text →
      ∃ r, Frame.decode? text = some (.result r) := by
  simp only [ofLines, List.any_map, List.any_eq_false, List.mem_filterMap, Function.comp,
    Bool.not_eq_true, isTerminal_ofLine_eq_false_iff]
  constructor
  · intro h line hline text htext
    exact h text ⟨line, hline, htext⟩
  · rintro h text ⟨line, hline, htext⟩
    exact h line hline text htext

theorem complete_notMem_ofLines (lines : List (List UInt8)) : complete ∉ ofLines lines := by
  intro h
  obtain ⟨line, -, hline⟩ := List.mem_map.mp h
  unfold ofLine at hline
  split at hline <;> cases hline

/-- The completion is heard after lines if none of them is terminal. -/
theorem complete_mem_followedBy_iff (lines : List (List UInt8)) :
    complete ∈ followedBy (ofLines lines) [complete] ↔ (ofLines lines).any isTerminal = false := by
  cases hany : (ofLines lines).any isTerminal with
  | false => simp [followedBy_of_any_eq_false hany]
  | true =>
    rw [followedBy_of_any hany]
    simp only [Bool.true_eq_false, iff_false]
    exact fun hmem => complete_notMem_ofLines lines (mem_of_mem_upToTerminal hmem)

end Message

namespace Http

/-! ### What a session may send -/

/-- What may be sent after `sent` messages: responses that are taken, and at the end a terminal
message, a response that is not taken, or nothing yet. -/
inductive Utters (accepts : Nat → Bool) : Nat → List Message → Prop where
  | nothing {sent : Nat} : Utters accepts sent []
  | terminal {sent : Nat} {m : Message} : m.isTerminal = true → Utters accepts sent [m]
  | declined {sent : Nat} {r : Response} : accepts sent = false → Utters accepts sent [.response r]
  | taken {sent : Nat} {r : Response} {ms : List Message} : accepts sent = true →
    Utters accepts (sent + 1) ms → Utters accepts sent (.response r :: ms)

namespace Utters
variable {accepts : Nat → Bool} {sent : Nat} {ms : List Message}

/-- Responses, and a terminal message at the end or none. -/
theorem exists_responses (h : Utters accepts sent ms) : ∃ rs : List Response,
    ms = rs.map .response ∨ ∃ m, m.isTerminal = true ∧ ms = rs.map .response ++ [m] := by
  induction h with
  | nothing => exact ⟨[], .inl rfl⟩
  | @terminal _ m hm => exact ⟨[], .inr ⟨m, hm, rfl⟩⟩
  | @declined _ r _ => exact ⟨[r], .inl rfl⟩
  | @taken _ r _ _ _ ih =>
    obtain ⟨rs, rfl | ⟨m, hm, rfl⟩⟩ := ih
    · exact ⟨r :: rs, .inl rfl⟩
    · exact ⟨r :: rs, .inr ⟨m, hm, rfl⟩⟩

/-- A response that is not taken is the last message. -/
theorem length_of_declined (h : Utters accepts sent ms) {n : Nat} {r : Response}
    (hr : ms[n]? = some (.response r)) (hdeclined : accepts (sent + n) = false) :
    ms.length = n + 1 := by
  induction h generalizing n with
  | nothing => cases hr
  | terminal hm =>
    cases n with
    | zero =>
      obtain rfl := Option.some.inj hr
      cases hm
    | succ n => cases hr
  | declined _ =>
    cases n with
    | zero => rfl
    | succ n => cases hr
  | taken haccepts _ ih =>
    cases n with
    | zero =>
      rw [Nat.add_zero, haccepts] at hdeclined
      cases hdeclined
    | succ n =>
      rw [List.length_cons, ih hr (by rwa [Nat.add_right_comm])]

end Utters

/-! ### What a session sends -/

namespace Session
variable {accepts : Nat → Bool} {rest : Nat → List Message}

/-- Lines, and what comes after them if the session goes on. -/
theorem utters_forward (hrest : ∀ n, Utters accepts n (rest n)) (sent : Nat)
    (lines : List (List UInt8)) :
    Utters accepts sent (match forward accepts sent lines with
      | (ms, goesOn) => if goesOn then ms ++ rest (sent + ms.length) else ms) := by
  induction lines generalizing sent with
  | nil => exact hrest sent
  | cons line lines ih =>
    rw [forward]
    cases hm : Message.ofLine line with
    | response r =>
      cases haccepts : accepts sent with
      | false => exact .declined haccepts
      | true =>
        have hutters := ih (sent + 1)
        simp only [Message.isTerminal_response, Bool.not_true, Bool.or_self, Bool.false_eq_true,
          if_false]
        generalize forward accepts (sent + 1) lines = forwarded at hutters ⊢
        obtain ⟨ms, goesOn⟩ := forwarded
        cases goesOn with
        | false => exact .taken haccepts hutters
        | true =>
          have hlength : sent + (Message.response r :: ms).length = sent + 1 + ms.length := by
            rw [List.length_cons, Nat.add_right_comm, Nat.add_assoc]
          simp only [if_true, hlength] at hutters ⊢
          exact .taken haccepts hutters
    | _ => exact .terminal rfl

theorem utters_conclude (sent : Nat) (d : LineDecoder) (ending : BodyEnd) :
    Utters accepts sent (conclude accepts sent d ending) := by
  cases ending with
  | closes => exact utters_forward (fun _ => .terminal rfl) sent d.finish.1.toList
  | breaks => exact .terminal rfl
  | stays => exact .nothing

theorem utters_stream (ending : BodyEnd) (sent : Nat) (d : LineDecoder)
    (chunks : List (List UInt8)) : Utters accepts sent (stream accepts ending sent d chunks) := by
  induction chunks generalizing sent d with
  | nil => exact utters_conclude sent d ending
  | cons chunk chunks ih =>
    rw [stream]
    split
    · exact .terminal rfl
    · exact utters_forward (fun n => ih n _) sent _

theorem utters_messages (limit : Nat) (e : Exchange) :
    Utters accepts 0 (messages accepts limit e) := by
  cases e with
  | failed cause => exact .terminal rfl
  | unanswered => exact .nothing
  | answered reply =>
    rw [messages]
    split
    · exact utters_stream _ _ _ _
    · exact .terminal rfl

end Session

/-! ### Sessions that are heard to their end -/

/-- The request comes to something, and so does the body if it is read. -/
def Exchange.Ends : Exchange → Prop
  | failed _ => True
  | answered reply => reply.isSuccess = true → reply.ending ≠ .stays
  | unanswered => False

/-- Nothing is wrong: the status is a success, the body closes, no line of it is over the limit, and
every line that is not blank is a result. The last line may be without a newline. -/
inductive Exchange.Sound (limit : Nat) : Exchange → Prop where
  | mk {reply : Reply} : 200 ≤ reply.status → reply.status ≤ 299 → reply.ending = .closes →
    (cut [] reply.chunks.flatten).Fits limit →
    (∀ line ∈ (cut [] reply.chunks.flatten).lines, ∀ text, nonBlank? line = some text →
      ∃ r, Frame.decode? text = some (.result r)) →
    Exchange.Sound limit (.answered reply)

namespace Session

/-- A body that ends ends the session with a terminal message. -/
theorem any_isTerminal_stream {ending : BodyEnd} (hending : ending ≠ .stays) (sent : Nat)
    (d : LineDecoder) (chunks : List (List UInt8)) :
    (stream patient ending sent d chunks).any Message.isTerminal = true := by
  induction chunks generalizing sent d with
  | nil =>
    cases ending with
    | closes =>
      have hconclude : stream patient .closes sent d [] =
          Message.followedBy (d.finish.1.toList.map Message.ofLine) [.complete] :=
        forward_then sent _ fun _ => [.complete]
      rw [hconclude, Message.any_isTerminal_followedBy, Bool.or_eq_true]
      exact .inr rfl
    | breaks => rfl
    | stays => exact absurd rfl hending
  | cons chunk chunks ih =>
    rw [stream]
    split
    · rfl
    · rename_i lines d' _
      have hforward := forward_then sent lines fun n => stream patient ending (sent + n) d' chunks
      refine (congrArg (List.any · Message.isTerminal) hforward).trans ?_
      rw [Message.any_isTerminal_followedBy, ih, Bool.or_true]

/-- A body is completed if it closes, no line is over the limit, and none is terminal. -/
theorem complete_mem_stream_iff (ending : BodyEnd) (limit : Nat) (chunks : List (List UInt8)) :
    .complete ∈ stream patient ending 0 (.new limit) chunks ↔
      ending = .closes ∧ (cut [] chunks.flatten).Fits limit ∧
        (Message.ofLines (cut [] chunks.flatten).lines).any Message.isTerminal = false := by
  have hlines := Message.complete_notMem_ofLines
  by_cases hfits : (cut [] chunks.flatten).Fits limit
  · cases ending with
    | closes =>
      rw [stream_eq_of_fits hfits, Message.upToTerminal_append]
      simp only [hfits, true_and]
      exact Message.complete_mem_followedBy_iff _
    | breaks | stays =>
      obtain ⟨sent, hstream⟩ := stream_append hfits _ 0 []
      rw [List.append_nil] at hstream
      simp only [reduceCtorEq, false_and, iff_false]
      intro hmem
      rw [← LineDecoder.holding_nil, hstream] at hmem
      rcases Message.mem_or_mem_of_mem_followedBy hmem with hmem | hmem
      · exact hlines _ hmem
      · simp [stream, conclude] at hmem
  · simp only [hfits, false_and, and_false, iff_false]
    obtain ⟨before, chunk, after, rfl, hbefore, hlong⟩ :=
      exists_first_long_chunk (Nat.zero_le _) hfits
    rw [stream_eq_of_first hbefore hlong]
    intro hmem
    rcases Message.mem_or_mem_of_mem_followedBy hmem with hmem | hmem
    · exact hlines _ hmem
    · simp at hmem

theorem any_isTerminal_messages {e : Exchange} (h : e.Ends) (limit : Nat) :
    (messages patient limit e).any Message.isTerminal = true := by
  cases e with
  | failed cause => rfl
  | unanswered => exact h.elim
  | answered reply =>
    rw [messages]
    split
    · rename_i hsuccess
      exact any_isTerminal_stream (h hsuccess) _ _ _
    · rfl

theorem complete_mem_messages_iff (limit : Nat) (e : Exchange) :
    .complete ∈ messages patient limit e ↔ e.Sound limit := by
  cases e with
  | failed cause | unanswered =>
    simp only [messages, List.mem_singleton, List.not_mem_nil, reduceCtorEq, false_iff]
    intro h
    cases h
  | answered reply =>
    have hsuccess : reply.isSuccess = true ↔ 200 ≤ reply.status ∧ reply.status ≤ 299 := by
      simp [Reply.isSuccess]
    rw [messages]
    split
    · rename_i h
      rw [complete_mem_stream_iff, Message.any_isTerminal_ofLines_eq_false_iff]
      constructor
      · rintro ⟨hcloses, hfits, hresults⟩
        exact .mk (hsuccess.mp h).1 (hsuccess.mp h).2 hcloses hfits hresults
      · rintro ⟨_, _, hcloses, hfits, hresults⟩
        exact ⟨hcloses, hfits, hresults⟩
    · rename_i h
      simp only [List.mem_singleton, reduceCtorEq, false_iff]
      rintro ⟨hlow, hhigh, _, _, _⟩
      exact h (hsuccess.mpr ⟨hlow, hhigh⟩)

end Session

/-- **Responses come first, and at most one terminal message after them.** If the worker takes every
message and the exchange ends there is one, and it is the completion exactly if nothing was wrong.
After a response that is not taken nothing is sent. -/
theorem messages_protocol (accepts : Nat → Bool) (limit : Nat) (e : Exchange) :
    (∃ rs : List Response, Session.messages accepts limit e = rs.map .response ∨
      ∃ m, m.isTerminal = true ∧ Session.messages accepts limit e = rs.map .response ++ [m]) ∧
    ((∀ n, accepts n = true) → e.Ends → ∃ (rs : List Response) (m : Message),
      m.isTerminal = true ∧ Session.messages accepts limit e = rs.map .response ++ [m] ∧
        (m = .complete ↔ e.Sound limit)) ∧
    ∀ n r, (Session.messages accepts limit e)[n]? = some (.response r) → accepts n = false →
      (Session.messages accepts limit e).length = n + 1 := by
  have hutters : Utters accepts 0 (Session.messages accepts limit e) :=
    Session.utters_messages limit e
  refine ⟨hutters.exists_responses, fun hall hends => ?_, fun n r hr hdeclined => ?_⟩
  · obtain rfl : accepts = patient := funext hall
    have hterminal := Session.any_isTerminal_messages hends limit
    have hcomplete := Session.complete_mem_messages_iff limit e
    obtain ⟨rs, hrs | ⟨m, hm, hrs⟩⟩ := hutters.exists_responses
    · rw [hrs] at hterminal
      simp at hterminal
    · refine ⟨rs, m, hm, hrs, ?_⟩
      rw [← hcomplete, hrs]
      simp [eq_comm]
  · exact hutters.length_of_declined hr (by rwa [Nat.zero_add])

/-- Three frames, and the body closes or breaks off. A worker that takes the first response only is
sent no more than the second. -/
theorem messages_protocol_of_three_frames :
    let e (ending : BodyEnd) : Exchange := .answered ⟨200,
      [blankFrame ++ newline :: blankFrame, newline :: blankFrame], ending⟩
    (e .closes).Sound 13 ∧ ¬(e .breaks).Sound 13 ∧
      (Session.messages (· == 0) 13 (e .closes))[1]? = some (.response .blank) ∧
        (Session.messages (· == 0) 13 (e .closes)).length = 2 := by
  intro e
  have hcloses : Session.messages patient 13 (e .closes) =
      List.replicate 3 (.response .blank) ++ [.complete] := by decide
  -- The last line has no newline, so it is not heard if the body breaks off there.
  have hbreaks : Session.messages patient 13 (e .breaks) =
      List.replicate 2 (.response .blank) ++ [.error .brokenOff] := by decide
  have hsecond : (Session.messages (· == 0) 13 (e .closes))[1]? = some (.response .blank) := by
    decide
  obtain ⟨-, hclosed, -⟩ := messages_protocol patient 13 (e .closes)
  obtain ⟨-, hbroken, -⟩ := messages_protocol patient 13 (e .breaks)
  obtain ⟨-, -, hdeclined⟩ := messages_protocol (· == 0) 13 (e .closes)
  obtain ⟨_, _, -, hlast, hsound⟩ := hclosed (fun _ => rfl) nofun
  obtain ⟨_, _, -, hlast', hunsound⟩ := hbroken (fun _ => rfl) nofun
  rw [hcloses] at hlast
  rw [hbreaks] at hlast'
  refine ⟨?_, fun h => ?_, hsecond, hdeclined 1 .blank hsecond rfl⟩
  · cases (List.append_inj' hlast rfl).2
    exact hsound.mp rfl
  · cases (List.append_inj' hlast' rfl).2
    cases hunsound.mpr h

end Http

end SnapshotFeed
