import SnapshotFeed.Http.Session
import SnapshotFeed.Proofs.Lines
import SnapshotFeed.Proofs.Terminal

/-! What a session sends of the chunks it gets.

While no line is over the limit, chunks make no difference: what is sent are the messages of the
lines finished so far, and after a terminal one nothing (`stream_append`). A chunk that takes a line
over the limit is worth the error and nothing else (`stream_of_not_fits`). -/
namespace SnapshotFeed

/-- The messages of lines; a blank line has none. -/
def Message.ofLines (lines : List (List UInt8)) : List Message :=
  (lines.filterMap nonBlank?).map Message.ofLine

theorem Message.ofLines_append (a b : List (List UInt8)) :
    Message.ofLines (a ++ b) = Message.ofLines a ++ Message.ofLines b := by
  simp [Message.ofLines]

theorem Message.ofLines_eq_nil {lines : List (List UInt8)} :
    Message.ofLines lines = [] ↔ ∀ line ∈ lines, nonBlank? line = none := by
  simp [Message.ofLines]

theorem Message.ofLine_ne_frameTooLarge (line : List UInt8) (limit : Nat) :
    Message.ofLine line ≠ .error (.frameTooLarge limit) := by
  unfold Message.ofLine
  split <;> simp

namespace Http.Session

theorem forward_patient (sent : Nat) (lines : List (List UInt8)) :
    forward patient sent lines =
      (Message.upToTerminal (lines.map Message.ofLine),
        !(lines.map Message.ofLine).any Message.isTerminal) := by
  induction lines generalizing sent with
  | nil => rfl
  | cons line rest ih =>
    rw [forward, ih]
    cases h : (Message.ofLine line).isTerminal <;> simp [patient, h, Message.upToTerminal]

/-- Lines, and what comes after them if the session goes on. -/
theorem forward_then (sent : Nat) (lines : List (List UInt8)) (rest : Nat → List Message) :
    (match forward patient sent lines with
      | (ms, goesOn) => if goesOn then ms ++ rest ms.length else ms) =
      Message.followedBy (lines.map Message.ofLine) (rest lines.length) := by
  rw [forward_patient]
  cases h : (lines.map Message.ofLine).any Message.isTerminal with
  | false =>
    rw [Message.followedBy_of_any_eq_false h, Message.upToTerminal_of_any_eq_false h]
    simp
  | true => simp [Message.followedBy_of_any h]

theorem conclude_holding (limit sent : Nat) (line : List UInt8) :
    conclude patient sent (.holding limit line) .closes =
      Message.followedBy (Message.ofLines [line]) [.complete] := by
  have hlines : Message.ofLines [line] = (nonBlank? line).toList.map Message.ofLine := by
    cases h : nonBlank? line <;> simp [Message.ofLines, h]
  rw [hlines]
  exact forward_then sent _ fun _ => [.complete]

theorem stream_of_not_fits {limit : Nat} {line chunk : List UInt8}
    (h : ¬(cut line chunk).Fits limit) (ending : BodyEnd) (sent : Nat) (after : List (List UInt8)) :
    stream patient ending sent (.holding limit line) (chunk :: after) =
      [.error (.frameTooLarge limit)] := by
  obtain ⟨d, hpush⟩ := LineDecoder.push_of_not_fits h
  rw [stream, hpush]

theorem stream_of_fits {limit : Nat} {line chunk : List UInt8} (h : (cut line chunk).Fits limit)
    (ending : BodyEnd) (sent : Nat) (after : List (List UInt8)) :
    ∃ sent', stream patient ending sent (.holding limit line) (chunk :: after) =
      Message.followedBy (Message.ofLines (cut line chunk).finished)
        (stream patient ending sent' (.holding limit (cut line chunk).rest) after) := by
  refine ⟨sent + ((cut line chunk).finished.filterMap nonBlank?).length, ?_⟩
  simp only [stream, LineDecoder.push_of_fits h]
  exact forward_then sent _ fun n =>
    stream patient ending (sent + n) (.holding limit (cut line chunk).rest) after

/-- **Chunks that keep to the limit are worth the lines they finish**, and then what comes after. -/
theorem stream_append {limit : Nat} {line : List UInt8} {before : List (List UInt8)}
    (h : (cut line before.flatten).Fits limit) (ending : BodyEnd) (sent : Nat)
    (after : List (List UInt8)) :
    ∃ sent', stream patient ending sent (.holding limit line) (before ++ after) =
      Message.followedBy (Message.ofLines (cut line before.flatten).finished)
        (stream patient ending sent' (.holding limit (cut line before.flatten).rest) after) := by
  induction before generalizing line sent with
  | nil => exact ⟨sent, rfl⟩
  | cons chunk before ih =>
    rw [List.flatten_cons] at h
    obtain ⟨hchunk, hbefore⟩ := fits_cut_append.mp h
    obtain ⟨sent', hfirst⟩ := stream_of_fits hchunk ending sent (before ++ after)
    obtain ⟨sent'', hrest⟩ := ih hbefore sent'
    refine ⟨sent'', ?_⟩
    rw [List.cons_append, hfirst, hrest, List.flatten_cons, cut_append, Message.ofLines_append,
      Message.followedBy_append]

/-- A body that keeps to the limit and ends is worth its lines, the last one included. -/
theorem stream_eq_of_fits {limit : Nat} {chunks : List (List UInt8)}
    (h : (cut [] chunks.flatten).Fits limit) :
    stream patient .closes 0 (.new limit) chunks =
      Message.upToTerminal (Message.ofLines (cut [] chunks.flatten).lines ++ [.complete]) := by
  obtain ⟨sent, hstream⟩ := stream_append h .closes 0 []
  rw [List.append_nil] at hstream
  rw [← LineDecoder.holding_nil, hstream, stream, conclude_holding, Cut.lines,
    Message.ofLines_append, ← Message.followedBy_append, Message.upToTerminal_append]
  rfl

theorem messages_of_success {status : Nat} (h : 200 ≤ status ∧ status ≤ 299) (limit : Nat)
    (chunks : List (List UInt8)) (ending : BodyEnd) :
    messages patient limit (.answered ⟨status, chunks, ending⟩) =
      stream patient ending 0 (.new limit) chunks := by
  simp [messages, Reply.isSuccess, h]

end Http.Session

end SnapshotFeed
