import SnapshotFeed.Proofs.Lines

/-! The decoder against a split of all it was given.

A cut at the newlines is the split that the library of lists has for any separator (`lines_cut`).
`pushes_eq_split`: however bytes are cut into chunks, the answers to the pushes are told by the
split of all the bytes pushed so far. The first push to fail is the first that leaves a piece over
the limit, and without one the lines are the finished pieces, trimmed, and the end of the input is
the open one. A piece is held against the limit before it is trimmed. -/
namespace SnapshotFeed

/-! ### Pieces -/

theorem lines_cut (line bytes : List UInt8) :
    (cut line bytes).lines = bytes.splitOnPPrepend (· == newline) line.reverse := by
  induction bytes generalizing line with
  | nil => simp [Cut.lines]
  | cons b bytes ih =>
    by_cases h : b = newline
    · subst h
      rw [cut_newline, List.splitOnPPrepend_cons_pos (by simp), List.reverse_reverse]
      exact congrArg (line :: ·) (ih [])
    · rw [cut_of_ne h, ih, List.splitOnPPrepend_cons_neg (by simpa using h), List.reverse_append]
      rfl

theorem lines_cut_nil (bytes : List UInt8) : (cut [] bytes).lines = bytes.splitOn newline :=
  lines_cut [] bytes

/-- Some piece of the bytes is over the limit, the last one included. -/
def HasLongPiece (limit : Nat) (bytes : List UInt8) : Prop :=
  ∃ piece ∈ bytes.splitOn newline, limit < piece.length

theorem not_hasLongPiece_iff {limit : Nat} {bytes : List UInt8} :
    ¬HasLongPiece limit bytes ↔ (cut [] bytes).Fits limit := by
  simp only [HasLongPiece, Cut.Fits, lines_cut_nil, not_exists, not_and, Nat.not_lt]

/-! ### Trimming -/

/-- `text` is what is left of a piece without the white space at its ends, all of it. -/
def Trims (piece text : List UInt8) : Prop :=
  ∃ before after, piece = before ++ text ++ after ∧ AllLineBlank before ∧ AllLineBlank after ∧
    (∀ b ∈ text.head?, isLineBlank b = false) ∧ ∀ b ∈ text.getLast?, isLineBlank b = false

theorem allLineBlank_takeWhile (bytes : List UInt8) : AllLineBlank (bytes.takeWhile isLineBlank) :=
  List.all_eq_true.mp List.all_takeWhile

theorem trims_trimLine (piece : List UInt8) : Trims piece (trimLine piece) := by
  let tail := piece.dropWhile isLineBlank
  let after := (tail.reverse.takeWhile isLineBlank).reverse
  have htail : tail = trimLine piece ++ after := by
    rw [← List.reverse_reverse tail,
      ← List.takeWhile_append_dropWhile (p := isLineBlank) (l := tail.reverse), List.reverse_append]
    rfl
  refine ⟨piece.takeWhile isLineBlank, after, ?_, allLineBlank_takeWhile piece, ?_, ?_,
    getLast?_trimLine piece⟩
  · rw [List.append_assoc, ← htail]
    exact List.takeWhile_append_dropWhile.symm
  · intro b hb
    exact allLineBlank_takeWhile _ b (List.mem_reverse.mp hb)
  · intro b hb
    have hhead := List.head?_dropWhile_not isLineBlank piece
    have hfirst : tail.head? = some b := by
      rw [htail, List.head?_append, Option.mem_def.mp hb]
      rfl
    rw [show piece.dropWhile isLineBlank = tail from rfl, hfirst] at hhead
    exact hhead

theorem nonBlank?_eq_filter (line : List UInt8) :
    nonBlank? line = (some (trimLine line)).filter (· ≠ []) := by
  unfold nonBlank?
  cases trimLine line <;> rfl

theorem filterMap_nonBlank? (lines : List (List UInt8)) :
    lines.filterMap nonBlank? = (lines.map trimLine).filter (· ≠ []) := by
  induction lines with
  | nil => rfl
  | cons line lines ih =>
    rw [List.filterMap_cons, List.map_cons, List.filter_cons, ih, nonBlank?_eq_filter]
    cases trimLine line <;> rfl

/-! ### Pushes -/

namespace LineDecoder

/-- What some pushes answer, one after another, and the decoder after them. A push that fails does
not stop the ones after it. -/
def pushes (d : LineDecoder) :
    List (List UInt8) → List (Except StreamError (List (List UInt8))) × LineDecoder
  | [] => ([], d)
  | chunk :: chunks =>
    let (answers, d') := (d.push chunk).2.pushes chunks
    ((d.push chunk).1 :: answers, d')

theorem getElem?_pushes {chunks : List (List UInt8)} {i : Nat} {chunk : List UInt8}
    (h : chunks[i]? = some chunk) (d : LineDecoder) :
    (d.pushes chunks).1[i]? = some ((d.pushes (chunks.take i)).2.push chunk).1 := by
  induction chunks generalizing i d with
  | nil => cases h
  | cons first chunks ih =>
    cases i with
    | zero =>
      cases h
      rfl
    | succ i => exact ih h (d.push first).2

theorem frameTooLarge_of_mem_pushes {d : LineDecoder} {chunks : List (List UInt8)}
    {cause : StreamError} (h : .error cause ∈ (d.pushes chunks).1) :
    cause = .frameTooLarge d.limit := by
  induction chunks generalizing d with
  | nil => cases h
  | cons chunk chunks ih =>
    rcases List.mem_cons.mp h with hfirst | hrest
    · exact frameTooLarge_of_push hfirst.symm
    · rw [ih hrest, limit_push]

/-- As long as no line is over the limit, pushes find the lines of a cut. -/
theorem pushes_of_fits {limit : Nat} {line : List UInt8} {chunks : List (List UInt8)}
    (h : (cut line chunks.flatten).Fits limit) :
    ∃ found : List (List (List UInt8)), (holding limit line).pushes chunks =
        (found.map .ok, holding limit (cut line chunks.flatten).rest) ∧
      found.flatten = (cut line chunks.flatten).finished.filterMap nonBlank? := by
  induction chunks generalizing line with
  | nil => exact ⟨[], rfl, rfl⟩
  | cons chunk chunks ih =>
    rw [List.flatten_cons] at h ⊢
    obtain ⟨hchunk, hrest⟩ := fits_cut_append.mp h
    obtain ⟨found, hpushes, hfound⟩ := ih hrest
    refine ⟨(cut line chunk).finished.filterMap nonBlank? :: found, ?_, ?_⟩
    · rw [pushes, push_of_fits hchunk]
      simp only [hpushes, cut_append, List.map_cons]
    · rw [cut_append, List.flatten_cons, hfound, List.filterMap_append]

/-- The push at `i` fails, and none before it. -/
def FirstFailure (answers : List (Except StreamError (List (List UInt8)))) (i : Nat) : Prop :=
  (∃ cause, answers[i]? = some (.error cause)) ∧ ∀ j < i, ∃ found, answers[j]? = some (.ok found)

section
variable {limit : Nat} {chunks : List (List UInt8)} {i : Nat}

/-- A push after pushes that left no long piece: it fails if it makes one. -/
theorem answer_of_fits (hi : i < chunks.length)
    (h : ¬HasLongPiece limit (chunks.take i).flatten) :
    (HasLongPiece limit (chunks.take (i + 1)).flatten ∧
      ∃ cause, ((new limit).pushes chunks).1[i]? = some (.error cause)) ∨
    (¬HasLongPiece limit (chunks.take (i + 1)).flatten ∧
      ∃ found, ((new limit).pushes chunks).1[i]? = some (.ok found)) := by
  have hanswer := getElem?_pushes (List.getElem?_eq_getElem hi) (new limit)
  have hfits := not_hasLongPiece_iff.mp h
  obtain ⟨found, hpushes, -⟩ := pushes_of_fits hfits
  rw [← holding_nil, hpushes] at hanswer
  have hnext : (chunks.take (i + 1)).flatten = (chunks.take i).flatten ++ chunks[i] := by
    rw [List.take_succ_eq_append_getElem hi, List.flatten_append, List.flatten_singleton]
  by_cases hlong : HasLongPiece limit (chunks.take (i + 1)).flatten
  · refine .inl ⟨hlong, ?_⟩
    have hover : ¬(cut (cut [] (chunks.take i).flatten).rest chunks[i]).Fits limit := by
      intro hchunk
      refine not_hasLongPiece_iff.mpr ?_ hlong
      rw [hnext]
      exact fits_cut_append.mpr ⟨hfits, hchunk⟩
    obtain ⟨d, hpush⟩ := push_of_not_fits hover
    exact ⟨_, hanswer.trans (by rw [hpush])⟩
  · refine .inr ⟨hlong, ?_⟩
    have hchunk := not_hasLongPiece_iff.mp hlong
    rw [hnext] at hchunk
    exact ⟨_, hanswer.trans (by rw [push_of_fits (fits_cut_append.mp hchunk).2])⟩

theorem not_hasLongPiece_nil : ¬HasLongPiece limit [] :=
  not_hasLongPiece_iff.mpr (fits_cut_nil (Nat.zero_le limit))

/-- Pushes that do not fail leave no long piece. -/
theorem not_hasLongPiece_of_ok (hi : i ≤ chunks.length)
    (h : ∀ j < i, ∃ found, ((new limit).pushes chunks).1[j]? = some (.ok found)) :
    ¬HasLongPiece limit (chunks.take i).flatten := by
  induction i with
  | zero => exact not_hasLongPiece_nil
  | succ i ih =>
    have hbefore := ih (Nat.le_of_succ_le hi) fun j hj => h j (Nat.lt_succ_of_lt hj)
    obtain ⟨-, cause, herror⟩ | ⟨hshort, -⟩ := answer_of_fits hi hbefore
    · obtain ⟨found, hok⟩ := h i (Nat.lt_succ_self i)
      rw [hok] at herror
      cases herror
    · exact hshort

theorem firstFailure_iff (hi : i < chunks.length) :
    FirstFailure ((new limit).pushes chunks).1 i ↔
      HasLongPiece limit (chunks.take (i + 1)).flatten ∧
        ∀ j ≤ i, ¬HasLongPiece limit (chunks.take j).flatten := by
  constructor
  · rintro ⟨⟨cause, herror⟩, hbefore⟩
    have hshort : ∀ j ≤ i, ¬HasLongPiece limit (chunks.take j).flatten := fun j hj =>
      not_hasLongPiece_of_ok (by omega) fun k hk => hbefore k (by omega)
    refine ⟨?_, hshort⟩
    obtain ⟨hlong, -⟩ | ⟨-, found, hok⟩ := answer_of_fits hi (hshort i (Nat.le_refl i))
    · exact hlong
    · rw [hok] at herror
      cases herror
  · rintro ⟨hlong, hshort⟩
    refine ⟨?_, fun j hj => ?_⟩
    · obtain ⟨-, hfails⟩ | ⟨hnone, -⟩ := answer_of_fits hi (hshort i (Nat.le_refl i))
      · exact hfails
      · exact absurd hlong hnone
    · obtain ⟨hnext, -⟩ | ⟨-, hfound⟩ :=
        answer_of_fits (Nat.lt_trans hj hi) (hshort j (Nat.le_of_lt hj))
      · exact absurd hnext (hshort (j + 1) hj)
      · exact hfound

end

theorem length_pushes (d : LineDecoder) (chunks : List (List UInt8)) :
    (d.pushes chunks).1.length = chunks.length := by
  induction chunks generalizing d with
  | nil => rfl
  | cons chunk chunks ih => exact congrArg (· + 1) (ih _)

/-- **However its input is cut, the decoder splits all of it at the newlines.** A push is the first
to fail exactly if with its chunk, and not before, some piece of all the bytes is over the limit;
every failure is that of a line too long for the limit. While no push fails the lines it yields are
the pieces that are finished, trimmed, without the blank ones, and the end of the input yields the
last piece in the same way. -/
theorem pushes_eq_split (limit : Nat) (chunks : List (List UInt8)) :
    (∀ i < chunks.length, FirstFailure ((new limit).pushes chunks).1 i ↔
      HasLongPiece limit (chunks.take (i + 1)).flatten ∧
        ∀ j ≤ i, ¬HasLongPiece limit (chunks.take j).flatten) ∧
    (∀ cause, .error cause ∈ ((new limit).pushes chunks).1 → cause = .frameTooLarge limit) ∧
    (∀ found : List (List (List UInt8)), ((new limit).pushes chunks).1 = found.map .ok →
      let texts := (chunks.flatten.splitOn newline).map trimLine
      found.flatten = texts.dropLast.filter (· ≠ []) ∧
      ((new limit).pushes chunks).2.finish.1 = texts.getLast?.filter (· ≠ [])) ∧
    ∀ piece, Trims piece (trimLine piece) := by
  refine ⟨fun i hi => firstFailure_iff hi, fun _ => frameTooLarge_of_mem_pushes,
    fun found hfound => ?_, trims_trimLine⟩
  intro texts
  have hshort : ¬HasLongPiece limit (chunks.take chunks.length).flatten := by
    refine not_hasLongPiece_of_ok (Nat.le_refl _) fun j hj => ?_
    have hj' : j < found.length := by
      have hlength := length_pushes (new limit) chunks
      rw [hfound, List.length_map] at hlength
      omega
    exact ⟨found[j], by simp [hfound, hj']⟩
  rw [List.take_length] at hshort
  obtain ⟨found', hpushes, hlines⟩ := pushes_of_fits (not_hasLongPiece_iff.mp hshort)
  have htexts : texts = (cut [] chunks.flatten).finished.map trimLine ++
      [trimLine (cut [] chunks.flatten).rest] := by
    simp only [texts, ← lines_cut_nil, Cut.lines, List.map_append, List.map_singleton]
  rw [holding_nil] at hpushes
  constructor
  · have hsame : found' = found := by
      rw [hpushes] at hfound
      exact (List.map_inj_right fun _ _ => Except.ok.inj).mp hfound
    rw [← hsame, hlines, filterMap_nonBlank?, htexts, List.dropLast_concat]
  · rw [hpushes, htexts, List.getLast?_concat, ← nonBlank?_eq_filter]
    rfl

/-- At the limit of three bytes a line of three with its white space is found, and the push that
makes the open line longer is the first to fail. -/
theorem pushes_eq_split_at_limit :
    let chunks : List (List UInt8) := [[0x61], [0x20, 0x0D, 0x0A, 0x62, 0x63], [0x64], [0x65]]
    let texts := ((chunks.take 3).flatten.splitOn newline).map trimLine
    ((new 3).pushes chunks).1 = [.ok [], .ok [[0x61]], .ok [], .error (.frameTooLarge 3)] ∧
      HasLongPiece 3 chunks.flatten ∧ (∀ j ≤ 3, ¬HasLongPiece 3 (chunks.take j).flatten) ∧
        texts.dropLast.filter (· ≠ []) = [[0x61]] ∧
          texts.getLast?.filter (· ≠ []) = some [0x62, 0x63, 0x64] := by
  intro chunks texts
  have hpushes : ((new 3).pushes chunks).1 =
      [.ok [], .ok [[0x61]], .ok [], .error (.frameTooLarge 3)] := rfl
  have hfirst : FirstFailure ((new 3).pushes chunks).1 3 := by
    refine ⟨⟨_, rfl⟩, fun j hj => ?_⟩
    match j, hj with
    | 0, _ | 1, _ | 2, _ => exact ⟨_, rfl⟩
  obtain ⟨hfails, -, -, -⟩ := pushes_eq_split 3 chunks
  obtain ⟨-, -, hfinds, -⟩ := pushes_eq_split 3 (chunks.take 3)
  obtain ⟨hlong, hshort⟩ := (hfails 3 (by decide)).mp hfirst
  obtain ⟨hfinished, hopen⟩ := hfinds [[], [[0x61]], []] rfl
  exact ⟨hpushes, hlong, hshort, hfinished.symm, hopen.symm⟩

end LineDecoder

end SnapshotFeed
