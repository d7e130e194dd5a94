import SnapshotFeed.Lines

/-! What the decoder makes of a chunk.

A body is cut at its newlines and nowhere else (`cut`), whatever its chunks; a cut may go on from
the bytes of a line already there (`cut_append`). The decoder holds just those bytes between two
chunks. If no line is over the limit, the line still open included, a push yields the lines that
are finished (`push_of_fits`); if one is, it yields the error alone (`push_of_not_fits`). -/
namespace SnapshotFeed

/-- Bytes cut at their newlines. -/
structure Cut where
  /-- The lines that a newline ends. -/
  finished : List (List UInt8)
  /-- The line that none does. -/
  rest : List UInt8
  deriving DecidableEq, Repr

namespace Cut

/-- All lines, the last one open. -/
def lines (c : Cut) : List (List UInt8) := c.finished ++ [c.rest]

/-- No line is over the limit. -/
def Fits (limit : Nat) (c : Cut) : Prop := ∀ line ∈ c.lines, line.length ≤ limit

instance (limit : Nat) (c : Cut) : Decidable (c.Fits limit) :=
  inferInstanceAs (Decidable (∀ line ∈ c.lines, line.length ≤ limit))

theorem fits_iff {limit : Nat} {c : Cut} :
    c.Fits limit ↔ (∀ line ∈ c.finished, line.length ≤ limit) ∧ c.rest.length ≤ limit := by
  simp only [Fits, lines, List.mem_append, List.mem_singleton, or_imp, forall_and, forall_eq]

end Cut

/-- Cuts bytes that go on the line `line`. -/
def cut (line : List UInt8) : List UInt8 → Cut
  | [] => ⟨[], line⟩
  | b :: bytes =>
    if b == newline then ⟨line :: (cut [] bytes).finished, (cut [] bytes).rest⟩
    else cut (line ++ [b]) bytes

@[simp]
theorem cut_nil (line : List UInt8) : cut line [] = ⟨[], line⟩ := rfl

@[simp]
theorem cut_newline (line bytes : List UInt8) :
    cut line (newline :: bytes) = ⟨line :: (cut [] bytes).finished, (cut [] bytes).rest⟩ := rfl

theorem cut_of_ne {b : UInt8} (h : b ≠ newline) (line bytes : List UInt8) :
    cut line (b :: bytes) = cut (line ++ [b]) bytes := by
  rw [cut, if_neg (by simpa using h)]

/-- Bytes may be cut in two goes. -/
theorem cut_append (line a b : List UInt8) :
    cut line (a ++ b) =
      ⟨(cut line a).finished ++ (cut (cut line a).rest b).finished,
        (cut (cut line a).rest b).rest⟩ := by
  induction a generalizing line with
  | nil => rfl
  | cons x a ih =>
    by_cases h : x = newline
    · rw [h, List.cons_append, cut_newline, cut_newline, ih]
      rfl
    · rw [List.cons_append, cut_of_ne h, cut_of_ne h, ih]

/-- Bytes without a newline go on the line. -/
theorem cut_of_notMem {bytes : List UInt8} (h : newline ∉ bytes) (line : List UInt8) :
    cut line bytes = ⟨[], line ++ bytes⟩ := by
  induction bytes generalizing line with
  | nil => rw [cut_nil, List.append_nil]
  | cons b bytes ih =>
    obtain ⟨hb, hbytes⟩ := not_or.mp (mt List.mem_cons.mpr h)
    rw [cut_of_ne (Ne.symm hb), ih hbytes, List.append_assoc, List.singleton_append]

theorem cut_line {line : List UInt8} (h : newline ∉ line) (bytes : List UInt8) :
    cut [] (line ++ newline :: bytes) = ⟨line :: (cut [] bytes).finished, (cut [] bytes).rest⟩ := by
  rw [cut_append, cut_of_notMem h, cut_newline]
  rfl

/-- Whatever comes after, some line begins with the line there was. -/
theorem exists_prefix_cut (line bytes : List UInt8) :
    ∃ more lines, (cut line bytes).lines = (line ++ more) :: lines := by
  induction bytes generalizing line with
  | nil => exact ⟨[], [], by simp [Cut.lines]⟩
  | cons b bytes ih =>
    by_cases h : b = newline
    · exact ⟨[], (cut [] bytes).lines, by simp [h, Cut.lines]⟩
    · obtain ⟨more, lines, hcut⟩ := ih (line ++ [b])
      exact ⟨b :: more, lines, by rw [cut_of_ne h, hcut, List.append_assoc, List.singleton_append]⟩

theorem newline_notMem_rest {line : List UInt8} (h : newline ∉ line) (bytes : List UInt8) :
    newline ∉ (cut line bytes).rest := by
  induction bytes generalizing line with
  | nil => exact h
  | cons b bytes ih =>
    by_cases hb : b = newline
    · rw [hb, cut_newline]
      exact ih List.not_mem_nil
    · rw [cut_of_ne hb]
      exact ih (by simpa [h] using Ne.symm hb)

theorem fits_cut_nil {limit : Nat} {line : List UInt8} (h : line.length ≤ limit) :
    (cut line []).Fits limit := by
  simpa [Cut.Fits, Cut.lines] using h

theorem fits_cut_append {limit : Nat} {line a b : List UInt8} :
    (cut line (a ++ b)).Fits limit ↔
      (cut line a).Fits limit ∧ (cut (cut line a).rest b).Fits limit := by
  obtain ⟨more, lines, hlines⟩ := exists_prefix_cut (cut line a).rest b
  have hrest : (cut (cut line a).rest b).Fits limit → (cut line a).rest.length ≤ limit := by
    intro h
    have := h ((cut line a).rest ++ more) (by rw [hlines]; exact List.mem_cons_self)
    rw [List.length_append] at this
    omega
  rw [cut_append, Cut.fits_iff, Cut.fits_iff, Cut.fits_iff]
  rw [Cut.fits_iff] at hrest
  simp only [List.mem_append, or_imp, forall_and]
  constructor
  · rintro ⟨⟨ha, hb⟩, hopen⟩
    exact ⟨⟨ha, hrest ⟨hb, hopen⟩⟩, hb, hopen⟩
  · rintro ⟨⟨ha, -⟩, hb, hopen⟩
    exact ⟨⟨ha, hb⟩, hopen⟩

/-! ### Trimming -/

/-- Bytes that may stand around a line without being of it. -/
def AllLineBlank (bytes : List UInt8) : Prop := ∀ b ∈ bytes, isLineBlank b = true

theorem allLineBlank_nil : AllLineBlank [] := fun _ h => nomatch h

theorem nonBlank?_of_allLineBlank {line : List UInt8} (h : AllLineBlank line) :
    nonBlank? line = none := by
  have hdrop : (line ++ []).dropWhile isLineBlank = [] := List.dropWhile_append_of_pos h
  rw [List.append_nil] at hdrop
  rw [nonBlank?, trimLine, hdrop]
  rfl

theorem dropWhile_isLineBlank {bytes rest : List UInt8} {b : UInt8} (h : AllLineBlank bytes)
    (hb : isLineBlank b = false) :
    (bytes ++ b :: rest).dropWhile isLineBlank = b :: rest := by
  rw [List.dropWhile_append_of_pos h, List.dropWhile_cons_of_neg (by simp [hb])]

/-- What is left of a line are the bytes from the first that is not blank to the last. -/
theorem trimLine_eq {before after core : List UInt8} {first last : UInt8}
    (hbefore : AllLineBlank before) (hafter : AllLineBlank after)
    (hfirst : isLineBlank first = false) (hlast : isLineBlank last = false) :
    trimLine (before ++ first :: (core ++ last :: after)) = first :: (core ++ [last]) := by
  have hreverse : AllLineBlank after.reverse := fun b hb => hafter b (List.mem_reverse.mp hb)
  have hsplit : (first :: (core ++ last :: after)).reverse =
      after.reverse ++ last :: (first :: core).reverse := by simp
  rw [trimLine, dropWhile_isLineBlank hbefore hfirst, hsplit, dropWhile_isLineBlank hreverse hlast]
  simp

theorem nonBlank?_eq_some {line text : List UInt8} :
    nonBlank? line = some text ↔ trimLine line = text ∧ text ≠ [] := by
  unfold nonBlank?
  cases trimLine line with
  | nil => simp +contextual
  | cons b rest => simp +contextual [eq_comm]

/-- What is left of a line does not end in white space. -/
theorem getLast?_trimLine (line : List UInt8) :
    ∀ b ∈ (trimLine line).getLast?, isLineBlank b = false := by
  intro b hb
  have hhead := List.head?_dropWhile_not isLineBlank (line.dropWhile isLineBlank).reverse
  rw [trimLine, List.getLast?_reverse] at hb
  rw [Option.mem_def.mp hb] at hhead
  exact hhead

theorem trimLine_prefix (line : List UInt8) : trimLine line <+: line.dropWhile isLineBlank := by
  rw [trimLine, ← List.reverse_suffix, List.reverse_reverse]
  exact List.dropWhile_suffix _

/-- What goes on a line goes on what is left of it. -/
theorem exists_nonBlank?_append {line text : List UInt8} (h : nonBlank? line = some text)
    (bytes : List UInt8) : ∃ more, nonBlank? (line ++ bytes) = some (text ++ more) := by
  obtain ⟨rfl, hne⟩ := nonBlank?_eq_some.mp h
  obtain ⟨more, hmore⟩ := trimLine_prefix line
  have hdrop : (line ++ bytes).dropWhile isLineBlank = line.dropWhile isLineBlank ++ bytes := by
    rw [List.dropWhile_append, if_neg]
    intro hempty
    rw [List.isEmpty_iff.mp hempty] at hmore
    exact hne (List.append_eq_nil_iff.mp hmore).1
  suffices ∃ more, trimLine (line ++ bytes) = trimLine line ++ more by
    obtain ⟨more, htrim⟩ := this
    exact ⟨more, nonBlank?_eq_some.mpr ⟨htrim, by simp [hne]⟩⟩
  rw [trimLine, hdrop, List.reverse_append, List.dropWhile_append]
  split
  · exact ⟨[], by rw [trimLine, List.append_nil]⟩
  · refine ⟨more ++ (bytes.reverse.dropWhile isLineBlank).reverse, ?_⟩
    rw [List.reverse_append, List.reverse_reverse, ← hmore, List.append_assoc]

/-! ### The decoder -/

namespace LineDecoder

/-- A scan that goes on the line `line`. -/
def Scan.on (lines : List (List UInt8)) (passed : Nat) (line : List UInt8) : Scan :=
  ⟨lines, passed, line.reverse, line.length, false⟩

theorem scan_newline {limit : Nat} {line : List UInt8} (h : line.length ≤ limit)
    (lines : List (List UInt8)) (passed : Nat) (bytes : List UInt8) :
    scan limit (.on lines passed line) (newline :: bytes) =
      scan limit (.on ((nonBlank? line).toList ++ lines) (passed + line.length + 1) []) bytes := by
  simp [scan, Scan.on, Nat.not_lt.mpr h]

theorem scan_of_ne {b : UInt8} (h : b ≠ newline) (limit : Nat) (lines : List (List UInt8))
    (passed : Nat) (line bytes : List UInt8) :
    scan limit (.on lines passed line) (b :: bytes) =
      scan limit (.on lines passed (line ++ [b])) bytes := by
  simp [scan, Scan.on, h]

/-- A scan finds the lines of a cut. -/
theorem scan_of_forall_le {limit : Nat} {line bytes : List UInt8}
    (h : ∀ l ∈ (cut line bytes).finished, l.length ≤ limit) (lines : List (List UInt8))
    (passed : Nat) :
    ∃ passed', scan limit (.on lines passed line) bytes =
      .on (((cut line bytes).finished.filterMap nonBlank?).reverse ++ lines) passed'
        (cut line bytes).rest := by
  induction bytes generalizing line lines passed with
  | nil => exact ⟨passed, rfl⟩
  | cons b bytes ih =>
    by_cases hb : b = newline
    · subst hb
      rw [cut_newline, List.forall_mem_cons] at h
      obtain ⟨hline, hlines⟩ := h
      obtain ⟨passed', hscan⟩ := ih hlines ((nonBlank? line).toList ++ lines)
        (passed + line.length + 1)
      refine ⟨passed', ?_⟩
      rw [scan_newline hline, hscan, cut_newline]
      cases hblank : nonBlank? line <;> simp [hblank]
    · rw [cut_of_ne hb] at h ⊢
      obtain ⟨passed', hscan⟩ := ih h lines passed
      exact ⟨passed', by rw [scan_of_ne hb, hscan]⟩

/-- A scan stops at the end of a line that is too long. -/
theorem scan_of_exists_lt {limit : Nat} {line bytes : List UInt8}
    (h : ∃ l ∈ (cut line bytes).finished, limit < l.length) (lines : List (List UInt8))
    (passed : Nat) : (scan limit (.on lines passed line) bytes).oversized = true := by
  induction bytes generalizing line lines passed with
  | nil =>
    obtain ⟨l, hl, -⟩ := h
    cases hl
  | cons b bytes ih =>
    by_cases hb : b = newline
    · subst hb
      by_cases hline : line.length ≤ limit
      · rw [scan_newline hline]
        refine ih ?_ _ _
        obtain ⟨l, hl, hlong⟩ := h
        rcases List.mem_cons.mp hl with rfl | hl
        · exact absurd hlong (Nat.not_lt.mpr hline)
        · exact ⟨l, hl, hlong⟩
      · simp [scan, Scan.on, Nat.not_le.mp hline]
    · rw [scan_of_ne hb]
      rw [cut_of_ne hb] at h
      exact ih h lines passed

/-- A decoder between two chunks: it holds the open line, and has looked at all of it. -/
def holding (limit : Nat) (line : List UInt8) : LineDecoder := ⟨line, line.length, limit⟩

theorem holding_nil (limit : Nat) : holding limit [] = .new limit := rfl

theorem scan_of_holding (limit : Nat) (line chunk : List UInt8) :
    scan limit ⟨[], 0, ((line ++ chunk).take line.length).reverse,
        ((line ++ chunk).take line.length).length, false⟩ ((line ++ chunk).drop line.length) =
      scan limit (.on [] 0 line) chunk := by
  rw [List.take_left, List.drop_left, Scan.on]

theorem push_of_fits {limit : Nat} {line chunk : List UInt8} (h : (cut line chunk).Fits limit) :
    (holding limit line).push chunk =
      (.ok ((cut line chunk).finished.filterMap nonBlank?),
        holding limit (cut line chunk).rest) := by
  obtain ⟨hfinished, hrest⟩ := Cut.fits_iff.mp h
  obtain ⟨passed, hscan⟩ := scan_of_forall_le hfinished [] 0
  simp only [push, holding, scan_of_holding, hscan]
  simp [Scan.on, Nat.not_lt.mpr hrest]

theorem push_of_not_fits {limit : Nat} {line chunk : List UInt8}
    (h : ¬(cut line chunk).Fits limit) :
    ∃ d, (holding limit line).push chunk = (.error (.frameTooLarge limit), d) := by
  by_cases hlong : ∃ l ∈ (cut line chunk).finished, limit < l.length
  · have hscan := scan_of_exists_lt hlong [] 0
    simp only [push, holding, scan_of_holding, hscan, if_true]
    exact ⟨_, rfl⟩
  · have hfinished : ∀ l ∈ (cut line chunk).finished, l.length ≤ limit :=
      fun l hl => Nat.not_lt.mp fun hlt => hlong ⟨l, hl, hlt⟩
    have hrest : limit < (cut line chunk).rest.length :=
      Nat.not_le.mp fun hle => h (Cut.fits_iff.mpr ⟨hfinished, hle⟩)
    obtain ⟨passed, hscan⟩ := scan_of_forall_le hfinished [] 0
    refine ⟨holding limit (cut line chunk).rest, ?_⟩
    simp only [push, holding, scan_of_holding, hscan]
    simp [Scan.on, hrest]

theorem frameTooLarge_of_push {d : LineDecoder} {chunk : List UInt8} {cause : StreamError}
    (h : (d.push chunk).1 = .error cause) : cause = .frameTooLarge d.limit := by
  simp only [push] at h
  split at h
  · cases h
    rfl
  · split at h
    · cases h
      rfl
    · cases h

@[simp]
theorem limit_push (d : LineDecoder) (chunk : List UInt8) : (d.push chunk).2.limit = d.limit := by
  simp only [push]
  repeat' split
  all_goals rfl

end LineDecoder

end SnapshotFeed
