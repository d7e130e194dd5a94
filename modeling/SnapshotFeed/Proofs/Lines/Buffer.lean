import SnapshotFeed.Proofs.Lines

/-! The decoder on its buffer, place by place.

`pushInRange?` is a push as it goes through the buffer: it looks for a newline from `scanned` on,
takes the line from `start`, and has no result as soon as a place is out of range. It always has one,
and it is what `push` gives (`push_cases`). Places also tell what a line over the limit leaves
behind. If a newline ends the line, the whole buffer stays and the next push begins its line at the
first byte; if none does, the buffer is that line. Either way the first newline from `scanned` on
is more than `limit` bytes into the buffer (`Clogged`), and stays so however the buffer grows.
`fails_until_finish`: until the end of the input every push fails, and then the decoder is new. -/
namespace SnapshotFeed

namespace LineDecoder

/-! ### Places -/

/-- Where a push stands, or has ended, in its buffer. -/
structure Walk where
  lines : List (List UInt8)
  /-- The first byte of the line at hand. -/
  start : Nat
  /-- The first byte not yet looked at. -/
  scanned : Nat
  /-- It ended at the newline of a line that is too long. -/
  oversized : Bool

/-- Takes line after line from a buffer; none if a slice or a difference is out of range. -/
def walk? (limit : Nat) (buffer : List UInt8) (lines : List (List UInt8)) (start scanned : Nat) :
    Option Walk :=
  if buffer.length < scanned then none
  else if newline ∈ buffer.drop scanned then
    let stop := scanned + (buffer.drop scanned).idxOf newline
    if stop < start ∨ buffer.length < stop then none
    else if limit < stop - start then some ⟨lines, start, scanned, true⟩
    else
      let line := (buffer.take stop).drop start
      walk? limit buffer (lines ++ (nonBlank? line).toList) (stop + 1) (stop + 1)
  else some ⟨lines, start, scanned, false⟩
termination_by buffer.length + 1 - scanned

/-- A push, place by place; none if it needs a place that the buffer does not have. -/
def pushInRange? (d : LineDecoder) (chunk : List UInt8) :
    Option (Except StreamError (List (List UInt8)) × LineDecoder) :=
  let buffer := d.buffer ++ chunk
  match walk? d.limit buffer [] 0 d.scanned with
  | none => none
  | some ⟨_, _, scanned, true⟩ => some (.error (.frameTooLarge d.limit), {d with buffer, scanned})
  | some ⟨lines, start, _, false⟩ =>
    if buffer.length < start then none
    else
      let rest := buffer.drop start
      let d := {d with buffer := rest, scanned := rest.length}
      if d.limit < rest.length then some (.error (.frameTooLarge d.limit), d)
      else some (.ok lines, d)

/-! ### A walk is a scan -/

/-- Where a walk ends, as places of the buffer. -/
structure Walk.Ends (limit : Nat) (buffer : List UInt8) (start scanned : Nat) (w : Walk) : Prop where
  start_le : w.start ≤ w.scanned
  scanned_le : w.scanned ≤ buffer.length
  /-- It has taken no line, or it has looked at nothing after the last one. -/
  moved : w.start = start ∧ w.scanned = scanned ∨ 0 < w.start ∧ w.scanned = w.start
  /-- If the line is too long, a newline ends it. -/
  long : w.oversized = true → limit < w.scanned + (buffer.drop w.scanned).idxOf newline
  /-- If the first line is too long, it takes none. -/
  blocked : limit < scanned + (buffer.drop scanned).idxOf newline - start → w.start = start

/-- A walk and a scan that have come to the same. -/
structure Walk.Agrees (buffer : List UInt8) (w : Walk) (s : Scan) : Prop where
  lines : s.lines.reverse = w.lines
  passed : s.passed = w.start
  oversized : s.oversized = w.oversized
  line : w.oversized = false → s.line.reverse = buffer.drop w.start ∧
    s.size = (buffer.drop w.start).length

/-- Bytes without a newline go on the line of a scan. -/
theorem scan_of_notMem {bytes : List UInt8} (h : newline ∉ bytes) (limit : Nat)
    (lines : List (List UInt8)) (passed : Nat) (line rest : List UInt8) :
    scan limit (.on lines passed line) (bytes ++ rest) =
      scan limit (.on lines passed (line ++ bytes)) rest := by
  induction bytes generalizing line with
  | nil => rw [List.append_nil, List.nil_append]
  | cons b bytes ih =>
    obtain ⟨hb, hbytes⟩ := not_or.mp (mt List.mem_cons.mpr h)
    rw [List.cons_append, scan_of_ne (Ne.symm hb), ih hbytes, List.append_assoc,
      List.singleton_append]

theorem scan_newline_of_lt {limit : Nat} {line : List UInt8} (h : limit < line.length)
    (lines : List (List UInt8)) (passed : Nat) (bytes : List UInt8) :
    scan limit (.on lines passed line) (newline :: bytes) =
      {Scan.on lines passed line with oversized := true} := by
  simp [scan, Scan.on, h]

section Walk
variable {buffer : List UInt8} {start scanned : Nat}

/-- The bytes from some place on, up to a newline and behind it. -/
theorem exists_line (hscanned : scanned ≤ buffer.length) (hmem : newline ∈ buffer.drop scanned) :
    ∃ line rest, buffer.drop scanned = line ++ newline :: rest ∧ newline ∉ line ∧
      (buffer.drop scanned).idxOf newline = line.length ∧
      scanned + line.length + 1 ≤ buffer.length ∧
      buffer.drop (scanned + line.length + 1) = rest ∧
      ∀ start ≤ scanned, (buffer.take (scanned + line.length)).drop start =
        (buffer.take scanned).drop start ++ line := by
  obtain ⟨line, rest, hdrop, hline⟩ := List.eq_append_cons_of_mem hmem
  have hlength := congrArg List.length hdrop
  rw [List.length_drop, List.length_append, List.length_cons] at hlength
  refine ⟨line, rest, hdrop, hline, ?_, by omega, ?_, fun start hstart => ?_⟩
  · rw [hdrop, List.idxOf_append, if_neg hline, List.idxOf_cons_self, Nat.zero_add]
  · rw [Nat.add_assoc, ← List.drop_drop, hdrop, List.append_cons]
    exact List.drop_left' (by simp)
  · rw [List.take_add, hdrop, List.take_left, List.drop_append_of_le_length]
    rwa [List.length_take_of_le hscanned]

/-- A walk has no place out of range, and finds what a scan does that has come as far. -/
theorem exists_walk? (limit : Nat) (lines : List (List UInt8)) (hstart : start ≤ scanned)
    (hscanned : scanned ≤ buffer.length) :
    ∃ w, walk? limit buffer lines start scanned = some w ∧ w.Ends limit buffer start scanned ∧
      w.Agrees buffer (scan limit (.on lines.reverse start ((buffer.take scanned).drop start))
        (buffer.drop scanned)) := by
  fun_induction walk? limit buffer lines start scanned with
  | case1 _ _ _ hout => exact absurd hscanned (Nat.not_le.mpr hout)
  | case2 lines start scanned _ hmem stop hout =>
    obtain ⟨line, _, -, -, hidx, hstop, -⟩ := exists_line hscanned hmem
    omega
  | case3 lines start scanned _ hmem stop _ hlong =>
    obtain ⟨line, rest, hdrop, hline, hidx, -⟩ := exists_line hscanned hmem
    have hlength : limit < ((buffer.take scanned).drop start ++ line).length := by
      rw [List.length_append, List.length_drop, List.length_take_of_le hscanned]
      omega
    refine ⟨_, rfl, ⟨hstart, hscanned, .inl ⟨rfl, rfl⟩, fun _ => ?_, fun _ => rfl⟩, ?_⟩
    · exact Nat.lt_of_lt_of_le hlong (Nat.sub_le _ _)
    · rw [hdrop, scan_of_notMem hline, scan_newline_of_lt hlength]
      exact ⟨List.reverse_reverse lines, rfl, rfl, nofun⟩
  | case4 lines start scanned _ hmem stop _ hshort found ih =>
    obtain ⟨line, rest, hdrop, hline, hidx, hstop, hrest, htake⟩ := exists_line hscanned hmem
    have hat : stop = scanned + line.length := congrArg (scanned + ·) hidx
    have hfound : found = (buffer.take scanned).drop start ++ line := by
      rw [← htake start hstart, ← hat]
    have hlength : found.length = stop - start := by
      rw [hfound, List.length_append, List.length_drop, List.length_take_of_le hscanned]
      omega
    have hlines : (lines ++ (nonBlank? found).toList).reverse =
        (nonBlank? found).toList ++ lines.reverse := by
      cases nonBlank? found <;> simp
    rw [← hat] at hstop hrest
    obtain ⟨w, hwalk, hends, hagrees⟩ := ih (Nat.le_refl _) hstop
    refine ⟨w, hwalk, ⟨hends.start_le, hends.scanned_le, .inr ?_, hends.long,
      fun hlong => absurd hlong hshort⟩, ?_⟩
    · rcases hends.moved with ⟨hsame, hsame'⟩ | hmoved
      · omega
      · exact hmoved
    · have hpassed : start + found.length + 1 = stop + 1 := by omega
      rw [hrest, hlines, List.drop_take_self] at hagrees
      rw [hdrop, scan_of_notMem hline, ← hfound, scan_newline (by omega), hpassed]
      exact hagrees
  | case5 lines start scanned _ hnone =>
    refine ⟨_, rfl, ⟨hstart, hscanned, .inl ⟨rfl, rfl⟩, nofun, fun _ => rfl⟩, ?_⟩
    have hscan := scan_of_notMem hnone limit lines.reverse start ((buffer.take scanned).drop start) []
    rw [List.append_nil] at hscan
    rw [hscan, scan]
    have hline : (buffer.take scanned).drop start ++ buffer.drop scanned = buffer.drop start := by
      rw [← List.drop_append_of_le_length, List.take_append_drop]
      rwa [List.length_take_of_le hscanned]
    rw [hline]
    exact ⟨List.reverse_reverse lines, rfl, rfl, fun _ => ⟨List.reverse_reverse _, rfl⟩⟩

end Walk

/-! ### Pushes -/

section
variable {d : LineDecoder}

/-- All that a push can do, and every place that it needs is there. -/
theorem push_cases (h : d.scanned ≤ d.buffer.length) (chunk : List UInt8) :
    d.pushInRange? chunk = some (d.push chunk) ∧
    ∃ w : Walk, w.Ends d.limit (d.buffer ++ chunk) 0 d.scanned ∧
      let rest := (d.buffer ++ chunk).drop w.start
      (w.oversized = true ∧ d.push chunk = (.error (.frameTooLarge d.limit),
          {d with buffer := d.buffer ++ chunk, scanned := w.scanned}) ∨
        d.limit < rest.length ∧ d.push chunk = (.error (.frameTooLarge d.limit),
          {d with buffer := rest, scanned := rest.length}) ∨
        rest.length ≤ d.limit ∧ d.push chunk =
          (.ok w.lines, {d with buffer := rest, scanned := rest.length})) := by
  have hscanned : d.scanned ≤ (d.buffer ++ chunk).length := by
    rw [List.length_append]
    omega
  obtain ⟨⟨lines, start, scanned, oversized⟩, hwalk, hends, hagrees⟩ :=
    exists_walk? d.limit [] (Nat.zero_le d.scanned) hscanned
  have hscan : Scan.on [].reverse 0 (((d.buffer ++ chunk).take d.scanned).drop 0) =
      ⟨[], 0, ((d.buffer ++ chunk).take d.scanned).reverse,
        ((d.buffer ++ chunk).take d.scanned).length, false⟩ := rfl
  rw [hscan] at hagrees
  simp only [pushInRange?, push, hwalk, hagrees.oversized, hagrees.passed]
  cases oversized with
  | true =>
    have hplace : (if start = 0 then d.scanned else start) = scanned := by
      have := hends.moved
      dsimp only at this
      split <;> omega
    simp only [if_true, hplace]
    exact ⟨trivial, _, hends, .inl ⟨rfl, rfl⟩⟩
  | false =>
    obtain ⟨hline, hsize⟩ := hagrees.line rfl
    have hstart : ¬(d.buffer ++ chunk).length < start :=
      Nat.not_lt.mpr (Nat.le_trans hends.start_le hends.scanned_le)
    simp only [hline, hsize, hagrees.lines, if_neg hstart, Bool.false_eq_true, if_false]
    by_cases hlong : d.limit < ((d.buffer ++ chunk).drop start).length
    · simp only [if_pos hlong]
      exact ⟨trivial, _, hends, .inr (.inl ⟨hlong, rfl⟩)⟩
    · simp only [if_neg hlong]
      exact ⟨trivial, _, hends, .inr (.inr ⟨Nat.not_lt.mp hlong, rfl⟩)⟩

theorem scanned_le_push (h : d.scanned ≤ d.buffer.length) (chunk : List UInt8) :
    (d.push chunk).2.scanned ≤ (d.push chunk).2.buffer.length := by
  obtain ⟨-, w, hends, ⟨-, hpush⟩ | ⟨-, hpush⟩ | ⟨-, hpush⟩⟩ := push_cases h chunk
  · rw [hpush]
    exact hends.scanned_le
  · exact Nat.le_of_eq (by rw [hpush])
  · exact Nat.le_of_eq (by rw [hpush])

/-- What a line over the limit leaves behind: from `scanned` on there is no newline within the
first `limit` bytes. -/
structure Clogged (d : LineDecoder) : Prop where
  scanned_le : d.scanned ≤ d.buffer.length
  long : d.limit < d.scanned + (d.buffer.drop d.scanned).idxOf newline

theorem clogged_of_push (h : d.scanned ≤ d.buffer.length) {chunk : List UInt8} {cause : StreamError}
    (herror : (d.push chunk).1 = .error cause) : (d.push chunk).2.Clogged := by
  refine ⟨scanned_le_push h chunk, ?_⟩
  obtain ⟨-, w, hends, ⟨hlong, hpush⟩ | ⟨hlong, hpush⟩ | ⟨-, hpush⟩⟩ := push_cases h chunk <;>
    rw [hpush] at herror ⊢
  · exact hends.long hlong
  · exact Nat.lt_of_lt_of_le hlong (Nat.le_add_right _ _)
  · cases herror

/-- More bytes do not bring a newline any nearer. -/
theorem idxOf_le_idxOf_append (bytes more : List UInt8) :
    bytes.idxOf newline ≤ (bytes ++ more).idxOf newline := by
  rw [List.idxOf_append]
  split
  · exact Nat.le_refl _
  · exact Nat.le_trans List.idxOf_le_length (Nat.le_add_left _ _)

theorem Clogged.push (h : d.Clogged) (chunk : List UInt8) :
    (d.push chunk).1 = .error (.frameTooLarge d.limit) := by
  have hlong : d.limit < d.scanned + ((d.buffer ++ chunk).drop d.scanned).idxOf newline := by
    have hnear := idxOf_le_idxOf_append (d.buffer.drop d.scanned) chunk
    rw [← List.drop_append_of_le_length h.scanned_le] at hnear
    exact Nat.lt_of_lt_of_le h.long (Nat.add_le_add_left hnear _)
  obtain ⟨-, w, hends, ⟨-, hpush⟩ | ⟨-, hpush⟩ | ⟨hshort, -⟩⟩ := push_cases h.scanned_le chunk
  · rw [hpush]
  · rw [hpush]
  · -- The walk would have to take the first line, and that is too long.
    rw [hends.blocked hlong, List.drop_zero] at hshort
    have hidx := List.idxOf_le_length (a := newline) (l := (d.buffer ++ chunk).drop d.scanned)
    have hscanned := h.scanned_le
    rw [List.length_drop] at hidx
    rw [List.length_append] at hshort hidx
    omega

end

/-! ### Pushes and ends -/

/-- What is done to a decoder. -/
inductive Op where
  | push (chunk : List UInt8)
  | finish
  deriving DecidableEq, Repr

def Op.after (d : LineDecoder) : Op → LineDecoder
  | push chunk => (d.push chunk).2
  | finish => d.finish.2

def run (d : LineDecoder) (ops : List Op) : LineDecoder := ops.foldl Op.after d

/-- A decoder with this limit that has looked at no more than it holds. -/
structure Sound (limit : Nat) (d : LineDecoder) : Prop where
  scanned_le : d.scanned ≤ d.buffer.length
  limit_eq : d.limit = limit

theorem sound_new (limit : Nat) : Sound limit (new limit) := ⟨Nat.le_refl 0, rfl⟩

theorem Sound.push {limit : Nat} {d : LineDecoder} (h : Sound limit d) (chunk : List UInt8) :
    Sound limit (d.push chunk).2 :=
  ⟨scanned_le_push h.scanned_le chunk, (limit_push d chunk).trans h.limit_eq⟩

theorem Sound.run {limit : Nat} {d : LineDecoder} (h : Sound limit d) (ops : List Op) :
    Sound limit (d.run ops) := by
  induction ops generalizing d with
  | nil => exact h
  | cons op ops ih =>
    cases op with
    | push chunk => exact ih (h.push chunk)
    | finish => exact ih ⟨Nat.le_refl 0, h.limit_eq⟩

/-- The end of the input leaves a new decoder. -/
theorem Sound.run_finish {limit : Nat} {d : LineDecoder} (h : Sound limit d) (ops : List Op) :
    d.run (ops ++ [.finish]) = new limit := by
  rw [LineDecoder.run, List.foldl_append]
  exact congrArg (LineDecoder.mk [] 0) (h.run ops).limit_eq

theorem Clogged.run {d : LineDecoder} (h : d.Clogged) (chunks : List (List UInt8)) :
    (d.run (chunks.map .push)).Clogged := by
  induction chunks generalizing d with
  | nil => exact h
  | cons chunk chunks ih => exact ih (clogged_of_push h.scanned_le (h.push chunk))

/-- **A line over the limit is not got over before the end of the input.** Whatever was pushed and
ended before: once a push has failed, every later push fails in the same way, whatever it brings and
however many came between, and every place that it needs is in range. The end of the input leaves a
new decoder, then and at any other time. -/
theorem fails_until_finish {limit : Nat} {ops : List Op} {chunk : List UInt8} {cause : StreamError}
    {d : LineDecoder} (hfails : ((new limit).run ops).push chunk = (.error cause, d)) :
    cause = .frameTooLarge limit ∧
    (∀ (chunks : List (List UInt8)) (chunk : List UInt8), ∃ d',
      (d.run (chunks.map .push)).push chunk = (.error (.frameTooLarge limit), d') ∧
      (d.run (chunks.map .push)).pushInRange? chunk = some (.error (.frameTooLarge limit), d')) ∧
    (∀ chunks : List (List UInt8), d.run (chunks.map .push ++ [.finish]) = new limit) ∧
    ∀ ops, (new limit).run (ops ++ [.finish]) = new limit := by
  have hsound : Sound limit ((new limit).run ops) := (sound_new limit).run ops
  have herror : (((new limit).run ops).push chunk).1 = .error cause := by rw [hfails]
  have hd : (((new limit).run ops).push chunk).2 = d := by rw [hfails]
  have hclogged : d.Clogged := hd ▸ clogged_of_push hsound.scanned_le herror
  have hdsound : Sound limit d := hd ▸ hsound.push chunk
  refine ⟨?_, fun chunks chunk => ?_, fun chunks => hdsound.run_finish (chunks.map .push),
    fun ops => (sound_new limit).run_finish ops⟩
  · rw [frameTooLarge_of_push herror, hsound.limit_eq]
  · have hlater := hclogged.run chunks
    have hpush : (d.run (chunks.map .push)).push chunk = (.error (.frameTooLarge limit),
        ((d.run (chunks.map .push)).push chunk).2) := by
      rw [← (hdsound.run (chunks.map .push)).limit_eq, ← hlater.push chunk]
    exact ⟨_, hpush, (push_cases hlater.scanned_le chunk).1.trans (congrArg some hpush)⟩

/-- A chunk finishes a line, and then one that is too long. What stays holds the first line too, and
it is not found again. -/
theorem fails_until_finish_of_two_lines :
    let first : List UInt8 := [0x61, 0x0A, 0x62, 0x63, 0x64, 0x0A, 0x65]
    let d : LineDecoder := ⟨first, 2, 2⟩
    (new 2).push first = (.error (.frameTooLarge 2), d) ∧
      (∃ d', (d.run [.push [], .push [0x0A, 0x66, 0x0A]]).push [0x0A] =
        (.error (.frameTooLarge 2), d')) ∧
      d.run [.push [0x0A], .finish] = new 2 := by
  intro first d
  have hfails : ((new 2).run []).push first = (.error (.frameTooLarge 2), d) := rfl
  obtain ⟨-, hlater, hend, -⟩ := fails_until_finish hfails
  obtain ⟨d', hpush, -⟩ := hlater [[], [0x0A, 0x66, 0x0A]] [0x0A]
  exact ⟨hfails, ⟨d', hpush⟩, hend [[0x0A]]⟩

end LineDecoder

end SnapshotFeed
