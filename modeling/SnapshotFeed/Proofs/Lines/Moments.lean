import SnapshotFeed.Proofs.Lines.Buffer
import SnapshotFeed.Proofs.Steps

/-! What the decoder holds at every moment.

A push is taken apart into the moments it comes to, from the chunk put behind the buffer to the
answer. A step that needs a place which the buffer does not have leads nowhere. There is no such
step: the line at hand begins no later than the bytes still to be looked at, and these are in the
buffer (`InRange`), so a push goes on to its answer (`exists_answer`) and looks at each byte from
`scanned` on once. Between two calls a decoder is `Clogged`, or else `Clear`: it holds an open line
that is short enough and all looked at. `stays_in_bounds` says what follows for the places and for
the size of the buffer. -/
namespace SnapshotFeed

namespace LineDecoder

/-! ### Moments of a push -/

/-- A push between two of its steps; `d` is the decoder as it is by then. -/
inductive Moment where
  /-- It looks for the newline of the line that begins at `start`. -/
  | looking (lines : List (List UInt8)) (start : Nat) (d : LineDecoder)
  /-- That newline is at `stop`. -/
  | found (lines : List (List UInt8)) (start stop : Nat) (d : LineDecoder)
  /-- There is none. -/
  | leaving (lines : List (List UInt8)) (start : Nat) (d : LineDecoder)
  | answered (answer : Except StreamError (List (List UInt8))) (d : LineDecoder)

namespace Moment

def decoder : Moment → LineDecoder
  | looking _ _ d | found _ _ _ d | leaving _ _ d | answered _ d => d

/-- The next moment, and the bytes looked at for a newline on the way. There is none after the
answer, nor if a slice, a difference or a removal is out of range. -/
def next? : Moment → Option (List UInt8 × Moment)
  | looking lines start d =>
    if d.buffer.length < d.scanned then none
    else
      let ahead := d.buffer.drop d.scanned
      if newline ∈ ahead then
        let offset := ahead.idxOf newline
        some (ahead.take (offset + 1), found lines start (d.scanned + offset) d)
      else some (ahead, leaving lines start d)
  | found lines start stop d =>
    if stop < start then none
    else if d.limit < stop - start then some ([], answered (.error (.frameTooLarge d.limit)) d)
    else if d.buffer.length < stop then none
    else
      let line := (d.buffer.take stop).drop start
      some ([], looking (lines ++ (nonBlank? line).toList) (stop + 1) {d with scanned := stop + 1})
  | leaving lines start d =>
    if d.buffer.length < start then none
    else
      let rest := d.buffer.drop start
      let d := {d with buffer := rest, scanned := rest.length}
      if d.limit < rest.length then some ([], answered (.error (.frameTooLarge d.limit)) d)
      else some ([], answered (.ok lines) d)
  | answered _ _ => none

def Leads (m : Moment) (bytes : List UInt8) (m' : Moment) : Prop := m.next? = some (bytes, m')

/-- The places of a moment are in the buffer, and in order. -/
def InRange : Moment → Prop
  | looking _ start d | leaving _ start d => start ≤ d.scanned ∧ d.scanned ≤ d.buffer.length
  | found _ start stop d => start ≤ d.scanned ∧ d.scanned ≤ stop ∧ stop < d.buffer.length
  | answered _ d => d.scanned ≤ d.buffer.length

/-- The bytes still to be looked at. -/
def ahead : Moment → List UInt8
  | looking _ _ d => d.buffer.drop d.scanned
  | found _ _ stop d => d.buffer.drop (stop + 1)
  | leaving _ _ _ | answered _ _ => []

/-- The most steps that are left: two for each newline ahead, and two at the end. -/
def stepsLeft (m : Moment) : Nat :=
  2 * m.ahead.count newline +
    match m with
    | looking _ _ _ => 2
    | found _ _ _ _ => 3
    | leaving _ _ _ => 1
    | answered _ _ => 0

section
variable {m m' : Moment} {bytes : List UInt8} {lines : List (List UInt8)} {start : Nat}
  {d : LineDecoder}

theorem leads_found (hscanned : ¬d.buffer.length < d.scanned)
    (hmem : newline ∈ d.buffer.drop d.scanned) :
    (looking lines start d).Leads
      ((d.buffer.drop d.scanned).take ((d.buffer.drop d.scanned).idxOf newline + 1))
      (found lines start (d.scanned + (d.buffer.drop d.scanned).idxOf newline) d) := by
  rw [Leads, next?, if_neg hscanned, if_pos hmem]

theorem not_leads_answered {answer : Except StreamError (List (List UInt8))} :
    ¬(answered answer d).Leads bytes m' := nofun

theorem Leads.eq {m₁ m₂ : Moment} {bytes₁ bytes₂ : List UInt8} (h₁ : m.Leads bytes₁ m₁)
    (h₂ : m.Leads bytes₂ m₂) : bytes₁ = bytes₂ ∧ m₁ = m₂ := by
  cases Option.some.inj (h₁.symm.trans h₂)
  exact ⟨rfl, rfl⟩

/-- All that a step can do. -/
theorem Leads.cases (h : m.Leads bytes m') :
    (∃ lines start stop d, m = looking lines start d ∧ m' = found lines start stop d ∧
      d.scanned ≤ stop ∧ stop < d.buffer.length ∧
      bytes ++ d.buffer.drop (stop + 1) = d.buffer.drop d.scanned ∧ newline ∈ bytes) ∨
    (∃ lines start d, m = looking lines start d ∧ m' = leaving lines start d ∧
      bytes = d.buffer.drop d.scanned) ∨
    (∃ lines start stop d, m = found lines start stop d ∧
      m' = answered (.error (.frameTooLarge d.limit)) d ∧ bytes = []) ∨
    (∃ lines lines' start stop d, m = found lines start stop d ∧
      m' = looking lines' (stop + 1) {d with scanned := stop + 1} ∧ bytes = []) ∨
    ∃ lines start d answer, m = leaving lines start d ∧ m' = answered answer
      {d with buffer := d.buffer.drop start, scanned := (d.buffer.drop start).length} ∧
      bytes = [] := by
  unfold Leads at h
  cases m with
  | looking lines start d =>
    rw [next?] at h
    split at h
    · cases h
    · next hscanned =>
      dsimp only at h
      split at h
      · next hmem =>
        obtain ⟨line, rest, hdrop, -, hidx, hstop, hrest, -⟩ :=
          exists_line (Nat.not_lt.mp hscanned) hmem
        have htake : (d.buffer.drop d.scanned).take (line.length + 1) = line ++ [newline] := by
          rw [hdrop, List.append_cons]
          exact List.take_left' (by simp)
        rw [hidx, htake] at h
        cases h
        refine .inl ⟨lines, start, _, d, rfl, rfl, Nat.le_add_right _ _, hstop, ?_, by simp⟩
        rw [hrest, hdrop, ← List.append_cons]
      · cases h
        exact .inr (.inl ⟨lines, start, d, rfl, rfl, rfl⟩)
  | found lines start stop d =>
    rw [next?] at h
    repeat' split at h
    all_goals cases h
    · exact .inr (.inr (.inl ⟨lines, start, stop, d, rfl, rfl, rfl⟩))
    · exact .inr (.inr (.inr (.inl ⟨lines, _, start, stop, d, rfl, rfl, rfl⟩)))
  | leaving lines start d =>
    simp only [next?] at h
    repeat' split at h
    all_goals cases h
    all_goals exact .inr (.inr (.inr (.inr ⟨lines, start, d, _, rfl, rfl, rfl⟩)))
  | answered answer d => cases h

theorem InRange.next (hm : m.InRange) (h : m.Leads bytes m') : m'.InRange := by
  obtain ⟨_, _, stop, d, rfl, rfl, hfrom, hto, -⟩ | ⟨_, _, d, rfl, rfl, -⟩ |
    ⟨_, _, stop, d, rfl, rfl, -⟩ | ⟨_, _, _, stop, d, rfl, rfl, -⟩ |
    ⟨_, _, d, _, rfl, rfl, -⟩ := h.cases
  · exact ⟨hm.1, hfrom, hto⟩
  · exact hm
  · exact Nat.le_of_lt (Nat.lt_of_le_of_lt hm.2.1 hm.2.2)
  · exact ⟨Nat.le_refl _, hm.2.2⟩
  · exact Nat.le_refl _

/-- Steps put nothing into the buffer. -/
theorem Leads.buffer_suffix (h : m.Leads bytes m') : m'.decoder.buffer <:+ m.decoder.buffer := by
  obtain ⟨_, _, stop, d, rfl, rfl, -⟩ | ⟨_, _, d, rfl, rfl, -⟩ |
    ⟨_, _, stop, d, rfl, rfl, -⟩ | ⟨_, _, _, stop, d, rfl, rfl, -⟩ |
    ⟨_, start, d, _, rfl, rfl, -⟩ := h.cases
  · exact List.suffix_rfl
  · exact List.suffix_rfl
  · exact List.suffix_rfl
  · exact List.suffix_rfl
  · exact List.drop_suffix start d.buffer

/-- A step looks at the next of the bytes ahead, or refuses a line. -/
theorem Leads.ahead_eq (h : m.Leads bytes m') :
    bytes ++ m'.ahead = m.ahead ∨ bytes = [] ∧ ∃ cause d, m' = answered (.error cause) d := by
  obtain ⟨_, _, stop, d, rfl, rfl, -, -, hbytes, -⟩ | ⟨_, _, d, rfl, rfl, rfl⟩ |
    ⟨_, _, stop, d, rfl, rfl, rfl⟩ | ⟨_, _, _, stop, d, rfl, rfl, rfl⟩ |
    ⟨_, _, d, _, rfl, rfl, rfl⟩ := h.cases
  · exact .inl hbytes
  · exact .inl (List.append_nil _)
  · exact .inr ⟨rfl, _, _, rfl⟩
  · exact .inl rfl
  · exact .inl rfl

theorem Leads.stepsLeft_lt (h : m.Leads bytes m') : m'.stepsLeft < m.stepsLeft := by
  obtain ⟨_, _, stop, d, rfl, rfl, -, -, hbytes, hmem⟩ | ⟨_, _, d, rfl, rfl, -⟩ |
    ⟨_, _, stop, d, rfl, rfl, -⟩ | ⟨_, _, _, stop, d, rfl, rfl, -⟩ |
    ⟨_, _, d, _, rfl, rfl, -⟩ := h.cases
  · have hcount := List.count_pos_iff.mpr hmem
    simp only [stepsLeft, ahead]
    rw [← hbytes, List.count_append]
    omega
  · exact Nat.lt_of_lt_of_le (Nat.lt_succ_self 1) (Nat.le_add_left _ _)
  · exact Nat.succ_pos _
  · exact Nat.lt_succ_self _
  · exact Nat.succ_pos 0

end

end Moment

/-! ### A push is its moments -/

/-- Where the loop of a push ends. -/
def Walk.moment (w : Walk) (limit : Nat) (buffer : List UInt8) : Moment :=
  let d : LineDecoder := ⟨buffer, w.scanned, limit⟩
  if w.oversized then .answered (.error (.frameTooLarge limit)) d else .leaving w.lines w.start d

theorem exists_steps_of_walk? {limit : Nat} {buffer : List UInt8} {lines : List (List UInt8)}
    {start scanned : Nat} {w : Walk} (h : walk? limit buffer lines start scanned = some w) :
    ∃ looked, Steps Moment.Leads (.looking lines start ⟨buffer, scanned, limit⟩) looked
      (w.moment limit buffer) := by
  -- A turn of the walk that takes a line is two steps, and so is one that refuses it.
  fun_induction walk? limit buffer lines start scanned with
  | case1 => cases h
  | case2 => cases h
  | case3 lines start scanned hscanned hmem stop hstop hlong =>
    cases h
    have hrefuse : Moment.Leads (.found lines start stop ⟨buffer, scanned, limit⟩) []
        (.answered (.error (.frameTooLarge limit)) ⟨buffer, scanned, limit⟩) := by
      rw [Moment.Leads, Moment.next?, if_neg (not_or.mp hstop).1, if_pos hlong]
    exact ⟨_, .cons (Moment.leads_found hscanned hmem) (.cons hrefuse .nil)⟩
  | case4 lines start scanned hscanned hmem stop hstop hshort line ih =>
    have htake : Moment.Leads (.found lines start stop ⟨buffer, scanned, limit⟩) []
        (.looking (lines ++ (nonBlank? line).toList) (stop + 1) ⟨buffer, stop + 1, limit⟩) := by
      rw [Moment.Leads, Moment.next?, if_neg (not_or.mp hstop).1, if_neg hshort,
        if_neg (not_or.mp hstop).2]
    obtain ⟨looked, hlooked⟩ := ih h
    exact ⟨_, .cons (Moment.leads_found hscanned hmem) (.cons htake hlooked)⟩
  | case5 lines start scanned hscanned hnone =>
    cases h
    have hmiss : Moment.Leads (.looking lines start ⟨buffer, scanned, limit⟩)
        (buffer.drop scanned) (.leaving lines start ⟨buffer, scanned, limit⟩) := by
      rw [Moment.Leads, Moment.next?, if_neg hscanned, if_neg hnone]
    exact ⟨_, .cons hmiss .nil⟩

/-- A push of `chunk` has come to `m`, and has looked at the bytes `looked` on the way. -/
def Reaches (d : LineDecoder) (chunk : List UInt8) (looked : List (List UInt8)) (m : Moment) :
    Prop :=
  Steps Moment.Leads (.looking [] 0 {d with buffer := d.buffer ++ chunk}) looked m

section
variable {d : LineDecoder} {chunk : List UInt8} {looked : List (List UInt8)} {m : Moment}

/-- A push comes to its answer. -/
theorem exists_reaches_push (h : d.scanned ≤ d.buffer.length) (chunk : List UInt8) :
    ∃ looked, d.Reaches chunk looked (.answered (d.push chunk).1 (d.push chunk).2) := by
  have hpush := (push_cases h chunk).1
  simp only [pushInRange?] at hpush
  split at hpush
  · cases hpush
  · next lines start scanned hwalk =>
    rw [← Option.some.inj hpush]
    exact exists_steps_of_walk? hwalk
  · next lines start scanned hwalk =>
    obtain ⟨looked, hlooked⟩ := exists_steps_of_walk? hwalk
    refine ⟨looked ++ [[]], hlooked.snoc ?_⟩
    simp only [Walk.moment, Bool.false_eq_true, if_false, Moment.Leads, Moment.next?]
    split at hpush
    · cases hpush
    · next hstart =>
      rw [if_neg hstart]
      split at hpush
      · next hlong => rw [← Option.some.inj hpush, if_pos hlong]
      · next hshort => rw [← Option.some.inj hpush, if_neg hshort]

/-- What is known of a push that has come to `m` and has looked at `looked`. -/
structure Underway (d : LineDecoder) (chunk : List UInt8) (looked : List (List UInt8))
    (m : Moment) : Prop where
  inRange : m.InRange
  buffer_suffix : m.decoder.buffer <:+ d.buffer ++ chunk
  /-- It has looked at each byte from `scanned` on, once, unless it has refused a line. -/
  looked_eq : looked.flatten ++ m.ahead = (d.buffer ++ chunk).drop d.scanned ∨
    looked.flatten <+: (d.buffer ++ chunk).drop d.scanned ∧
      ∃ cause d', m = .answered (.error cause) d'
  length_le : looked.length + m.stepsLeft ≤
    2 * ((d.buffer ++ chunk).drop d.scanned).count newline + 2

theorem Underway.next {m' : Moment} {bytes : List UInt8} (h : d.Underway chunk looked m)
    (hstep : m.Leads bytes m') : d.Underway chunk (looked ++ [bytes]) m' := by
  refine ⟨h.inRange.next hstep, hstep.buffer_suffix.trans h.buffer_suffix, ?_, ?_⟩
  · rw [List.flatten_append, List.flatten_singleton]
    obtain hall | ⟨-, _, _, rfl⟩ := h.looked_eq
    · obtain hahead | ⟨rfl, hrefused⟩ := hstep.ahead_eq
      · exact .inl (by rw [List.append_assoc, hahead, hall])
      · rw [List.append_nil]
        exact .inr ⟨⟨m.ahead, hall⟩, hrefused⟩
    · -- After a refusal there is no step.
      exact absurd hstep Moment.not_leads_answered
  · have hless := hstep.stepsLeft_lt
    have hlength := h.length_le
    rw [List.length_append, List.length_singleton]
    omega

theorem Reaches.underway (h : d.Reaches chunk looked m) (hscanned : d.scanned ≤ d.buffer.length) :
    d.Underway chunk looked m := by
  refine h.invariant_along (P := d.Underway chunk) (fun _ _ _ _ hstep hm => hm.next hstep) ?_
  refine ⟨⟨Nat.zero_le _, ?_⟩, List.suffix_rfl, .inl rfl, Nat.le_of_eq (Nat.zero_add _)⟩
  rw [List.length_append]
  exact Nat.le_add_right_of_le hscanned

/-- Wherever a push is, it goes on to its answer: two steps for each newline, and two more. -/
theorem Reaches.exists_answer (h : d.Reaches chunk looked m)
    (hscanned : d.scanned ≤ d.buffer.length) :
    ∃ more, Steps Moment.Leads m more (.answered (d.push chunk).1 (d.push chunk).2) ∧
      (looked ++ more).length ≤ 2 * ((d.buffer ++ chunk).drop d.scanned).count newline + 2 := by
  obtain ⟨all, hall⟩ := exists_reaches_push hscanned chunk
  obtain ⟨more, rfl, hmore⟩ := Steps.exists_rest h hall (fun _ _ _ _ _ => Moment.Leads.eq)
    (fun _ _ => Moment.not_leads_answered)
  exact ⟨more, hmore, (Reaches.underway hall hscanned).length_le⟩

end

/-! ### Between two calls -/

/-- A decoder with this limit that holds an open line, short enough and all looked at. -/
structure Clear (limit : Nat) (d : LineDecoder) : Prop where
  newline_notMem : newline ∉ d.buffer
  scanned_eq : d.scanned = d.buffer.length
  length_le : d.buffer.length ≤ limit
  limit_eq : d.limit = limit

/-- A call that does not fail. -/
def Op.Succeeds (d : LineDecoder) : Op → Prop
  | push chunk => ∃ lines, (d.push chunk).1 = .ok lines
  | finish => True

/-- Calls none of which fails. -/
def Succeed (d : LineDecoder) : List Op → Prop
  | [] => True
  | op :: ops => op.Succeeds d ∧ (op.after d).Succeed ops

section
variable {d : LineDecoder} {limit : Nat}

theorem clear_new (limit : Nat) : Clear limit (new limit) :=
  ⟨List.not_mem_nil, rfl, Nat.zero_le limit, rfl⟩

theorem Clear.eq_holding (h : d.Clear limit) : d = holding limit d.buffer := by
  obtain ⟨buffer, scanned, limit'⟩ := d
  obtain rfl : scanned = buffer.length := h.scanned_eq
  obtain rfl : limit' = limit := h.limit_eq
  rfl

theorem Clear.push (h : d.Clear limit) {chunk : List UInt8} {lines : List (List UInt8)}
    (hok : (d.push chunk).1 = .ok lines) : (d.push chunk).2.Clear limit := by
  rw [h.eq_holding] at hok ⊢
  by_cases hfits : (cut d.buffer chunk).Fits limit
  · rw [push_of_fits hfits]
    exact ⟨newline_notMem_rest h.newline_notMem chunk, rfl, (Cut.fits_iff.mp hfits).2, rfl⟩
  · obtain ⟨d', hfails⟩ := push_of_not_fits hfits
    rw [hfails] at hok
    cases hok

/-- What a push of a clear decoder has to look at is its own chunk. -/
theorem Clear.drop_scanned (h : d.Clear limit) (chunk : List UInt8) :
    (d.buffer ++ chunk).drop d.scanned = chunk :=
  List.drop_left' h.scanned_eq.symm

/-- A call that does not fail leaves a clear decoder, whatever failed before it. -/
theorem Sound.clear_after {op : Op} (hsound : Sound limit d) (h : d.Clear limit ∨ d.Clogged)
    (hop : op.Succeeds d) : (op.after d).Clear limit := by
  cases op with
  | push chunk =>
    obtain ⟨lines, hok⟩ := hop
    obtain hclear | hclogged := h
    · exact hclear.push hok
    · rw [hclogged.push chunk] at hok
      cases hok
  | finish => exact ⟨List.not_mem_nil, rfl, Nat.zero_le limit, hsound.limit_eq⟩

theorem Sound.clear_or_clogged_after (hsound : Sound limit d) (h : d.Clear limit ∨ d.Clogged)
    (op : Op) : (op.after d).Clear limit ∨ (op.after d).Clogged := by
  by_cases hop : op.Succeeds d
  · exact .inl (hsound.clear_after h hop)
  · cases op with
    | push chunk =>
      cases hanswer : (d.push chunk).1 with
      | error cause => exact .inr (clogged_of_push hsound.scanned_le hanswer)
      | ok lines => exact absurd ⟨lines, hanswer⟩ hop
    | finish => exact absurd trivial hop

theorem Sound.clear_or_clogged_run (hsound : Sound limit d) (h : d.Clear limit ∨ d.Clogged)
    (ops : List Op) : (d.run ops).Clear limit ∨ (d.run ops).Clogged := by
  induction ops generalizing d with
  | nil => exact h
  | cons op ops ih => exact ih (hsound.run [op]) (hsound.clear_or_clogged_after h op)

theorem Sound.clear_run (hsound : Sound limit d) (h : d.Clear limit) {ops : List Op}
    (hops : d.Succeed ops) : (d.run ops).Clear limit := by
  induction ops generalizing d with
  | nil => exact h
  | cons op ops ih => exact ih (hsound.run [op]) (hsound.clear_after (.inl h) hops.1) hops.2

end

/-- **The decoder stays within its buffer, and its buffer stays small.** Whatever was pushed and
ended before, failed pushes included: it has looked at no more than it holds. At every moment of a
push the places are in range and in order, and the push goes on to its answer, in two steps for each
newline and two more at most. A call that does not fail leaves no newline and no more than `limit`
bytes in the buffer, all of them looked at, so the next push looks at its own chunk only, and at all
of it if it does not fail. As long as no push has failed, at no moment of the next are there more
bytes in the buffer than `limit` and those of its chunk. -/
theorem stays_in_bounds (limit : Nat) (ops : List Op) :
    let d := (new limit).run ops
    d.scanned ≤ d.buffer.length ∧
    (∀ chunk looked m, d.Reaches chunk looked m → m.InRange ∧
      ∃ more, Steps Moment.Leads m more (.answered (d.push chunk).1 (d.push chunk).2) ∧
        (looked ++ more).length ≤ 2 * ((d.buffer ++ chunk).drop d.scanned).count newline + 2) ∧
    (∀ op : Op, op.Succeeds d → (op.after d).Clear limit ∧
      ∀ chunk looked m, (op.after d).Reaches chunk looked m → looked.flatten <+: chunk ∧
        ∀ lines d', m = .answered (.ok lines) d' → looked.flatten = chunk) ∧
    ((new limit).Succeed ops → d.buffer.length ≤ limit ∧
      ∀ chunk looked m, d.Reaches chunk looked m →
        m.decoder.buffer.length ≤ limit + chunk.length) := by
  intro d
  have hsound : Sound limit d := (sound_new limit).run ops
  have hstate : d.Clear limit ∨ d.Clogged :=
    (sound_new limit).clear_or_clogged_run (.inl (clear_new limit)) ops
  refine ⟨hsound.scanned_le, fun chunk looked m hm => ?_, fun op hop => ?_, fun hops => ?_⟩
  · exact ⟨(hm.underway hsound.scanned_le).inRange, hm.exists_answer hsound.scanned_le⟩
  · have hclear := hsound.clear_after hstate hop
    refine ⟨hclear, fun chunk looked m hm => ?_⟩
    have hlooked := (hm.underway (Nat.le_of_eq hclear.scanned_eq)).looked_eq
    rw [hclear.drop_scanned] at hlooked
    obtain hall | ⟨hfirst, cause, d', rfl⟩ := hlooked
    · refine ⟨⟨m.ahead, hall⟩, ?_⟩
      rintro lines d' rfl
      rwa [Moment.ahead, List.append_nil] at hall
    · exact ⟨hfirst, nofun⟩
  · have hclear : d.Clear limit := (sound_new limit).clear_run (clear_new limit) hops
    refine ⟨hclear.length_le, fun chunk looked m hm => ?_⟩
    have hlength := (hm.underway hsound.scanned_le).buffer_suffix.length_le
    rw [List.length_append] at hlength
    exact Nat.le_trans hlength (Nat.add_le_add_right hclear.length_le _)

/-- The line at hand began in an earlier chunk, and this one makes it too long. The byte behind its
newline is not looked at. -/
theorem stays_in_bounds_at_long_line :
    let d : LineDecoder := ⟨[0x62], 1, 2⟩
    let chunk : List UInt8 := [0x63, 0x64, 0x0A, 0x65]
    let m : Moment := .found [] 0 3 ⟨d.buffer ++ chunk, 1, 2⟩
    (new 2).run [.push [0x61, 0x0A, 0x62]] = d ∧ d.Reaches chunk [[0x63, 0x64, 0x0A]] m ∧
      m.InRange ∧ (∃ more, Steps Moment.Leads m more
        (.answered (.error (.frameTooLarge 2)) ⟨d.buffer ++ chunk, 1, 2⟩)) ∧
      d.Clear 2 ∧ m.decoder.buffer.length ≤ 2 + chunk.length := by
  intro d chunk m
  have hm : d.Reaches chunk [[0x63, 0x64, 0x0A]] m := .cons rfl .nil
  have hfirst : Op.Succeeds (new 2) (.push [0x61, 0x0A, 0x62]) := ⟨[[0x61]], rfl⟩
  obtain ⟨-, hpush, -, hsmall⟩ := stays_in_bounds 2 [.push [0x61, 0x0A, 0x62]]
  obtain ⟨hrange, more, hmore, -⟩ := hpush chunk _ m hm
  obtain ⟨-, -, hafter, -⟩ := stays_in_bounds 2 []
  exact ⟨rfl, hm, hrange, ⟨more, hmore⟩, (hafter _ hfirst).1,
    (hsmall ⟨hfirst, trivial⟩).2 chunk _ m hm⟩

end LineDecoder

end SnapshotFeed
