import SnapshotFeed.Proofs.Url.Joining

/-! Paths to which more is appended.

The segments of a path are taken in one after the other (`walk`), so segments that are kept as they
are end the path they are appended to (`resolve_append`), and have no say in whether it starts with
a drive (`startsWithDrive_append`). -/
namespace SnapshotFeed.Url

/-! ### Segments -/

/-- Takes in a segment that is not the last; the segments so far are last first. -/
def walk (file : Bool) (done : List (List Char)) (s : List Char) : List (List Char) :=
  if isDotDot s then dropSegment done
  else if isDot s then done
  else addSegment file done s

/-- A segment that is kept as it is. -/
structure Plain (s : List Char) : Prop where
  notDotDot : isDotDot s = false
  notDot : isDot s = false
  notDrive : isDriveSpelling s = false

section Walk
variable {file : Bool} {done : List (List Char)} {s : List Char} {segments more : List (List Char)}

theorem walk_plain (h : Plain s) : walk file done s = s :: done := by
  simp [walk, addSegment, h.notDotDot, h.notDot, h.notDrive]

/-- After dots the path ends with an empty segment. -/
theorem resolve_concat (file : Bool) (done segments : List (List Char)) (s : List Char) :
    resolve file done (segments ++ [s]) =
      ((if isDotDot s || isDot s then [[]] else []) ++
        walk file (segments.foldl (walk file) done) s).reverse := by
  induction segments generalizing done with
  | nil =>
    rw [List.nil_append, resolve, List.foldl_nil, walk]
    cases isDotDot s <;> cases isDot s <;> rfl
  | cons x segments ih =>
    rw [List.cons_append, List.foldl_cons, ← ih]
    cases hsegments : segments ++ [s] with
    | nil => simp at hsegments
    | cons y ys =>
      rw [resolve, walk]
      · cases isDotDot x <;> cases isDot x <;> rfl
      · simp

theorem foldl_walk_plain (hmore : ∀ s ∈ more, Plain s) (file : Bool) (done : List (List Char)) :
    more.foldl (walk file) done = more.reverse ++ done := by
  induction more generalizing done with
  | nil => rfl
  | cons s more ih =>
    obtain ⟨hs, hmore⟩ := List.forall_mem_cons.mp hmore
    rw [List.foldl_cons, walk_plain hs, ih hmore, List.reverse_cons, List.append_assoc]
    rfl

theorem resolve_append (hmore : ∀ s ∈ more, Plain s) (hne : more ≠ []) :
    resolve file done (segments ++ more) = (segments.foldl (walk file) done).reverse ++ more := by
  obtain ⟨init, s, rfl⟩ := (List.eq_nil_or_concat more).resolve_left hne
  rw [List.concat_eq_append] at hmore ⊢
  have hs : Plain s := hmore s (by simp)
  rw [← List.append_assoc, resolve_concat, List.foldl_append,
    foldl_walk_plain (fun x hx => hmore x (by simp [hx])), walk_plain hs, hs.notDotDot, hs.notDot]
  simp

/-! ### Drives -/

theorem isDriveSpelling_of_isDrive (h : isDrive s = true) : isDriveSpelling s = true := by
  unfold isDrive at h
  split at h
  · exact h
  · cases h

theorem startsWithDrive_resolve (hne : segments ≠ []) :
    (resolve true done segments).head?.any isDrive =
      (segments.foldl (walk true) done).getLast?.any isDrive := by
  obtain ⟨init, s, rfl⟩ := (List.eq_nil_or_concat segments).resolve_left hne
  rw [List.concat_eq_append, resolve_concat, List.foldl_append, List.foldl_cons, List.foldl_nil,
    List.head?_reverse, List.getLast?_append]
  cases (walk true (init.foldl (walk true) done) s).getLast? with
  | none => split <;> rfl
  | some first => rfl

/-- Whether the path of a file starts with a drive is settled by the segments before those that are
kept as they are. -/
theorem startsWithDrive_append (hmore : ∀ s ∈ more, Plain s) (hne : segments ++ more ≠ []) :
    (resolve true done (segments ++ more)).head?.any isDrive =
      (segments.foldl (walk true) done).getLast?.any isDrive := by
  rw [startsWithDrive_resolve hne, List.foldl_append, foldl_walk_plain hmore, List.getLast?_append,
    List.getLast?_reverse]
  cases (segments.foldl (walk true) done).getLast? with
  | some first => rfl
  | none =>
    cases more with
    | nil => rfl
    | cons s more =>
      refine Bool.eq_false_iff.mpr fun hdrive => ?_
      have hnot := (hmore s (List.mem_cons_self ..)).notDrive
      rw [isDriveSpelling_of_isDrive hdrive] at hnot
      cases hnot

end Walk

end SnapshotFeed.Url
