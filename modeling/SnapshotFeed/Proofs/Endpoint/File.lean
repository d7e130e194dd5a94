import SnapshotFeed.Proofs.Endpoint.Front

/-! Bases that are files.

A drive first in its path takes the host of a file away, so the host depends on the path, and there
on the text before cleaning. Neither changes when the path of the service, or slashes, follow
(`Follows`). -/
namespace SnapshotFeed.Endpoint
open Url

/-- A text that may follow the path of a file without a say in how that begins. -/
structure Follows (more : List Char) : Prop where
  head : ∀ c ∈ more.head?, c = '/'
  counts : ∀ c ∈ more, isBreak c = false
  unmarked : ∀ c ∈ more, startsQueryOrFragment c = false
  segments : ∀ path, ∃ added, (∀ s ∈ added, Plain s) ∧
    (segmentsOf true (path ++ more)).map (encode pathSet) =
      (segmentsOf true path).map (encode pathSet) ++ added
  alone : ∀ s ∈ (segmentsOf true (afterSlash more)).map (encode pathSet), Plain s
  start : ∀ raw, startOf raw (afterSlash more) = .plain

theorem startOf_eq_plain {path : List Char} (h : isDrive (path.take 2) = false)
    (raw : List Char) : startOf raw path = .plain := by
  unfold startOf
  split
  · rename_i a b c rest
    rw [show isDrive [a, b] = false from h]
    rfl
  · rfl

theorem isDrive_of_startOf {raw path : List Char} (h : startOf raw path = .driveAndName) :
    isDrive (path.take 2) = true := by
  by_contra hdrive
  rw [startOf_eq_plain (by simpa using hdrive)] at h
  cases h

theorem isDrive_slash (rest : List Char) : isDrive ('/' :: rest) = false := by
  unfold isDrive
  split
  · rename_i heq
    rw [← (List.cons.inj heq).1]
    rfl
  · rfl

theorem follows_service : Follows servicePath.toList where
  head := forall_head_service (by rfl)
  counts := forall_mem_service (by decide)
  unmarked := forall_mem_service (by decide)
  segments path := ⟨names, plain_names, segmentsOf_append_service true path⟩
  alone := by
    rw [show afterSlash servicePath.toList = servicePath.toList.tail by decide, segmentsOf_service]
    exact plain_names
  start := startOf_eq_plain (by decide)

theorem plain_nil : Plain [] := ⟨by decide +kernel, by decide +kernel, by decide⟩

theorem plain_slashes (k : Nat) :
    ∀ s ∈ (segmentsOf true (List.replicate k '/')).map (encode pathSet), Plain s := by
  induction k with
  | zero => exact List.forall_mem_cons.mpr ⟨plain_nil, nofun⟩
  | succ k ih => exact List.forall_mem_cons.mpr ⟨plain_nil, ih⟩

theorem afterSlash_slashes (k : Nat) :
    afterSlash (List.replicate k '/') = List.replicate (k - 1) '/' := by
  cases k <;> rfl

theorem follows_slashes (k : Nat) : Follows (List.replicate k '/') where
  head := forall_head_slashes (by rfl) k
  counts := forall_mem_slashes (by rfl) k
  unmarked := forall_mem_slashes (by rfl) k
  segments path := by
    cases k with
    | zero => exact ⟨[], nofun, by simp⟩
    | succ k =>
      refine ⟨_, plain_slashes k, ?_⟩
      rw [List.replicate_succ, segmentsOf, List.splitOnP_append_cons _ _ (by simp), List.map_append]
      rfl
  alone := afterSlash_slashes k ▸ plain_slashes (k - 1)
  start := by
    rw [afterSlash_slashes]
    refine startOf_eq_plain ?_
    rcases k - 1 with _ | _ | k <;> rfl

variable {scheme raw before path more : List Char} {host : Host}

theorem dropCounted_append {text : List Char} (h : ∀ c ∈ text, isBreak c = false) (n : Nat) :
    dropCounted (n + text.length) (text ++ more) = dropCounted n more := by
  induction text with
  | nil => rfl
  | cons c text ih =>
    obtain ⟨hc, htext⟩ := List.forall_mem_cons.mp h
    rw [List.length_cons, ← Nat.add_assoc, List.cons_append, dropCounted, if_neg (by simp [hc]),
      ih htext]

theorem hasBreakBefore_append (hmore : Follows more)
    (hlast : ∀ c ∈ (before ++ more).getLast?, isBlank c = false) (n : Nat) :
    hasBreakBefore (before ++ more) (n + more.length) =
      (dropCounted n (before.dropWhile isBlank).reverse).head?.any isBreak := by
  have hhead : ∀ c ∈ more.head?, isBlank c = false := by
    intro c hc
    rw [hmore.head c hc]
    decide
  rw [hasBreakBefore, trim_eq_of_last hlast, dropWhile_append_stop hhead, List.reverse_append,
    ← @List.length_reverse _ more, dropCounted_append]
  intro c hc
  exact hmore.counts c (List.mem_reverse.mp hc)

/-- How the path of a file begins that goes on. -/
def startWith (before path : List Char) : FileStart :=
  match path with
  | a :: b :: c :: rest =>
    if isDrive [a, b] && !endsAuthority true c &&
        (dropCounted (rest.length + 1) (before.dropWhile isBlank).reverse).head?.any isBreak then
      .driveAndName
    else .plain
  | _ => .plain

theorem startOf_append (hmore : Follows more)
    (hlast : ∀ c ∈ (before ++ more).getLast?, isBlank c = false) (path : List Char) :
    startOf (before ++ more) (path ++ more) = startWith before path := by
  rcases path with _ | ⟨a, _ | ⟨b, _ | ⟨c, rest⟩⟩⟩
  · refine startOf_eq_plain ?_ _
    rcases more with _ | ⟨m, more⟩
    · rfl
    · rw [hmore.head m rfl]
      exact isDrive_slash _
  · refine startOf_eq_plain ?_ _
    rcases more with _ | ⟨m, more⟩
    · rfl
    · rw [hmore.head m rfl]
      simp [isDrive]
  · rcases more with _ | ⟨m, more⟩
    · rfl
    · rw [hmore.head m rfl]
      simp [startOf, startWith, endsAuthority]
  · have hbreak := hasBreakBefore_append hmore hlast (rest.length + 1)
    simp only [List.cons_append, startOf, startWith]
    rw [List.length_append, show rest.length + more.length + 1 = rest.length + 1 + more.length by omega,
      hbreak]

/-- The host that a file keeps. -/
theorem hostOf_withFilePath {start : FileStart}
    (hunmarked : ∀ c ∈ path, startsQueryOrFragment c = false) :
    hostOf (withFilePath scheme host start path) =
      if start ≠ .driveAndName ∧ (readFilePath start path).head?.any isDrive then .none else host := by
  simp only [withFilePath, splitPath_of_unmarked hunmarked, hostOf, Option.map_some,
    Option.getD_some]

theorem hostOf_withFilePath_none {start : FileStart} :
    hostOf (withFilePath scheme .none start path) = .none := by
  unfold withFilePath hostOf
  simp

theorem startsWithDrive_follows (hmore : Follows more) (done : List (List Char)) :
    (resolve true done ((segmentsOf true (path ++ more)).map (encode pathSet))).head?.any isDrive =
      (((segmentsOf true path).map (encode pathSet)).foldl (walk true) done).getLast?.any isDrive := by
  obtain ⟨added, hplain, hsegments⟩ := hmore.segments path
  rw [hsegments, startsWithDrive_append hplain]
  simp [segmentsOf, List.splitOnP_ne_nil]

/-- The host that a file keeps does not depend on what follows its path. -/
theorem exists_hostOf_file {d : List Char} (hd : ∀ c ∈ d, startsQueryOrFragment c = false)
    (hslash : ∀ c ∈ d.head?, isSlash c = true) : ∃ kept, ∀ more, Follows more →
      (∀ c ∈ (before ++ more).getLast?, isBlank c = false) →
      hostOf (withFilePath scheme host (startOf (before ++ more) (afterSlash (d ++ more)))
        (afterSlash (d ++ more))) = kept := by
  rcases d with _ | ⟨s, path⟩
  · refine ⟨host, fun more hmore _ => ?_⟩
    have hunmarked : ∀ c ∈ afterSlash more, startsQueryOrFragment c = false := fun c hc =>
      hmore.unmarked c (mem_of_mem_afterSlash hc)
    have hdrive : (readFilePath .plain (afterSlash more)).head?.any isDrive = false :=
      @startsWithDrive_append [] [] _ hmore.alone (by simp [segmentsOf, List.splitOnP_ne_nil])
    rw [List.nil_append, hmore.start, hostOf_withFilePath hunmarked, hdrive]
    simp
  · have hs : isSlash s = true := hslash s rfl
    have hpath : ∀ more, afterSlash (s :: path ++ more) = path ++ more := fun more => if_pos hs
    have hunmarked : ∀ more, Follows more →
        ∀ c ∈ path ++ more, startsQueryOrFragment c = false := by
      intro more hmore c hc
      rcases List.mem_append.mp hc with hc | hc
      · exact hd c (List.mem_cons_of_mem _ hc)
      · exact hmore.unmarked c hc
    let drives (done : List (List Char)) : Bool :=
      (((segmentsOf true path).map (encode pathSet)).foldl (walk true) done).getLast?.any isDrive
    cases hstart : startWith before path with
    | driveAndName =>
      refine ⟨host, fun more hmore hlast => ?_⟩
      rw [hpath, startOf_append hmore hlast, hstart, hostOf_withFilePath (hunmarked more hmore)]
      simp
    | plain =>
      refine ⟨if drives [] then .none else host, fun more hmore hlast => ?_⟩
      rw [hpath, startOf_append hmore hlast, hstart, hostOf_withFilePath (hunmarked more hmore),
        readFilePath, startsWithDrive_follows hmore]
      simp [drives]
    | afterEmpty =>
      refine ⟨if drives [[]] then .none else host, fun more hmore hlast => ?_⟩
      rw [hpath, startOf_append hmore hlast, hstart, hostOf_withFilePath (hunmarked more hmore),
        readFilePath, startsWithDrive_follows hmore]
      simp [drives]

/-! ### Reading a file -/

section Read
variable {text rest : List Char} {u : Url}

theorem parse_file {read : String}
    (hsplit : splitScheme? (clean read.toList) = some (scheme, rest)) (hfile : isFile scheme = true) :
    parse read = readFile scheme read.toList rest := by
  unfold parse
  rw [hsplit]
  simp only [hfile, if_true]

/-- The host of a file, from the text before its path. -/
def fileHost? (front : List Char) : Except Fault Host :=
  if front = [] then .ok .none else Host.parse front

/-- A file from its host and what follows that. -/
def fileOf (scheme raw : List Char) (tail : List Char) (host : Host) : Url :=
  if host = .none ∨ host = .domain "localhost".toList then
    withFilePath scheme .none .afterEmpty (afterSlash tail)
  else withFilePath scheme host (startOf raw (afterSlash tail)) (afterSlash tail)

theorem portOf_fileOf (tail : List Char) : portOf (fileOf scheme raw tail host) = none := by
  unfold fileOf
  split <;> rfl

theorem hostOf_fileOf_none (tail : List Char) : hostOf (fileOf scheme raw tail .none) = .none := by
  rw [fileOf, if_pos (.inl rfl), hostOf_withFilePath_none]

theorem exists_hostOf_fileOf {tail : List Char}
    (hmarks : ∀ c ∈ tail, startsQueryOrFragment c = false) (houter : Outer true tail) :
    ∃ kept, ∀ more, Follows more → (∀ c ∈ (before ++ more).getLast?, isBlank c = false) →
      hostOf (fileOf scheme (before ++ more) (tail ++ more) host) = kept := by
  by_cases hnone : host = .none ∨ host = .domain "localhost".toList
  · refine ⟨.none, fun more _ _ => ?_⟩
    rw [fileOf, if_pos hnone, hostOf_withFilePath_none]
  · have hslash : ∀ c ∈ tail.head?, isSlash c = true := by
      intro c hc
      have hmark := hmarks c (List.mem_of_mem_head? hc)
      rcases eq_of_endsAuthority (houter c hc) with rfl | rfl | rfl | rfl
      · rfl
      · rfl
      · cases hmark
      · cases hmark
    obtain ⟨kept, hkept⟩ := @exists_hostOf_file scheme before host tail hmarks hslash
    refine ⟨kept, fun more hmore hlast => ?_⟩
    rw [fileOf, if_neg hnone, hkept more hmore hlast]

theorem readFile_slashes {a b : Char} (ha : isSlash a = true) (hb : isSlash b = true)
    (text : List Char) : readFile scheme raw (a :: b :: text) =
      if isDriveSpelling (frontOf true text) then
        .ok (withFilePath scheme .none (startOf raw text) text)
      else (fileHost? (frontOf true text)).map (fileOf scheme raw (tailOf true text)) := by
  have hspan : text.span (!endsAuthority true ·) = (frontOf true text, tailOf true text) :=
    List.span_eq_takeWhile_dropWhile ..
  simp only [readFile, fileHost?, ha, hb, hspan, Bool.and_self, if_true, bind, Except.bind]
  split
  · rfl
  · split
    · rfl
    · cases Host.parse (frontOf true text) with
      | error fault => rfl
      | ok host => exact (apply_ite Except.ok ..).symm

theorem readFile_other
    (h : ∀ a b text, rest = a :: b :: text → ¬(isSlash a = true ∧ isSlash b = true)) :
    readFile scheme raw rest =
      .ok (withFilePath scheme .none (startOf raw (afterSlash rest)) (afterSlash rest)) := by
  unfold readFile
  split
  · rename_i a b text
    rw [if_neg (by simpa using h a b text rfl)]
  · rfl

theorem exists_of_map {α β : Type} {x : Except Fault α} {f : α → β} {b : β}
    (h : x.map f = .ok b) : ∃ a, x = .ok a ∧ f a = b := by
  cases x with
  | error fault => cases h
  | ok a => exact ⟨a, rfl, Except.ok.inj h⟩

theorem keepsMarks_tailOf (text : List Char) : KeepsMarks text (tailOf true text) :=
  keepsMarks_of_readAuthority (List.dropWhile_suffix _) fun _ => mem_tailOf

theorem afterSlash_of_frontOf (h : frontOf true text ≠ []) (more : List Char) :
    afterSlash (text ++ more) = text ++ more := by
  cases text with
  | nil => exact absurd rfl h
  | cons c text =>
    refine if_neg fun hslash => h ?_
    have hends : endsAuthority true c = true := by
      simp only [isSlash, Bool.or_eq_true, beq_iff_eq] at hslash
      rcases hslash with rfl | rfl <;> rfl
    exact List.takeWhile_cons_of_neg (by simp [hends])

theorem scheme_of_readFile (h : readFile scheme raw rest = .ok u) : u.scheme = scheme := by
  by_cases hslashes : ∃ a b t, rest = a :: b :: t ∧ isSlash a = true ∧ isSlash b = true
  · obtain ⟨a, b, t, rfl, ha, hb⟩ := hslashes
    rw [readFile_slashes ha hb] at h
    split at h
    · cases h
      rfl
    · obtain ⟨host, -, rfl⟩ := exists_of_map h
      unfold fileOf
      split <;> rfl
  · rw [readFile_other fun a b t heq hboth => hslashes ⟨a, b, t, heq, hboth⟩] at h
    cases h
    rfl

theorem not_appends_of_lastSegment_file {start : FileStart} (hstart : start ≠ .driveAndName) :
    ¬Appends (withFilePath scheme host start (afterSlash lastSegment)) := by
  rintro ⟨hpath, -⟩
  have hsplit : splitPath (afterSlash lastSegment) = (afterSlash lastSegment, []) := by decide
  have hrender : ∀ start, start ≠ .driveAndName →
      renderPath (trimEmpty (readFilePath start (afterSlash lastSegment))) = lastSegment := by
    intro start hstart
    cases start with
    | plain => decide +kernel
    | afterEmpty => decide +kernel
    | driveAndName => exact absurd rfl hstart
  simp only [withFilePath, hsplit, PathPart.render, hrender start hstart] at hpath
  exact absurd hpath.length_le (by decide)

/-- Where no authority starts, none starts when the text goes on, but for a text that is empty. -/
theorem eq_nil_of_no_slashes {a b : Char} {more rest : List Char}
    (hopens : ¬∃ c, text = [c] ∧ isSlash c = true)
    (hslashes : ¬∃ a b t, text = a :: b :: t ∧ isSlash a = true ∧ isSlash b = true)
    (heq : text ++ more = a :: b :: rest) (hboth : isSlash a = true ∧ isSlash b = true) :
    text = [] := by
  rcases text with _ | ⟨c, _ | ⟨d, text⟩⟩
  · rfl
  · obtain ⟨rfl, -⟩ := List.cons.inj heq
    exact absurd ⟨_, rfl, hboth.1⟩ hopens
  · simp only [List.cons_append, List.cons.injEq] at heq
    obtain ⟨rfl, rfl, -⟩ := heq
    exact absurd ⟨_, _, _, rfl, hboth⟩ hslashes

theorem readFile_service (hopens : ¬∃ c, text = [c] ∧ isSlash c = true)
    (hslashes : ¬∃ a b t, text = a :: b :: t ∧ isSlash a = true ∧ isSlash b = true) :
    readFile scheme raw (text ++ servicePath.toList) =
      .ok (withFilePath scheme .none (startOf raw (afterSlash (text ++ servicePath.toList)))
        (afterSlash (text ++ servicePath.toList))) := by
  refine readFile_other fun a b more heq hboth => ?_
  obtain rfl := eq_nil_of_no_slashes hopens hslashes heq hboth
  have hsecond : servicePath.toList.tail.head? = some b := congrArg (·.tail.head?) heq
  obtain rfl : 'f' = b := Option.some.inj hsecond
  exact absurd hboth.2 (by decide)

/-- The path of the service is read as a part of the authority, or from what the front leaves. -/
theorem finishes_of_file {joined : String}
    (hsplit : splitScheme? (clean joined.toList) = some (scheme, text ++ servicePath.toList))
    (hfile : isFile scheme = true) (h : parse joined = .ok u) :
    (OpensAuthority scheme text → ¬Appends u) ∧
      (¬OpensAuthority scheme text →
        ∃ t, Finishes (t ++ servicePath.toList) u ∧ KeepsMarks text t) := by
  rw [parse_file hsplit hfile] at h
  have hopens : OpensAuthority scheme text ↔ ∃ c, text = [c] ∧ isSlash c = true := by
    simp [OpensAuthority, hfile]
  rw [hopens]
  constructor
  · rintro ⟨c, rfl, hc⟩
    rw [service_eq, List.singleton_append, readFile_slashes hc rfl,
      if_neg (by decide : ¬isDriveSpelling (frontOf true servicePath.toList.tail) = true),
      show tailOf true servicePath.toList.tail = lastSegment by decide] at h
    obtain ⟨host, -, rfl⟩ := exists_of_map h
    unfold fileOf
    split
    · exact not_appends_of_lastSegment_file (by decide)
    · rw [startOf_eq_plain (by decide)]
      exact not_appends_of_lastSegment_file (by decide)
  · intro hopens
    by_cases hslashes : ∃ a b t, text = a :: b :: t ∧ isSlash a = true ∧ isSlash b = true
    · obtain ⟨a, b, t, rfl, ha, hb⟩ := hslashes
      have hkeeps : KeepsMarks (a :: b :: t) t :=
        ((KeepsMarks.refl t).cons (not_mark_of_isSlash hb)).cons (not_mark_of_isSlash ha)
      rw [List.cons_append, List.cons_append, readFile_slashes ha hb,
        frontOf_append (outer_service true), tailOf_append (outer_service true)] at h
      split at h
      · rename_i hdrive
        cases h
        have hfront : frontOf true t ≠ [] := by
          rintro hnil
          rw [hnil] at hdrive
          cases hdrive
        have hself := afterSlash_of_frontOf hfront servicePath.toList
        have hfile := @Finishes.file (t ++ servicePath.toList) scheme .none
          (startOf joined.toList (afterSlash (t ++ servicePath.toList))) isDrive_of_startOf
        rw [hself] at hfile
        exact ⟨t, hfile, hkeeps⟩
      · obtain ⟨host, -, rfl⟩ := exists_of_map h
        refine ⟨tailOf true t, ?_, hkeeps.trans (keepsMarks_tailOf t)⟩
        unfold fileOf
        split
        · refine .file fun hdrive => ?_
          cases hdrive
        · exact .file isDrive_of_startOf
    · rw [readFile_service hopens hslashes] at h
      cases h
      exact ⟨text, .file isDrive_of_startOf, .refl text⟩

/-- With slashes after it, the text still names the same host. -/
theorem sharesPlace_of_file {joined base : String} {k : Nat}
    (hsplit : splitScheme? (clean joined.toList) = some (scheme, text ++ servicePath.toList))
    (hbase : splitScheme? (clean base.toList) = some (scheme, text ++ List.replicate k '/'))
    (hjoined : joined.toList = before ++ servicePath.toList)
    (hraw : base.toList = before ++ List.replicate k '/')
    (hlast : ∀ c ∈ base.toList.getLast?, isBlank c = false) (hfile : isFile scheme = true)
    (hmarks : ∀ c ∈ text, startsQueryOrFragment c = false) (hopens : ¬OpensAuthority scheme text)
    (h : parse joined = .ok u) : SharesPlace base u := by
  rw [parse_file hsplit hfile, hjoined] at h
  have hown := parse_file hbase hfile
  rw [hraw] at hown hlast
  by_cases hslashes : ∃ a b t, text = a :: b :: t ∧ isSlash a = true ∧ isSlash b = true
  · obtain ⟨a, b, t, rfl, ha, hb⟩ := hslashes
    rw [List.cons_append, List.cons_append, readFile_slashes ha hb,
      frontOf_append (outer_service true), tailOf_append (outer_service true)] at h
    rw [List.cons_append, List.cons_append, readFile_slashes ha hb,
      frontOf_append (outer_slashes true k), tailOf_append (outer_slashes true k)] at hown
    split at h
    · rename_i hdrive
      rw [if_pos hdrive] at hown
      cases h
      refine ⟨_, hown, ?_, rfl⟩
      rw [hostOf_withFilePath_none, hostOf_withFilePath_none]
    · rename_i hdrive
      rw [if_neg hdrive] at hown
      obtain ⟨host, hhost, rfl⟩ := exists_of_map h
      rw [hhost] at hown
      refine ⟨_, hown, ?_, by rw [portOf_fileOf, portOf_fileOf]⟩
      obtain ⟨kept, hkept⟩ := @exists_hostOf_fileOf scheme before host (tailOf true t)
        (fun c hc => hmarks c (by simp [(List.dropWhile_suffix _).subset hc])) (outer_tailOf true t)
      rw [hkept _ follows_service (not_blank_of_service before), hkept _ (follows_slashes k) hlast]
  · rw [OpensAuthority, hfile, if_pos rfl] at hopens
    rw [readFile_service hopens hslashes] at h
    cases h
    by_cases hboth : ∃ a b more, text ++ List.replicate k '/' = a :: b :: more ∧
        isSlash a = true ∧ isSlash b = true
    · obtain ⟨a, b, more, heq, ha, hb⟩ := hboth
      obtain rfl := eq_nil_of_no_slashes hopens hslashes heq ⟨ha, hb⟩
      have hfront : frontOf true more = [] := frontOf_eq_nil (outer_of_replicate heq)
      rw [heq, readFile_slashes ha hb, hfront] at hown
      refine ⟨_, hown, ?_, by rw [portOf_fileOf]; rfl⟩
      rw [hostOf_fileOf_none, hostOf_withFilePath_none]
    · rw [readFile_other fun a b more heq hab => hboth ⟨a, b, more, heq, hab⟩] at hown
      refine ⟨_, hown, ?_, rfl⟩
      rw [hostOf_withFilePath_none, hostOf_withFilePath_none]

end Read

end SnapshotFeed.Endpoint
