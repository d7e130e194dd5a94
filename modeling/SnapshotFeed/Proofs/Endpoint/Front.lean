import SnapshotFeed.Proofs.Endpoint.Path
import SnapshotFeed.Proofs.Url.Authority

/-! The front of the URL that is read.

Where there are only slashes between the scheme and the path of the service, as many as start an
authority, the first segment of that path is read as the host (`OpensAuthority`). Otherwise the
front ends before it, and the path is read from what the front leaves of the base
(`finishes_of_front`). -/
namespace SnapshotFeed.Endpoint
open Url

/-- The slashes after the scheme start an authority with the path of the service. -/
def OpensAuthority (scheme rest : List Char) : Prop :=
  if isFile scheme then ∃ c, rest = [c] ∧ isSlash c = true
  else if isNamed scheme then ∀ c ∈ rest, isSlash c = true
  else rest = ['/']

/-- What the front leaves of a text has the marks of the text. -/
def KeepsMarks (text rest : List Char) : Prop :=
  ∀ c, startsQueryOrFragment c = true → (c ∈ rest ↔ c ∈ text)

/-- What is left of the path of the service after its first segment. -/
def lastSegment : List Char := '/' :: "SyncFlags".toList

variable {scheme raw text rest : List Char} {a : Authority} {u : Url}

theorem rest_of_service (h : readAuthority scheme servicePath.toList.tail = .ok (a, rest)) :
    rest = lastSegment := by
  obtain ⟨-, user, afterUser, hostText, afterHost, hsplit, hhost, -, hrest⟩ := readAuthority_cases h
  have huser : ∀ named, splitUser? named servicePath.toList.tail = none := by decide
  have hafter : ∀ named, (splitHost named false servicePath.toList.tail).2 = lastSegment := by decide
  rw [huser, Option.getD_none, Prod.mk.injEq] at hsplit
  have hlast : afterHost = lastSegment := by
    rw [← hafter (isNamed scheme), hsplit.2, hhost]
  rcases hrest with ⟨rfl, -⟩ | ⟨afterColon, port, rfl, -⟩
  · exact hlast
  · exact absurd (List.cons.inj hlast).1 (by decide)

theorem not_appends_of_lastSegment {authority : Option Authority} :
    ¬Appends (withPath scheme authority lastSegment) := by
  rintro ⟨hpath, -⟩
  have hsplit : splitPath lastSegment = (lastSegment, []) := by decide
  have hsegments : ∀ named, readPath named "SyncFlags".toList = ["SyncFlags".toList] := by
    decide +kernel
  have hrender : (withPath scheme authority lastSegment).path.render = lastSegment := by
    simp only [withPath, hsplit, PathPart.render]
    simp only [lastSegment, beq_self_eq_true, Bool.true_or, if_true, hsegments]
    rfl
  rw [hrender] at hpath
  exact absurd hpath.length_le (by decide)

/-! ### Marks -/

theorem KeepsMarks.refl (text : List Char) : KeepsMarks text text := fun _ _ => Iff.rfl

theorem KeepsMarks.trans {t : List Char} (h : KeepsMarks text rest) (h' : KeepsMarks rest t) :
    KeepsMarks text t := fun c hc => (h' c hc).trans (h c hc)

theorem KeepsMarks.cons {c : Char} (hc : startsQueryOrFragment c = false)
    (h : KeepsMarks text rest) : KeepsMarks (c :: text) rest := by
  intro d hd
  rw [h d hd, List.mem_cons, or_iff_right]
  rintro rfl
  rw [hd] at hc
  cases hc

theorem KeepsMarks.unmarked (h : KeepsMarks text rest)
    (hmarks : ∀ c ∈ text, startsQueryOrFragment c = false) :
    ∀ c ∈ rest, startsQueryOrFragment c = false := by
  intro c hc
  by_contra hmark
  rw [Bool.not_eq_false] at hmark
  rw [hmarks c ((h c hmark).mp hc)] at hmark
  cases hmark

theorem not_mark_of_isSlash {c : Char} (h : isSlash c = true) : startsQueryOrFragment c = false := by
  simp only [isSlash, Bool.or_eq_true, beq_iff_eq] at h
  rcases h with rfl | rfl <;> rfl

theorem keepsMarks_dropWhile (text : List Char) : KeepsMarks text (text.dropWhile isSlash) := by
  intro c hc
  refine mem_dropWhile_of_not (Bool.eq_false_iff.mpr fun hslash => ?_)
  rw [not_mark_of_isSlash hslash] at hc
  cases hc

theorem keepsMarks_of_readAuthority {named : Bool} {t : List Char} (hsuffix : t <:+ text)
    (hends : ∀ c ∈ text, endsAuthority named c = true → c ∈ t) : KeepsMarks text t := by
  intro c hc
  refine ⟨fun h => hsuffix.subset h, fun h => hends c h ?_⟩
  simp only [startsQueryOrFragment, Bool.or_eq_true, beq_iff_eq] at hc
  rcases hc with rfl | rfl <;> rfl

/-! ### Schemes that are no file's -/

/-- The text that an authority starts, if the slashes after the scheme start one. -/
def authorityText? (scheme rest : List Char) : Option (List Char) :=
  if isNamed scheme then some (rest.dropWhile isSlash)
  else
    match rest with
    | '/' :: '/' :: text => some text
    | _ => none

theorem authorityText?_named (hnamed : isNamed scheme = true) (rest : List Char) :
    authorityText? scheme rest = some (rest.dropWhile isSlash) := if_pos hnamed

theorem authorityText?_slashes (hnamed : isNamed scheme = false) (rest : List Char) :
    authorityText? scheme ('/' :: '/' :: rest) = some rest := by
  simp [authorityText?, hnamed]

theorem authorityText?_eq_none (hnamed : isNamed scheme = false)
    (hrest : ∀ front, rest ≠ '/' :: '/' :: front) : authorityText? scheme rest = none := by
  unfold authorityText?
  rw [if_neg (by simp [hnamed])]
  split
  · exact absurd rfl (hrest _)
  · rfl

theorem not_named_of_authorityText?_none (h : authorityText? scheme rest = none) :
    isNamed scheme = false := by
  cases hnamed : isNamed scheme with
  | true =>
    rw [authorityText?_named hnamed] at h
    cases h
  | false => rfl

theorem parse_eq {text : String} (hsplit : splitScheme? (clean text.toList) = some (scheme, rest))
    (hfile : isFile scheme = false) :
    parse text =
      match authorityText? scheme rest with
      | some front => (readAuthority scheme front).map fun (a, more) => withPath scheme (some a) more
      | none => .ok (if rest.head? = some '/' then withPath scheme none rest
          else withOpaquePath scheme rest) := by
  unfold parse
  rw [hsplit]
  simp only [hfile, Bool.false_eq_true, if_false]
  cases hnamed : isNamed scheme with
  | true =>
    rw [authorityText?_named hnamed]
    cases hread : readAuthority scheme (rest.dropWhile isSlash) <;>
      simp [hread, bind, Except.bind, Except.map]
  | false =>
    simp only [Bool.false_eq_true, if_false]
    split
    · rename_i front
      rw [authorityText?_slashes hnamed]
      cases hread : readAuthority scheme front <;> simp [hread, bind, Except.bind, Except.map]
    · rename_i hno
      rw [authorityText?_eq_none hnamed fun front h => hno front (List.cons.inj h).2]
      rfl
    · rename_i hno
      rw [authorityText?_eq_none hnamed fun front h => hno _ h]
      have hhead : rest.head? ≠ some '/' := fun h => by
        obtain ⟨more, hmore⟩ := List.head?_eq_some_iff.mp h
        exact hno _ hmore
      simp only [hhead, if_false]

section Parse
variable {front more : List Char} {read : String}
  (hsplit : splitScheme? (clean read.toList) = some (scheme, rest)) (hfile : isFile scheme = false)
include hsplit hfile

theorem parse_of_front (hfront : authorityText? scheme rest = some front)
    (hread : readAuthority scheme front = .ok (a, more)) :
    parse read = .ok (withPath scheme (some a) more) := by
  rw [parse_eq hsplit hfile, hfront]
  dsimp only
  rw [hread]
  rfl

theorem exists_of_parse_front (hfront : authorityText? scheme rest = some front)
    (h : parse read = .ok u) :
    ∃ a more, readAuthority scheme front = .ok (a, more) ∧ u = withPath scheme (some a) more := by
  rw [parse_eq hsplit hfile, hfront] at h
  dsimp only at h
  cases hread : readAuthority scheme front with
  | error fault =>
    rw [hread] at h
    cases h
  | ok split =>
    rw [hread] at h
    exact ⟨split.1, split.2, rfl, (Except.ok.inj h).symm⟩

theorem parse_of_none (hfront : authorityText? scheme rest = none) :
    parse read = .ok (if rest.head? = some '/' then withPath scheme none rest
      else withOpaquePath scheme rest) := by
  rw [parse_eq hsplit hfile, hfront]

end Parse

/-- What may follow the scheme and what is appended to it: an authority that starts before stays
the same text, and goes on. -/
theorem authorityText?_append {front : List Char} (h : authorityText? scheme text = some front)
    (hopens : isNamed scheme = true → ¬∀ c ∈ text, isSlash c = true) (more : List Char) :
    authorityText? scheme (text ++ more) = some (front ++ more) := by
  cases hnamed : isNamed scheme with
  | true =>
    rw [authorityText?_named hnamed] at h ⊢
    cases h
    rw [List.dropWhile_append, if_neg]
    simpa [List.dropWhile_eq_nil_iff] using hopens hnamed
  | false =>
    by_cases hslashes : ∃ front, text = '/' :: '/' :: front
    · obtain ⟨front, rfl⟩ := hslashes
      rw [authorityText?_slashes hnamed] at h
      cases h
      exact authorityText?_slashes hnamed _
    · rw [authorityText?_eq_none hnamed fun front h => hslashes ⟨front, h⟩] at h
      cases h

theorem authorityText?_opens (hfile : isFile scheme = false) (h : OpensAuthority scheme text) :
    authorityText? scheme (text ++ servicePath.toList) = some servicePath.toList.tail := by
  unfold OpensAuthority at h
  rw [hfile] at h
  cases hnamed : isNamed scheme with
  | true =>
    have hall : ∀ c ∈ text, isSlash c = true := by simpa [hnamed] using h
    rw [authorityText?_named hnamed, List.dropWhile_append, List.dropWhile_eq_nil_iff.mpr hall]
    decide
  | false =>
    obtain rfl : text = ['/'] := by simpa [hnamed] using h
    rw [service_eq]
    exact authorityText?_slashes hnamed _

/-- Where no authority starts, none starts when the text goes on, but for a text that is empty. -/
theorem eq_nil_of_authorityText?_none (hfile : isFile scheme = false)
    (hopens : ¬OpensAuthority scheme text) (h : authorityText? scheme text = none)
    {more front : List Char} (heq : text ++ more = '/' :: '/' :: front) : text = [] := by
  have hnamed := not_named_of_authorityText?_none h
  rcases text with _ | ⟨c, _ | ⟨d, text⟩⟩
  · rfl
  · obtain ⟨rfl, -⟩ := List.cons.inj heq
    exact absurd (by simp [OpensAuthority, hfile, hnamed]) hopens
  · simp only [List.cons_append, List.cons.injEq] at heq
    obtain ⟨rfl, rfl, -⟩ := heq
    rw [authorityText?_slashes hnamed] at h
    cases h

theorem authorityText?_none (hfile : isFile scheme = false) (hopens : ¬OpensAuthority scheme text)
    (h : authorityText? scheme text = none) :
    authorityText? scheme (text ++ servicePath.toList) = none := by
  refine authorityText?_eq_none (not_named_of_authorityText?_none h) fun front heq => ?_
  obtain rfl := eq_nil_of_authorityText?_none hfile hopens h heq
  have hhead : servicePath.toList.tail.head? = some '/' := congrArg (·.tail.head?) heq
  exact absurd hhead (by decide)

theorem not_slashes_of_not_opens (hfile : isFile scheme = false)
    (h : ¬OpensAuthority scheme text) : isNamed scheme = true → ¬∀ c ∈ text, isSlash c = true := by
  intro hnamed
  simpa [OpensAuthority, hfile, hnamed] using h

theorem keepsMarks_of_authorityText? {front : List Char}
    (h : authorityText? scheme text = some front) : KeepsMarks text front := by
  cases hnamed : isNamed scheme with
  | true =>
    rw [authorityText?_named hnamed] at h
    cases h
    exact keepsMarks_dropWhile text
  | false =>
    by_cases hslashes : ∃ front, text = '/' :: '/' :: front
    · obtain ⟨front, rfl⟩ := hslashes
      rw [authorityText?_slashes hnamed] at h
      cases h
      exact ((KeepsMarks.refl _).cons rfl).cons rfl
    · rw [authorityText?_eq_none hnamed fun front h => hslashes ⟨front, h⟩] at h
      cases h

theorem outer_service (named : Bool) : Outer named servicePath.toList :=
  forall_head_service (by cases named <;> rfl)

theorem service_ne_nil : servicePath.toList ≠ [] := by decide

theorem tailOf_service_ne_nil (named : Bool) (text : List Char) :
    tailOf named (text ++ servicePath.toList) ≠ [] := by
  rw [tailOf_append (outer_service named)]
  exact List.append_ne_nil_of_right_ne_nil _ service_ne_nil

/-- The path of the service is read as a part of the authority, or from what the front leaves. -/
theorem finishes_of_front {joined : String}
    (hsplit : splitScheme? (clean joined.toList) = some (scheme, text ++ servicePath.toList))
    (hfile : isFile scheme = false) (h : parse joined = .ok u) :
    (OpensAuthority scheme text → ¬Appends u) ∧
      (¬OpensAuthority scheme text →
        ∃ t, Finishes (t ++ servicePath.toList) u ∧ KeepsMarks text t) := by
  constructor
  · intro hopens
    obtain ⟨a, rest, hread, rfl⟩ :=
      exists_of_parse_front hsplit hfile (authorityText?_opens hfile hopens) h
    rw [rest_of_service hread]
    exact not_appends_of_lastSegment
  · intro hopens
    cases hfront : authorityText? scheme text with
    | none =>
      rw [parse_of_none hsplit hfile (authorityText?_none hfile hopens hfront)] at h
      refine ⟨text, ?_, .refl text⟩
      rw [← Except.ok.inj h]
      split
      · exact .segments
      · exact .opaqueText
    | some front =>
      obtain ⟨a, rest, hread, rfl⟩ := exists_of_parse_front hsplit hfile
        (authorityText?_append hfront (not_slashes_of_not_opens hfile hopens) _) h
      obtain ⟨t, rfl, hsuffix, hends⟩ :=
        exists_rest_of_readAuthority (outer_service _) service_ne_nil hread
      exact ⟨t, .segments, (keepsMarks_of_authorityText? hfront).trans
        (keepsMarks_of_readAuthority hsuffix hends)⟩

/-! ### The host and the port -/

/-- The host of a URL, if it has one. -/
def hostOf (u : Url) : Host := (u.authority.map (·.host)).getD .none

/-- The port of a URL, if it has one that is not its scheme's own. -/
def portOf (u : Url) : Option Nat := u.authority.bind (·.port)

/-- The base alone is a URL, with the host and the port of this one. -/
def SharesPlace (base : String) (u : Url) : Prop :=
  ∃ v, parse base = .ok v ∧ hostOf u = hostOf v ∧ portOf u = portOf v

theorem readAuthority_outer (hnamed : isNamed scheme = false) (h : Outer false text) :
    readAuthority scheme text = .ok (⟨[], [], .none, none⟩, text) := by
  have hempty : readAuthority scheme [] = .ok (⟨[], [], .none, none⟩, []) := by
    unfold readAuthority
    rw [hnamed]
    rfl
  have happend := @readAuthority_append [] text scheme nofun (hnamed ▸ h) (.inr nofun)
  rwa [hempty] at happend

theorem outer_slashes (named : Bool) (k : Nat) : Outer named (List.replicate k '/') :=
  forall_head_slashes (by cases named <;> rfl) k

theorem outer_of_replicate {named : Bool} {k : Nat} {x y : Char}
    (h : List.replicate k '/' = x :: y :: text) : Outer named text := by
  intro c hc
  have hmem : c ∈ List.replicate k '/' := by simp [h, List.mem_of_mem_head? hc]
  exact forall_mem_slashes (p := (endsAuthority named · = true)) (by cases named <;> rfl) k c hmem

/-- With slashes after it, the text still names the same place. -/
theorem sharesPlace_of_slashes {joined base : String} {k : Nat}
    (hsplit : splitScheme? (clean joined.toList) = some (scheme, text ++ servicePath.toList))
    (hbase : splitScheme? (clean base.toList) = some (scheme, text ++ List.replicate k '/'))
    (hfile : isFile scheme = false) (hopens : ¬OpensAuthority scheme text)
    (h : parse joined = .ok u) : SharesPlace base u := by
  cases hfront : authorityText? scheme text with
  | some front =>
    have hslashes := not_slashes_of_not_opens hfile hopens
    obtain ⟨a, rest, hread, rfl⟩ :=
      exists_of_parse_front hsplit hfile (authorityText?_append hfront hslashes _) h
    have hsame : frontOf (isNamed scheme) (front ++ List.replicate k '/') =
        frontOf (isNamed scheme) (front ++ servicePath.toList) := by
      rw [frontOf_append (outer_slashes _ k), frontOf_append (outer_service _)]
    obtain ⟨rest', hread'⟩ := readAuthority_same (tailOf_service_ne_nil _ _) hread hsame
    exact ⟨_, parse_of_front hbase hfile (authorityText?_append hfront hslashes _) hread', rfl, rfl⟩
  | none =>
    have hnone : hostOf u = .none ∧ portOf u = none := by
      rw [parse_of_none hsplit hfile (authorityText?_none hfile hopens hfront)] at h
      rw [← Except.ok.inj h]
      split <;> exact ⟨rfl, rfl⟩
    have hnamed := not_named_of_authorityText?_none hfront
    by_cases hslashes : ∃ front, text ++ List.replicate k '/' = '/' :: '/' :: front
    · obtain ⟨front, heq⟩ := hslashes
      have hfront' : authorityText? scheme (text ++ List.replicate k '/') = some front := by
        rw [heq, authorityText?_slashes hnamed]
      obtain rfl := eq_nil_of_authorityText?_none hfile hopens hfront heq
      have houter : Outer false front := outer_of_replicate heq
      exact ⟨_, parse_of_front hbase hfile hfront' (readAuthority_outer hnamed houter), hnone⟩
    · have hfront' := authorityText?_eq_none hnamed fun front heq => hslashes ⟨front, heq⟩
      refine ⟨_, parse_of_none hbase hfile hfront', ?_⟩
      rw [hnone.1, hnone.2]
      split <;> exact ⟨rfl, rfl⟩

/-- Under a scheme with names for hosts, blanks after the text are refused or have no part in the
authority. -/
theorem sharesPlace_of_blanks {joined base : String} {z : List Char}
    (hsplit : splitScheme? (clean joined.toList) = some (scheme, text ++ z ++ servicePath.toList))
    (hbase : splitScheme? (clean base.toList) = some (scheme, text))
    (hfile : isFile scheme = false) (hnamed : isNamed scheme = true) (hne : z ≠ [])
    (hz : ∀ c ∈ z, isBlank c = true) (hopens : ¬OpensAuthority scheme (text ++ z))
    (h : parse joined = .ok u) : SharesPlace base u := by
  have hplain : ∀ c ∈ z, isSlash c = false ∧ ∀ named, endsAuthority named c = false := fun c hc =>
    of_isBlank (p := fun c => isSlash c = false ∧ ∀ named, endsAuthority named c = false)
      (by decide) (hz c hc)
  have hdrop : (text ++ z).dropWhile isSlash = text.dropWhile isSlash ++ z :=
    dropWhile_append_stop (fun c hc => (hplain c (List.mem_of_mem_head? hc)).1) text
  have hfront := authorityText?_named hnamed (text ++ z)
  rw [hdrop] at hfront
  obtain ⟨a, rest, hread, rfl⟩ := exists_of_parse_front hsplit hfile
    (authorityText?_append hfront (not_slashes_of_not_opens hfile hopens) _) h
  have htail := tailOf_service_ne_nil (isNamed scheme) (text.dropWhile isSlash ++ z)
  have hservice := frontOf_append (outer_service (isNamed scheme)) (text.dropWhile isSlash ++ z)
  by_cases hinner : Inner (isNamed scheme) (text.dropWhile isSlash)
  · -- The blanks are the end of the authority.
    exfalso
    have hall : Inner (isNamed scheme) (text.dropWhile isSlash ++ z) := by
      intro c hc
      rcases List.mem_append.mp hc with hc | hc
      · exact hinner c hc
      · exact (hplain c hc).2 _
    obtain ⟨-, q, hq, -⟩ := readAuthority_frontOf htail hread
    rw [hservice, frontOf_of_inner hall] at hq
    obtain ⟨init, c, rfl⟩ := (List.eq_nil_or_concat z).resolve_left hne
    rw [List.concat_eq_append, ← List.append_assoc] at hq hall
    exact readAuthority_concat_blank hnamed (hz c (by simp)) hall hq
  · have hsame : frontOf (isNamed scheme) (text.dropWhile isSlash) =
        frontOf (isNamed scheme) (text.dropWhile isSlash ++ z ++ servicePath.toList) := by
      rw [hservice, frontOf_append_of_not_inner hinner]
    obtain ⟨rest', hread'⟩ := readAuthority_same htail hread hsame
    exact ⟨_, parse_of_front hbase hfile (authorityText?_named hnamed text) hread', rfl, rfl⟩

end SnapshotFeed.Endpoint
