import SnapshotFeed.Proofs.Endpoint.File

/-! Where the path of the service goes.

It is appended to the base as text, before that is read. So it is the end of the URL's path exactly
if the base has no question mark and no hash and is more than the slashes that an authority starts
with, and the host and the port are the base's own then (`appends_iff`). -/
namespace SnapshotFeed.Endpoint
open Url

/-- Of the base, only slashes come before the path of the service, and make it an authority. -/
def Bare (base : String) : Prop :=
  ∃ scheme rest, splitScheme? (clean (join base).toList) = some (scheme, rest ++ servicePath.toList) ∧
    OpensAuthority scheme rest

variable {base : String} {scheme text rest : List Char} {u : Url}

theorem bare_iff
    (h : splitScheme? (clean (join base).toList) = some (scheme, rest ++ servicePath.toList)) :
    Bare base ↔ OpensAuthority scheme rest := by
  refine ⟨?_, fun hopens => ⟨scheme, rest, h, hopens⟩⟩
  rintro ⟨scheme', rest', h', hopens⟩
  rw [h, Option.some.injEq, Prod.mk.injEq] at h'
  rwa [h'.1, List.append_cancel_right h'.2]

/-! ### Marks -/

theorem mem_of_splitScheme? (h : splitScheme? text = some (scheme, rest)) {c : Char}
    (hc : startsQueryOrFragment c = true) : c ∈ rest ↔ c ∈ text := by
  have hmark : isSchemeChar c = false ∧ c ≠ ':' := by
    simp only [startsQueryOrFragment, Bool.or_eq_true, beq_iff_eq] at hc
    rcases hc with rfl | rfl <;> exact ⟨by decide, by decide⟩
  obtain ⟨front, rfl, hfront⟩ := eq_of_splitScheme? h
  refine ⟨fun hrest => by simp [hrest], fun htext => ?_⟩
  rcases List.mem_append.mp htext with hin | hin
  · rw [hfront c hin] at hmark
    cases hmark.1
  · exact (List.mem_cons.mp hin).resolve_left hmark.2

theorem mem_stem {c : Char} (hc : startsQueryOrFragment c = true) :
    c ∈ stem base ↔ c ∈ base.toList := by
  have hmark : isBlank c = false ∧ isBreak c = false ∧ c ≠ '/' := by
    simp only [startsQueryOrFragment, Bool.or_eq_true, beq_iff_eq] at hc
    rcases hc with rfl | rfl <;> exact ⟨by decide, by decide, by decide⟩
  obtain ⟨k, hk⟩ := exists_trimSlashes base.toList
  rw [stem, List.mem_filter, mem_dropWhile_of_not hmark.1]
  constructor
  · rintro ⟨hin, -⟩
    rw [hk]
    exact List.mem_append_left _ hin
  · intro hin
    rw [hk] at hin
    refine ⟨(List.mem_append.mp hin).resolve_right fun hslash => ?_, by simp [hmark.2.1]⟩
    exact hmark.2.2 (List.eq_of_mem_replicate hslash)

theorem keepsMarks_of_stem (h : splitScheme? (stem base) = some (scheme, rest)) :
    KeepsMarks base.toList rest :=
  fun _ hc => (mem_of_splitScheme? h hc).trans (mem_stem hc)

/-! ### Schemes -/

theorem scheme_of_parse {read : String}
    (hsplit : splitScheme? (clean read.toList) = some (scheme, rest))
    (h : parse read = .ok u) : u.scheme = scheme := by
  cases hfile : isFile scheme with
  | true =>
    rw [parse_file hsplit hfile] at h
    exact scheme_of_readFile h
  | false =>
    cases hfront : authorityText? scheme rest with
    | some front =>
      obtain ⟨a, more, -, rfl⟩ := exists_of_parse_front hsplit hfile hfront h
      rfl
    | none =>
      rw [parse_of_none hsplit hfile hfront] at h
      cases h
      split <;> rfl

theorem not_file_of_defaultPort? (h : (defaultPort? scheme).isSome = true) :
    isFile scheme = false ∧ isNamed scheme = true := by
  refine ⟨Bool.eq_false_iff.mpr fun hfile => ?_, by rw [isNamed, h, Bool.true_or]⟩
  rw [isFile, beq_iff_eq] at hfile
  rw [defaultPort?, hfile] at h
  cases h

theorem slash_not_of_scheme : isSchemeChar '/' = false ∧ '/' ≠ ':' := by decide

theorem exists_split_of_ofBase (h : ofBase base = .ok u) : parse (join base) = .ok u ∧
    ∃ scheme rest, splitScheme? (stem base) = some (scheme, rest) ∧
      splitScheme? (clean (join base).toList) = some (scheme, rest ++ servicePath.toList) := by
  have hparse : parse (join base) = .ok u := by
    unfold ofBase at h
    split at h
    · cases h
      assumption
    · cases h
  have hclean := splitScheme?_append (stem base) (forall_head_service slash_not_of_scheme)
  rw [← clean_join] at hclean
  refine ⟨hparse, ?_⟩
  cases hstem : splitScheme? (stem base) with
  | none =>
    rw [hstem] at hclean
    unfold parse at hparse
    rw [hclean] at hparse
    cases hparse
  | some split =>
    rw [hstem] at hclean
    exact ⟨split.1, split.2, rfl, hclean⟩

theorem sharesPlace_of_trimmed {z : List Char}
    (hstem : splitScheme? (stem base) = some (u.scheme, rest))
    (hjoin : splitScheme? (clean (join base).toList) = some (u.scheme, rest ++ servicePath.toList))
    (hz : ∀ c ∈ z, isBlank c = true) (hclean : stem base = clean base.toList ++ z)
    (hdefault : (defaultPort? u.scheme).isSome = true) (hopens : ¬OpensAuthority u.scheme rest)
    (h : parse (join base) = .ok u) : SharesPlace base u := by
  obtain ⟨hfile, hnamed⟩ := not_file_of_defaultPort? hdefault
  have hstop : ∀ c ∈ z.head?, isSchemeChar c = false ∧ c ≠ ':' := fun c hc =>
    of_isBlank (p := fun c => isSchemeChar c = false ∧ c ≠ ':') (by decide)
      (hz c (List.mem_of_mem_head? hc))
  rw [hclean, splitScheme?_append _ hstop] at hstem
  obtain ⟨⟨_, text⟩, hbase, heq⟩ := Option.map_eq_some_iff.mp hstem
  obtain ⟨rfl, rfl⟩ := Prod.mk.inj heq
  rcases List.eq_nil_or_concat z with rfl | ⟨init, last, rfl⟩
  · rw [List.append_nil] at hjoin hopens
    rw [← List.append_nil text] at hbase
    exact @sharesPlace_of_slashes _ _ _ _ _ 0 hjoin hbase hfile hopens h
  · exact sharesPlace_of_blanks hjoin hbase hfile hnamed (by simp) hz hopens h

/-- The base alone names the same place. -/
theorem sharesPlace_of_ofBase (h : ofBase base = .ok u)
    (hend : (defaultPort? u.scheme).isSome = true ∨
      ∀ c ∈ base.toList.getLast?, isBlank c = false)
    (hmarks : ∀ c ∈ base.toList, startsQueryOrFragment c = false) (hbare : ¬Bare base) :
    SharesPlace base u := by
  obtain ⟨hparse, scheme, rest, hstem, hjoin⟩ := exists_split_of_ofBase h
  have hopens : ¬OpensAuthority scheme rest := fun hopens => hbare ⟨scheme, rest, hjoin, hopens⟩
  obtain rfl := scheme_of_parse hjoin hparse
  rcases clean_base base with ⟨k, hraw, hclean⟩ | ⟨⟨c, hc, hblank⟩, z, hz, hclean⟩
  · have hbase : splitScheme? (clean base.toList) =
        some (u.scheme, rest ++ List.replicate k '/') := by
      rw [hclean, splitScheme?_append _ (forall_head_slashes slash_not_of_scheme k), hstem]
      rfl
    cases hfile : isFile u.scheme with
    | false => exact sharesPlace_of_slashes hjoin hbase hfile hopens hparse
    | true =>
      have hlast := hend.resolve_left fun hdefault => by
        rw [(not_file_of_defaultPort? hdefault).1] at hfile
        cases hfile
      have hjoined : (join base).toList = trimSlashes base.toList ++ servicePath.toList := by
        rw [join, String.toList_append, String.toList_ofList]
      exact sharesPlace_of_file hjoin hbase hjoined hraw hlast hfile
        ((keepsMarks_of_stem hstem).unmarked hmarks) hopens hparse
  · -- No blank at the end is lost but under a scheme that has a default port.
    have hdefault := hend.resolve_right fun hlast => by
      rw [hlast c hc] at hblank
      cases hblank
    exact sharesPlace_of_trimmed hstem hjoin hz hclean hdefault hopens hparse

/-- What the front leaves of the base, with the path of the service after it, is what the path is
read from. -/
theorem finishes_of_ofBase (h : ofBase base = .ok u) : (Bare base → ¬Appends u) ∧
    (¬Bare base → ∃ t, Finishes (t ++ servicePath.toList) u ∧ KeepsMarks base.toList t) := by
  obtain ⟨hparse, scheme, rest, hstem, hjoin⟩ := exists_split_of_ofBase h
  have hfinishes : (OpensAuthority scheme rest → ¬Appends u) ∧ (¬OpensAuthority scheme rest →
      ∃ t, Finishes (t ++ servicePath.toList) u ∧ KeepsMarks rest t) := by
    cases hfile : isFile scheme with
    | true => exact finishes_of_file hjoin hfile hparse
    | false => exact finishes_of_front hjoin hfile hparse
  rw [bare_iff hjoin]
  refine ⟨hfinishes.1, fun hopens => ?_⟩
  obtain ⟨t, ht, hkeeps⟩ := hfinishes.2 hopens
  exact ⟨t, ht, (keepsMarks_of_stem hstem).trans hkeeps⟩

/-- **The path of the service is appended to the base exactly if** the base has no question mark and
no hash, and is more than the slashes that an authority starts with: then it is the whole end of the
URL's path. And then the host and the port are those of the base read alone, unless the base ends in
a blank and its scheme has no default port. -/
theorem appends_iff (h : ofBase base = .ok u) :
    (Appends u ↔ (∀ c ∈ base.toList, startsQueryOrFragment c = false) ∧ ¬Bare base) ∧
      (Appends u → ((defaultPort? u.scheme).isSome = true ∨
        ∀ c ∈ base.toList.getLast?, isBlank c = false) → SharesPlace base u) := by
  obtain ⟨hopens, hfinishes⟩ := finishes_of_ofBase h
  have happends : Appends u ↔
      (∀ c ∈ base.toList, startsQueryOrFragment c = false) ∧ ¬Bare base := by
    constructor
    · intro happends
      have hbare : ¬Bare base := fun hbare => hopens hbare happends
      obtain ⟨t, ht, hkeeps⟩ := hfinishes hbare
      refine ⟨fun c hc => ?_, hbare⟩
      by_contra hmark
      rw [Bool.not_eq_false] at hmark
      exact not_appends_of_marked ht ⟨c, (hkeeps c hmark).mpr hc, hmark⟩ happends
    · rintro ⟨hmarks, hbare⟩
      obtain ⟨t, ht, hkeeps⟩ := hfinishes hbare
      exact appends_of_unmarked ht (hkeeps.unmarked hmarks)
  refine ⟨happends, fun hu hend => ?_⟩
  obtain ⟨hmarks, hbare⟩ := happends.mp hu
  exact sharesPlace_of_ofBase h hend hmarks hbare

theorem appends_iff_at_slash : ∃ u, ofBase "http://localhost:8015/" = .ok u ∧
    Appends u ∧ SharesPlace "http://localhost:8015/" u := by
  have hread : ofBase "http://localhost:8015/" = .ok
      ⟨"http".toList, some ⟨[], [], .domain "localhost".toList, some 8015⟩, .segments names, none,
        none⟩ := by decide +kernel
  have hmarks : "http://localhost:8015/".toList.any startsQueryOrFragment = false := by
    decide +kernel
  have hbare : ¬Bare "http://localhost:8015/" := by
    have hslashes : "//localhost:8015".toList.all isSlash = false := by decide +kernel
    rw [@bare_iff _ "http".toList "//localhost:8015".toList (by decide +kernel), OpensAuthority,
      if_neg (by decide +kernel), if_pos (by decide +kernel), ← List.all_eq_true, hslashes]
    exact Bool.false_ne_true
  obtain ⟨happends, hshares⟩ := appends_iff hread
  have hu := happends.mpr
    ⟨fun c hc => Bool.eq_false_iff.mpr (List.any_eq_false.mp hmarks c hc), hbare⟩
  exact ⟨_, hread, hu, hshares hu (.inl rfl)⟩

/-- A query takes the path of the service, and of slashes alone its first segment is the host. -/
theorem not_appends_of_query_or_slashes :
    (∃ u, ofBase "http://localhost:8015?x=1" = .ok u ∧ ¬Appends u) ∧
      ∃ u, ofBase "http://" = .ok u ∧ ¬Appends u ∧ ¬SharesPlace "http://" u ∧
        hostOf u = .domain "flagd.sync.v1.flagsyncservice".toList := by
  refine ⟨?_, ?_⟩
  · have hread : ofBase "http://localhost:8015?x=1" = .ok
        ⟨"http".toList, some ⟨[], [], .domain "localhost".toList, some 8015⟩, .segments [[]],
          some ("x=1".toList ++ servicePath.toList), none⟩ := by decide +kernel
    refine ⟨_, hread, fun happends => ?_⟩
    exact happends.2 _ (.inl rfl) (List.suffix_append ..)
  · have hread : ofBase "http://" = .ok
        ⟨"http".toList, some ⟨[], [], .domain "flagd.sync.v1.flagsyncservice".toList, none⟩,
          .segments ["SyncFlags".toList], none, none⟩ := by decide +kernel
    have halone : parse "http://" = .error .emptyHost := by decide +kernel
    refine ⟨_, hread, fun happends => ?_, fun ⟨v, hv, _⟩ => ?_, rfl⟩
    · exact absurd happends.1.length_le (by decide +kernel)
    · rw [halone] at hv
      cases hv

end SnapshotFeed.Endpoint
