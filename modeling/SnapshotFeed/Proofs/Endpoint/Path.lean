import Mathlib.Data.List.TakeWhile
import SnapshotFeed.Proofs.Url.Path

/-! The path of the service at the end of a text.

What a URL makes of the text after its front, when that ends with the path of the service: the path
ends with it (`appends_of_unmarked`), unless a question mark or a hash stands before it
(`not_appends_of_marked`). -/
namespace SnapshotFeed.Endpoint
open Url

/-- The path of the service, whole, is the end of the URL's path, and of neither its query nor its
fragment. -/
def Appends (u : Url) : Prop :=
  servicePath.toList <:+ u.path.render ∧
    ∀ part, u.query = some part ∨ u.fragment = some part → ¬servicePath.toList <:+ part

/-- A URL whose path and what follows it are read from this text. -/
inductive Finishes (text : List Char) : Url → Prop where
  | segments {scheme : List Char} {authority : Option Authority} :
    Finishes text (withPath scheme authority text)
  | opaqueText {scheme : List Char} : Finishes text (withOpaquePath scheme text)
  | file {scheme : List Char} {host : Host} {start : FileStart} :
    (start = .driveAndName → isDrive ((afterSlash text).take 2) = true) →
    Finishes text (withFilePath scheme host start (afterSlash text))

theorem service_eq : servicePath.toList = '/' :: servicePath.toList.tail := by decide

/-- The segments of the path of the service. -/
def names : List (List Char) := ["flagd.sync.v1.FlagSyncService".toList, "SyncFlags".toList]

theorem plain_names : ∀ s ∈ names, Plain s := by
  simp only [names, List.forall_mem_cons]
  exact ⟨⟨by decide +kernel, by decide +kernel, by decide⟩,
    ⟨by decide +kernel, by decide +kernel, by decide⟩, nofun⟩

theorem segmentsOf_service (named : Bool) :
    (segmentsOf named servicePath.toList.tail).map (encode pathSet) = names := by
  cases named <;> decide

theorem segmentsOf_append_service (named : Bool) (text : List Char) :
    (segmentsOf named (text ++ servicePath.toList)).map (encode pathSet) =
      (segmentsOf named text).map (encode pathSet) ++ names := by
  rw [service_eq, segmentsOf, List.splitOnP_append_cons _ _ (by simp), List.map_append,
    ← segmentsOf_service named]
  rfl

theorem renderPath_append_names (segments : List (List Char)) :
    servicePath.toList <:+ renderPath (segments ++ names) := by
  rw [renderPath, List.flatMap_append]
  exact List.suffix_append_of_suffix (by decide)

theorem suffix_encode {set : Char → Bool} (hset : encode set servicePath.toList = servicePath.toList)
    (text : List Char) : servicePath.toList <:+ encode set (text ++ servicePath.toList) := by
  rw [encode, List.flatMap_append]
  refine List.suffix_append_of_suffix ?_
  have hself : servicePath.toList.flatMap (encodeChar set) = servicePath.toList := hset
  simp only [hself, List.suffix_refl]

/-! ### Paths -/

theorem exists_readPath (named : Bool) (text : List Char) :
    ∃ before, readPath named (text ++ servicePath.toList) = before ++ names := by
  rw [readPath, segmentsOf_append_service, resolve_append plain_names (List.cons_ne_nil _ _)]
  exact ⟨_, rfl⟩

theorem readPath_service (named : Bool) : readPath named servicePath.toList.tail = names := by
  rw [readPath, segmentsOf_service]
  exact @resolve_append _ [] [] _ plain_names (List.cons_ne_nil _ _)

theorem exists_readFilePath (start : FileStart) (text : List Char) :
    ∃ before, readFilePath start (text ++ servicePath.toList) = before ++ names := by
  have hne : names ≠ [] := List.cons_ne_nil _ _
  unfold readFilePath
  simp only [segmentsOf_append_service]
  cases start with
  | plain => exact ⟨_, resolve_append plain_names hne⟩
  | afterEmpty => exact ⟨_, resolve_append plain_names hne⟩
  | driveAndName =>
    cases hsegments : (segmentsOf true text).map (encode pathSet) with
    | nil => exact absurd (List.map_eq_nil_iff.mp hsegments) (List.splitOnP_ne_nil _ _)
    | cons s rest => exact ⟨_, resolve_append plain_names hne⟩

theorem readFilePath_service {start : FileStart} (hstart : start ≠ .driveAndName) :
    ∃ before, readFilePath start servicePath.toList.tail = before ++ names := by
  have hne : names ≠ [] := List.cons_ne_nil _ _
  unfold readFilePath
  simp only [segmentsOf_service]
  cases start with
  | plain => exact ⟨_, @resolve_append _ _ [] _ plain_names hne⟩
  | afterEmpty => exact ⟨_, @resolve_append _ _ [] _ plain_names hne⟩
  | driveAndName => exact absurd rfl hstart

theorem exists_trimEmpty (before : List (List Char)) :
    ∃ kept, trimEmpty (before ++ names) = kept ++ names := by
  have hdrop : (before ++ names).dropWhile (· = []) = before.dropWhile (· = []) ++ names :=
    dropWhile_append_stop (by decide) before
  refine ⟨before.dropWhile (· = []), ?_⟩
  rw [trimEmpty, hdrop]
  split
  · simp [names] at *
  · rfl

theorem splitPath_of_unmarked {text : List Char}
    (h : ∀ c ∈ text, startsQueryOrFragment c = false) : splitPath text = (text, []) := by
  have htake : text.takeWhile (!startsQueryOrFragment ·) = text :=
    List.takeWhile_eq_self_iff.mpr fun c hc => by simp [h c hc]
  have hdrop : text.dropWhile (!startsQueryOrFragment ·) = [] :=
    List.dropWhile_eq_nil_iff.mpr fun c hc => by simp [h c hc]
  rw [splitPath, List.span_eq_takeWhile_dropWhile, htake, hdrop]

theorem mem_of_mem_afterSlash {text : List Char} {c : Char} (h : c ∈ afterSlash text) :
    c ∈ text := by
  unfold afterSlash at h
  split at h
  · split at h
    · exact List.mem_cons_of_mem _ h
    · exact h
  · exact h

theorem afterSlash_append_service (text : List Char) :
    (text = [] ∧ afterSlash (text ++ servicePath.toList) = servicePath.toList.tail) ∨
      ∃ t, (∀ c ∈ text, isSlash c = false → c ∈ t) ∧
        afterSlash (text ++ servicePath.toList) = t ++ servicePath.toList := by
  cases text with
  | nil => exact .inl ⟨rfl, by decide⟩
  | cons c text =>
    rw [List.cons_append, afterSlash]
    split
    · rename_i hslash
      refine .inr ⟨text, fun d hd hnot => ?_, rfl⟩
      rcases List.mem_cons.mp hd with rfl | hd
      · rw [hslash] at hnot
        cases hnot
      · exact hd
    · exact .inr ⟨c :: text, fun d hd _ => hd, rfl⟩

/-- Without marks before it, the path of the service is the end of the path. -/
theorem appends_of_unmarked {text : List Char} {u : Url}
    (h : Finishes (text ++ servicePath.toList) u)
    (hmarks : ∀ c ∈ text, startsQueryOrFragment c = false) : Appends u := by
  have hunmarked : ∀ c ∈ text ++ servicePath.toList, startsQueryOrFragment c = false := by
    intro c hc
    rcases List.mem_append.mp hc with hc | hc
    · exact hmarks c hc
    · exact forall_mem_service (by decide) c hc
  have hsplit := splitPath_of_unmarked hunmarked
  cases h with
  | @segments scheme authority =>
    refine ⟨?_, by simp [withPath, hsplit, readQueryAndFragment]⟩
    simp only [withPath, hsplit, PathPart.render]
    cases text with
    | nil =>
      rw [List.nil_append, service_eq]
      simp only [beq_self_eq_true, Bool.true_or, if_true]
      rw [readPath_service]
      exact renderPath_append_names []
    | cons c text =>
      rw [List.cons_append]
      dsimp only
      split
      · obtain ⟨before, hbefore⟩ := exists_readPath (isNamed scheme) text
        rw [hbefore]
        exact renderPath_append_names before
      · obtain ⟨before, hbefore⟩ := exists_readPath (isNamed scheme) (c :: text)
        rw [← List.cons_append, hbefore]
        exact renderPath_append_names before
  | @opaqueText scheme =>
    refine ⟨?_, by simp [withOpaquePath, hsplit, readQueryAndFragment]⟩
    simp only [withOpaquePath, hsplit, PathPart.render]
    exact suffix_encode (by decide) text
  | @file scheme host start hstart =>
    obtain ⟨before, hbefore⟩ : ∃ before,
        readFilePath start (afterSlash (text ++ servicePath.toList)) = before ++ names := by
      rcases afterSlash_append_service text with ⟨-, htail⟩ | ⟨t, -, ht⟩
      · rw [htail] at hstart ⊢
        exact readFilePath_service fun hdrive => absurd (hstart hdrive) (by decide)
      · rw [ht]
        exact exists_readFilePath start t
    have hsplit' : splitPath (afterSlash (text ++ servicePath.toList)) =
        (afterSlash (text ++ servicePath.toList), []) :=
      splitPath_of_unmarked fun c hc => hunmarked c (mem_of_mem_afterSlash hc)
    refine ⟨?_, by simp [withFilePath, hsplit', readQueryAndFragment]⟩
    obtain ⟨kept, hkept⟩ := exists_trimEmpty before
    simp only [withFilePath, hsplit', PathPart.render, hbefore, hkept]
    exact renderPath_append_names kept

theorem splitPath_append {front back : List Char} {mark : Char}
    (hfront : ∀ c ∈ front, startsQueryOrFragment c = false)
    (hmark : startsQueryOrFragment mark = true) :
    splitPath (front ++ mark :: back) = (front, mark :: back) := by
  have hstop : ∀ c ∈ (mark :: back).head?, (!startsQueryOrFragment c) = false := by
    rintro _ ⟨⟩
    rw [hmark]
    rfl
  have hsplit := splitPath_of_unmarked hfront
  rw [splitPath] at hsplit ⊢
  rw [span_append_stop hstop, hsplit]
  rfl

theorem exists_first_mark {text : List Char} (h : ∃ c ∈ text, startsQueryOrFragment c = true) :
    ∃ front mark back, text = front ++ mark :: back ∧ startsQueryOrFragment mark = true ∧
      ∀ c ∈ front, startsQueryOrFragment c = false := by
  induction text with
  | nil =>
    obtain ⟨c, hc, -⟩ := h
    cases hc
  | cons d text ih =>
    by_cases hd : startsQueryOrFragment d = true
    · exact ⟨[], d, text, rfl, hd, nofun⟩
    · obtain ⟨c, hc, hmark⟩ := h
      have hc : c ∈ text := (List.mem_cons.mp hc).resolve_left fun hsame => hd (hsame ▸ hmark)
      obtain ⟨front, mark, back, rfl, hmark, hfront⟩ := ih ⟨c, hc, hmark⟩
      exact ⟨d :: front, mark, back, rfl, hmark,
        List.forall_mem_cons.mpr ⟨by simpa using hd, hfront⟩⟩

/-- After a mark, the query or the fragment ends with the path of the service. -/
theorem exists_part_of_marked (named : Bool) {text : List Char}
    (h : ∃ c ∈ text, startsQueryOrFragment c = true) : ∃ part, servicePath.toList <:+ part ∧
      ((readQueryAndFragment named (splitPath (text ++ servicePath.toList)).2).1 = some part ∨
        (readQueryAndFragment named (splitPath (text ++ servicePath.toList)).2).2 = some part) := by
  have hquery : encode (if named then namedQuerySet else querySet) servicePath.toList =
      servicePath.toList := by
    cases named <;> decide
  have hfragment : encode fragmentSet servicePath.toList = servicePath.toList := by decide
  obtain ⟨front, mark, back, rfl, hmark, hfront⟩ := exists_first_mark h
  have hdrop : (back ++ servicePath.toList).dropWhile (· != '#') = [] ∨
      ∃ c more, (back ++ servicePath.toList).dropWhile (· != '#') =
        c :: (more ++ servicePath.toList) := by
    rw [List.dropWhile_append]
    cases back.dropWhile (· != '#') with
    | nil => exact .inl (by decide)
    | cons c more => exact .inr ⟨c, more, rfl⟩
  rw [List.append_assoc, List.cons_append, splitPath_append hfront hmark]
  simp only [startsQueryOrFragment, Bool.or_eq_true, beq_iff_eq] at hmark
  rcases hmark with rfl | rfl
  · rcases hdrop with hnone | ⟨c, more, hmore⟩
    · have htake : (back ++ servicePath.toList).takeWhile (· != '#') = back ++ servicePath.toList := by
        have hsplit := List.takeWhile_append_dropWhile (p := (· != '#'))
          (l := back ++ servicePath.toList)
        rwa [hnone, List.append_nil] at hsplit
      refine ⟨_, suffix_encode hquery back, .inl ?_⟩
      simp only [readQueryAndFragment, List.span_eq_takeWhile_dropWhile, hnone, htake]
    · refine ⟨_, suffix_encode hfragment more, .inr ?_⟩
      simp only [readQueryAndFragment, List.span_eq_takeWhile_dropWhile, hmore]
  · exact ⟨_, suffix_encode hfragment back, .inr rfl⟩

/-- After a mark, it is the end of something else. -/
theorem not_appends_of_marked {text : List Char} {u : Url}
    (h : Finishes (text ++ servicePath.toList) u)
    (hmark : ∃ c ∈ text, startsQueryOrFragment c = true) : ¬Appends u := by
  rintro ⟨-, hnot⟩
  cases h with
  | @segments scheme authority =>
    obtain ⟨part, hpart, hread⟩ := exists_part_of_marked (isNamed scheme) hmark
    exact hnot part hread hpart
  | @opaqueText scheme =>
    obtain ⟨part, hpart, hread⟩ := exists_part_of_marked false hmark
    exact hnot part hread hpart
  | @file scheme host start hstart =>
    obtain ⟨c, hc, hmark⟩ := hmark
    have hnotSlash : isSlash c = false := by
      simp only [startsQueryOrFragment, Bool.or_eq_true, beq_iff_eq] at hmark
      rcases hmark with rfl | rfl <;> rfl
    rcases afterSlash_append_service text with ⟨rfl, -⟩ | ⟨t, hkept, ht⟩
    · cases hc
    · rw [ht] at hnot
      obtain ⟨part, hpart, hread⟩ := exists_part_of_marked true ⟨c, hkept c hc hnotSlash, hmark⟩
      exact hnot part hread hpart

end SnapshotFeed.Endpoint
