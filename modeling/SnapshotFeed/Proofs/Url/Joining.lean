import Mathlib.Data.List.TakeDrop
import SnapshotFeed.Endpoint

/-! The text that is read, and the base alone.

Both texts begin with the same characters (`stem`). The path of the service comes after these, or
the slashes at the end of the base; only where the base ends in blanks does it lose some of these
characters when it is read alone (`clean_base`). -/
namespace SnapshotFeed

/-! ### Texts that go on -/

section Stop
variable {α : Type} {p : α → Bool} {more : List α} (hmore : ∀ c ∈ more.head?, p c = false)
include hmore

theorem takeWhile_append_stop (text : List α) :
    (text ++ more).takeWhile p = text.takeWhile p := by
  induction text with
  | nil =>
    cases more with
    | nil => rfl
    | cons c more => exact List.takeWhile_cons_of_neg (by simp [hmore c rfl])
  | cons c text ih =>
    rw [List.cons_append, List.takeWhile_cons, List.takeWhile_cons, ih]

theorem dropWhile_append_stop (text : List α) :
    (text ++ more).dropWhile p = text.dropWhile p ++ more := by
  induction text with
  | nil =>
    cases more with
    | nil => rfl
    | cons c more => exact List.dropWhile_cons_of_neg (by simp [hmore c rfl])
  | cons c text ih =>
    rw [List.cons_append, List.dropWhile_cons, List.dropWhile_cons, ih]
    split <;> rfl

theorem span_append_stop (text : List α) :
    (text ++ more).span p = ((text.span p).1, (text.span p).2 ++ more) := by
  simp only [List.span_eq_takeWhile_dropWhile, takeWhile_append_stop hmore,
    dropWhile_append_stop hmore]

end Stop

theorem mem_dropWhile_of_not {α : Type} {p : α → Bool} {a : α} (h : p a = false) {text : List α} :
    a ∈ text.dropWhile p ↔ a ∈ text := by
  refine ⟨fun ha => (List.dropWhile_suffix p).subset ha, fun ha => ?_⟩
  rw [← List.takeWhile_append_dropWhile (p := p) (l := text), List.mem_append] at ha
  refine ha.resolve_left fun htake => ?_
  rw [List.all_eq_true.mp List.all_takeWhile a htake] at h
  cases h

namespace Url

/-! ### Trimming -/

/-- Trimming takes the character off. -/
def isBlank (c : Char) : Bool := c.toNat ≤ 0x20

theorem trim_eq (text : List Char) :
    trim text = ((text.dropWhile isBlank).reverse.dropWhile isBlank).reverse := rfl

theorem trim_eq_of_last {text : List Char} (h : ∀ c ∈ text.getLast?, isBlank c = false) :
    trim text = text.dropWhile isBlank := by
  rcases List.eq_nil_or_concat (text.dropWhile isBlank) with hnil | ⟨init, c, hconcat⟩
  · rw [trim_eq, hnil]
    rfl
  · have hc : isBlank c = false := by
      refine h c ?_
      have hsplit := List.takeWhile_append_dropWhile (p := isBlank) (l := text)
      rw [hconcat, List.concat_eq_append, ← List.append_assoc] at hsplit
      rw [← hsplit, List.getLast?_concat]
      rfl
    rw [trim_eq, hconcat, List.concat_eq_append, List.reverse_append, List.reverse_singleton,
      List.singleton_append, List.dropWhile_cons_of_neg (by simp [hc]), List.reverse_cons,
      List.reverse_reverse]

/-- Trimming takes blanks off the end. -/
theorem exists_blanks_of_trim (text : List Char) : ∃ z, (∀ c ∈ z, isBlank c = true) ∧
    text.dropWhile isBlank = trim text ++ z := by
  refine ⟨((text.dropWhile isBlank).reverse.takeWhile isBlank).reverse, ?_, ?_⟩
  · intro c hc
    exact List.all_eq_true.mp List.all_takeWhile c (List.mem_reverse.mp hc)
  · rw [trim_eq, ← List.reverse_append, List.takeWhile_append_dropWhile, List.reverse_reverse]

/-- A text goes on without touching its scheme. -/
theorem splitScheme?_append (text : List Char) {more : List Char}
    (hmore : ∀ c ∈ more.head?, isSchemeChar c = false ∧ c ≠ ':') :
    splitScheme? (text ++ more) =
      (splitScheme? text).map fun (scheme, rest) => (scheme, rest ++ more) := by
  unfold splitScheme?
  rw [span_append_stop fun c hc => (hmore c hc).1]
  rcases text.span isSchemeChar with ⟨scheme, _ | ⟨d, rest⟩⟩
  · cases more with
    | nil => cases scheme <;> rfl
    | cons c more =>
      have hc : c ≠ ':' := (hmore c rfl).2
      cases scheme <;> simp [hc]
  · rcases scheme with _ | ⟨c, scheme⟩
    · rfl
    · by_cases hd : d = ':'
      · subst hd
        simp only [List.cons_append]
        split <;> rfl
      · simp [hd]

theorem eq_of_splitScheme? {text scheme rest : List Char}
    (h : splitScheme? text = some (scheme, rest)) :
    ∃ front, text = front ++ ':' :: rest ∧ ∀ c ∈ front, isSchemeChar c = true := by
  unfold splitScheme? at h
  rw [List.span_eq_takeWhile_dropWhile] at h
  refine ⟨text.takeWhile isSchemeChar, ?_, List.all_eq_true.mp List.all_takeWhile⟩
  split at h
  · rename_i heq
    split at h
    · cases h
      rw [← (Prod.mk.inj heq).2, List.takeWhile_append_dropWhile]
    · cases h
  · cases h

end Url

namespace Endpoint
open Url (clean trim isBlank isBreak)

/-- What the base and the text that is read begin with, clean. -/
def stem (base : String) : List Char :=
  ((trimSlashes base.toList).dropWhile isBlank).filter (!isBreak ·)

theorem clean_append {base : String} {more : List Char} (hhead : ∀ c ∈ more.head?, isBlank c = false)
    (hlast : ∀ c ∈ (trimSlashes base.toList ++ more).getLast?, isBlank c = false)
    (hcounts : ∀ c ∈ more, isBreak c = false) :
    clean (trimSlashes base.toList ++ more) = stem base ++ more := by
  rw [clean, Url.trim_eq_of_last hlast, dropWhile_append_stop hhead, List.filter_append, stem]
  congr 1
  exact List.filter_eq_self.mpr fun c hc => by rw [hcounts c hc]; rfl

theorem forall_mem_slashes {p : Char → Prop} (h : p '/') (k : Nat) :
    ∀ c ∈ List.replicate k '/', p c := by
  intro c hc
  rw [List.eq_of_mem_replicate hc]
  exact h

theorem forall_head_slashes {p : Char → Prop} (h : p '/') (k : Nat) :
    ∀ c ∈ (List.replicate k '/').head?, p c :=
  fun c hc => forall_mem_slashes h k c (List.mem_of_mem_head? hc)

theorem not_blank_of_service (text : List Char) :
    ∀ c ∈ (text ++ servicePath.toList).getLast?, isBlank c = false := by
  have hlast : servicePath.toList.getLast? = some 's' := by decide
  rw [List.getLast?_append, hlast]
  rintro c ⟨⟩
  decide

/-- What is read goes on with the path of the service. -/
theorem clean_join (base : String) :
    clean (join base).toList = stem base ++ servicePath.toList := by
  rw [join, String.toList_append, String.toList_ofList]
  exact clean_append (forall_head_service (by decide)) (not_blank_of_service _)
    (forall_mem_service (by decide))

/-- The base alone goes on with its slashes, or loses blanks at its end. -/
theorem clean_base (base : String) :
    (∃ k, base.toList = trimSlashes base.toList ++ List.replicate k '/' ∧
      clean base.toList = stem base ++ List.replicate k '/') ∨
    ((∃ c ∈ base.toList.getLast?, isBlank c = true) ∧
      ∃ z, (∀ c ∈ z, isBlank c = true) ∧ stem base = clean base.toList ++ z) := by
  obtain ⟨k, hk⟩ := exists_trimSlashes base.toList
  by_cases hlast : ∀ c ∈ base.toList.getLast?, isBlank c = false
  · refine .inl ⟨k, hk, ?_⟩
    rw [← clean_append (forall_head_slashes (by decide) k) (hk ▸ hlast)
      (forall_mem_slashes (by decide) k), ← hk]
  · simp only [not_forall, Bool.not_eq_false] at hlast
    obtain ⟨c, hc, hblank⟩ := hlast
    refine .inr ⟨⟨c, hc, hblank⟩, ?_⟩
    obtain ⟨z, hz, hdrop⟩ := Url.exists_blanks_of_trim base.toList
    -- The base ends in a blank, so there are no slashes to take off.
    have hk0 : k = 0 := by
      cases k with
      | zero => rfl
      | succ k =>
        rw [hk, List.replicate_succ', ← List.append_assoc, List.getLast?_concat] at hc
        cases hc
        exact absurd hblank (by decide)
    subst hk0
    rw [List.replicate_zero, List.append_nil] at hk
    refine ⟨z.filter (!isBreak ·), fun c hc => hz c (List.mem_filter.mp hc).1, ?_⟩
    rw [stem, ← hk, hdrop, List.filter_append]
    rfl

end Endpoint

end SnapshotFeed
