import SnapshotFeed.Proofs.Json.Text
import SnapshotFeed.Proofs.Url.Path

/-! No name of a host ends in a blank.

A blank at the end of a text is left there by all that is done to a name before its labels are read
(`decodeText?_concat_blank`, `normalize?_concat_blank`), and no label has one
(`Host.parse_concat_blank`). -/
namespace SnapshotFeed

/-- A character in ASCII at the end of a text goes with none before it. -/
theorem Unicode.compose_concat {cs : List Char} {c : Char} (h : c.toNat < 0x80) :
    compose (cs ++ [c]) = compose cs ++ [c] := by
  have hdecompose : decompose (cs ++ [c]) = decompose cs ++ [c] := by
    rw [decompose, List.flatMap_append]
    exact congrArg (decompose cs ++ ·) (decompose_ascii (by simpa using h))
  have hplace : ∀ before, place c before = c :: before := by
    intro before
    cases before with
    | nil => rfl
    | cons d before => simp [place, combiningClass_of_lt h]
  have horder : order (decompose cs ++ [c]) = order (decompose cs) ++ [c] := by
    simp [order, List.foldl_append, hplace]
  rw [compose, compose, hdecompose, horder, List.foldl_append, List.foldl_cons, List.foldl_nil,
    Composer.push_ascii h]
  simp [Composer.text]

namespace Url

/-- What holds of each blank by its code. -/
theorem of_isBlank {p : Char → Prop} (hp : ∀ n < 0x21, p (Char.ofNat n)) {c : Char}
    (h : isBlank c = true) : p c := by
  simp only [isBlank, decide_eq_true_eq] at h
  simpa using hp c.toNat (by omega)

/-! ### Names -/

theorem normalize?_concat_blank {cs name : List Char} {c : Char} (h : isBlank c = true)
    (hname : normalize? (cs ++ [c]) = some name) : ∃ front, name = front ++ [c] := by
  have hfold : fold? c = some [c] := by
    revert h
    exact of_isBlank (p := fun c => fold? c = some [c]) (by decide)
  unfold normalize? at hname
  rw [List.mapM_append] at hname
  obtain ⟨parts, hparts, hname⟩ := Option.bind_eq_some_iff.mp hname
  obtain ⟨front, hfront, hparts⟩ := Option.bind_eq_some_iff.mp hparts
  obtain ⟨back, hback, hparts⟩ := Option.bind_eq_some_iff.mp hparts
  simp only [List.mapM_cons, hfold, List.mapM_nil] at hback
  cases hback
  cases hparts
  cases hname
  rw [List.flatten_append, show [[c]].flatten = [c] from rfl, Unicode.compose_concat]
  · exact ⟨_, rfl⟩
  · exact of_isBlank (p := (·.toNat < 0x80)) (by decide) h

theorem exists_part_of_mem {separator : Char → Bool} {cs : List Char} {c : Char} (hc : c ∈ cs)
    (hno : separator c = false) : ∃ part ∈ cs.splitOnP separator, c ∈ part := by
  induction cs with
  | nil => cases hc
  | cons d cs ih =>
    obtain ⟨first, parts, hparts⟩ :=
      List.exists_cons_of_ne_nil (List.splitOnP_ne_nil separator cs)
    rw [List.splitOnP_cons_eq_if_modifyHead, hparts, List.modifyHead_cons]
    rcases List.mem_cons.mp hc with rfl | hc
    · rw [if_neg (by simp [hno])]
      exact ⟨_, List.mem_cons_self .., List.mem_cons_self ..⟩
    · obtain ⟨part, hpart, hmem⟩ := ih hc
      rw [hparts] at hpart
      split
      · exact ⟨part, List.mem_cons_of_mem _ hpart, hmem⟩
      · rcases List.mem_cons.mp hpart with rfl | hpart
        · exact ⟨_, List.mem_cons_self .., List.mem_cons_of_mem _ hmem⟩
        · exact ⟨part, List.mem_cons_of_mem _ hpart, hmem⟩

theorem exists_mem_of_mapM {α β : Type} {f : α → Option β} {as : List α} {bs : List β}
    (h : as.mapM f = some bs) {a : α} (ha : a ∈ as) : ∃ b ∈ bs, f a = some b := by
  induction as generalizing bs with
  | nil => cases ha
  | cons a' as ih =>
    rw [List.mapM_cons] at h
    obtain ⟨b, hb, h⟩ := Option.bind_eq_some_iff.mp h
    obtain ⟨bs, hbs, h⟩ := Option.bind_eq_some_iff.mp h
    cases h
    rcases List.mem_cons.mp ha with rfl | ha
    · exact ⟨b, List.mem_cons_self .., hb⟩
    · obtain ⟨b', hb', hf⟩ := ih hbs ha
      exact ⟨b', List.mem_cons_of_mem _ hb', hf⟩

/-- No domain has a blank at its end. -/
theorem domain?_concat_blank {cs : List Char} {c : Char} (h : isBlank c = true) :
    domain? (cs ++ [c]) = .error .invalidDomain := by
  unfold domain?
  cases hlabels : labels? (cs ++ [c]) with
  | none => rfl
  | some labels =>
    unfold labels? at hlabels
    obtain ⟨name, hname, hlabels⟩ := Option.bind_eq_some_iff.mp hlabels
    obtain ⟨all, hall, -⟩ := Option.bind_eq_some_iff.mp hlabels
    obtain ⟨front, rfl⟩ := normalize?_concat_blank h hname
    have hdot : (c == '.') = false :=
      of_isBlank (p := fun c => (c == '.') = false) (by decide) h
    obtain ⟨part, hpart, hc⟩ :=
      @exists_part_of_mem (· == '.') _ c (List.mem_append_right front (List.mem_singleton_self c)) hdot
    obtain ⟨label, -, hlabel⟩ := exists_mem_of_mapM hall hpart
    have hforbidden : part.any isForbiddenInDomain = true :=
      List.any_eq_true.mpr ⟨c, hc, of_isBlank (p := (isForbiddenInDomain · = true)) (by decide) h⟩
    rw [Label.ofText?, if_pos hforbidden] at hlabel
    cases hlabel

/-! ### Bytes -/

/-- A byte that is no digit stands for itself at the end. -/
theorem decodeBytes_concat {bytes : List UInt8} {b : UInt8} (h : hexDigit? b.toNat = none) :
    decodeBytes (bytes ++ [b]) = decodeBytes bytes ++ [b] := by
  fun_induction decodeBytes bytes with
  | case1 => simp [decodeBytes]
  | case2 a b' rest x y hx hy ih => simp only [List.cons_append, decodeBytes, hx, hy, ih]
  | case3 a b' rest hno ih =>
    rw [List.cons_append, List.cons_append, List.cons_append, decodeBytes]
    split
    · exact absurd ‹_› (hno _ _ ‹_›)
    · exact congrArg _ ih
  | case4 d rest hno ih =>
    rcases rest with _ | ⟨a, _ | ⟨a', rest⟩⟩
    · simp [decodeBytes]
    · -- The byte is the third after a percent sign, but no digit.
      by_cases hd : d = 0x25
      · subst hd
        rw [List.cons_append, List.singleton_append, decodeBytes]
        split
        · simp_all
        · exact congrArg _ ih
      · rw [List.cons_append, decodeBytes, ih]
        · rfl
        · exact fun _ _ _ hd' _ => hd hd'
    · have hd : d ≠ 0x25 := fun hd => hno _ _ _ hd rfl
      rw [List.cons_append, decodeBytes, ih]
      · rfl
      · exact fun _ _ _ hd' _ => hd hd'

/-- A text whose encoding ends with a character in ASCII ends with that. -/
theorem exists_concat_of_encode {bytes : List UInt8} {c : Char} {cs : List Char}
    (hc : c.toNat < 0x80) (h : bytes ++ [c.toNat.toUInt8] = cs.flatMap String.utf8EncodeChar) :
    ∃ front, cs = front ++ [c] := by
  have hone := Json.utf8EncodeChar_of_lt hc
  rcases List.eq_nil_or_concat cs with rfl | ⟨front, d, rfl⟩
  · exact absurd h (by simp)
  · refine ⟨front, ?_⟩
    rw [List.concat_eq_append, List.flatMap_append, List.flatMap_singleton] at h
    obtain ⟨es, e, hd⟩ := (List.eq_nil_or_concat (String.utf8EncodeChar d)).resolve_left
      String.utf8EncodeChar_ne_nil
    rw [List.concat_eq_append] at hd
    have hlast : c.toNat.toUInt8 = e := by
      rw [hd, ← List.append_assoc] at h
      exact (List.append_inj' h rfl).2 |> List.singleton_inj.mp
    -- The byte starts a character, so it is the only one of its own.
    have hfirst : c.toNat.toUInt8.IsUTF8FirstByte := by
      have hstarts := UInt8.isUTF8FirstByte_getElem_zero_utf8EncodeChar (c := c)
      simpa only [hone, List.getElem_singleton] using hstarts
    have hes : es = [] := by
      have hiff := @UInt8.isUTF8FirstByte_getElem_utf8EncodeChar d es.length (by simp [hd])
      simp only [hd, List.getElem_concat_length, ← hlast] at hiff
      exact List.length_eq_zero_iff.mp (hiff.mp hfirst)
    rw [hes, List.nil_append, ← hlast, ← hone] at hd
    have hsame := @Json.encode_append_inj d c [] [] (by rw [hd])
    rw [List.concat_eq_append, hsame.1]

theorem decodeText?_concat_blank {text name : List Char} {c : Char} (h : isBlank c = true)
    (hname : decodeText? (text ++ [c]) = some name) : ∃ front, name = front ++ [c] := by
  have hlt : c.toNat < 0x80 := of_isBlank (p := (·.toNat < 0x80)) (by decide) h
  have hdigit : hexDigit? c.toNat.toUInt8.toNat = none :=
    of_isBlank (p := fun c => hexDigit? c.toNat.toUInt8.toNat = none) (by decide) h
  obtain ⟨s, hs, rfl⟩ := Option.map_eq_some_iff.mp hname
  rw [decode, List.flatMap_append, List.flatMap_singleton, Json.utf8EncodeChar_of_lt hlt,
    decodeBytes_concat hdigit, String.fromUTF8?] at hs
  split at hs
  · have hsame : (decodeBytes (text.flatMap String.utf8EncodeChar) ++
        [c.toNat.toUInt8]).toByteArray = s.toList.utf8Encode := by
      rw [String.utf8Encode_toList, ← Option.some.inj hs]
      exact ByteArray.ext List.data_toByteArray
    exact exists_concat_of_encode hlt (List.toByteArray_inj.mp hsame)
  · cases hs

/-- No host has a blank at its end. -/
theorem Host.parse_concat_blank {text : List Char} {c : Char} (h : isBlank c = true) (host : Host) :
    parse (text ++ [c]) ≠ .ok host := by
  have hbracket : c ≠ '[' ∧ c ≠ ']' := of_isBlank (p := fun c => c ≠ '[' ∧ c ≠ ']') (by decide) h
  unfold parse
  split
  · rename_i rest heq
    rcases text with _ | ⟨d, text⟩
    · exact absurd (List.cons.inj heq).1 hbracket.1
    · rw [← (List.cons.inj heq).2]
      simp [bracketed?, hbracket.2]
  · split
    · exact nofun
    · rename_i name hname
      obtain ⟨front, rfl⟩ := decodeText?_concat_blank h hname
      rw [domain?_concat_blank h]
      exact nofun

end Url

end SnapshotFeed
