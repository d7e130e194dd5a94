import SnapshotFeed.Json.Text

/-! What is written is what is said.

A character may stand for itself, or be escaped: as one unit if it fits, else as two surrogates.
`text?_eq_some_iff`: however a text is written, it is what the string says, and a string says nothing
else. For an escape cannot stand within a character: what is escaped starts with a byte that starts
one. -/
namespace SnapshotFeed.Json

def highSurrogate (c : Char) : UInt16 := (0xD800 + (c.toNat - 0x10000) / 0x400).toUInt16

def lowSurrogate (c : Char) : UInt16 := (0xDC00 + (c.toNat - 0x10000) % 0x400).toUInt16

/-- The pieces that may be written for characters. -/
inductive SaysChars : List Piece → List Char → Prop where
  | nil : SaysChars [] []
  | raw {c : Char} {ps : List Piece} {cs : List Char} : SaysChars ps cs →
    SaysChars ((String.utf8EncodeChar c).map .byte ++ ps) (c :: cs)
  | unit {c : Char} {ps : List Piece} {cs : List Char} : c.toNat < 0x10000 → SaysChars ps cs →
    SaysChars (.unit c.toNat.toUInt16 :: ps) (c :: cs)
  | pair {c : Char} {ps : List Piece} {cs : List Char} : 0x10000 ≤ c.toNat → SaysChars ps cs →
    SaysChars (.unit (highSurrogate c) :: .unit (lowSurrogate c) :: ps) (c :: cs)

/-- The pieces that may be written for a text. -/
def Says (ps : List Piece) (text : String) : Prop := SaysChars ps text.toList

theorem foldl_push (bytes : List UInt8) (done : ByteArray) :
    bytes.foldl ByteArray.push done = done ++ bytes.toByteArray := by
  induction bytes generalizing done with
  | nil => rw [List.foldl_nil, List.toByteArray_nil, ByteArray.append_empty]
  | cons b bytes ih =>
    have hsplit : (b :: bytes).toByteArray = [b].toByteArray ++ bytes.toByteArray := by
      rw [← List.toByteArray_append, List.singleton_append]
    rw [List.foldl_cons, ih, hsplit, ← ByteArray.append_assoc,
      ByteArray.append_toByteArray_singleton]

theorem pushChar_eq (done : ByteArray) (c : Char) : pushChar done c = done ++ [c].utf8Encode := by
  rw [pushChar, foldl_push, List.utf8Encode_singleton]

theorem bytesFrom?_bytes (done : ByteArray) (bytes : List UInt8) (ps : List Piece) :
    bytesFrom? done (bytes.map .byte ++ ps) = bytesFrom? (bytes.foldl ByteArray.push done) ps := by
  induction bytes generalizing done with
  | nil => rfl
  | cons b bytes ih => exact ih _

/-! ### Units -/

theorem toNat_cases (c : Char) : c.toNat < 0xD800 ∨ 0xDFFF < c.toNat ∧ c.toNat < 0x110000 := c.valid

theorem toNat_toUInt16 {n : Nat} (h : n < 0x10000) : n.toUInt16.toNat = n := by
  simpa using h

theorem isHighSurrogate_iff {u : UInt16} :
    isHighSurrogate u = true ↔ 0xD800 ≤ u.toNat ∧ u.toNat ≤ 0xDBFF := by
  simp [isHighSurrogate, UInt16.le_iff_toNat_le]

theorem isLowSurrogate_iff {u : UInt16} :
    isLowSurrogate u = true ↔ 0xDC00 ≤ u.toNat ∧ u.toNat ≤ 0xDFFF := by
  simp [isLowSurrogate, UInt16.le_iff_toNat_le]

/-- A character of one unit is no surrogate. -/
theorem not_isSurrogate {c : Char} (h : c.toNat < 0x10000) :
    ¬isHighSurrogate c.toNat.toUInt16 = true ∧ ¬isLowSurrogate c.toNat.toUInt16 = true := by
  rw [isHighSurrogate_iff, isLowSurrogate_iff, toNat_toUInt16 h]
  rcases toNat_cases c with hlow | ⟨hhigh, -⟩
  · omega
  · omega

theorem toNat_highSurrogate {c : Char} (h : 0x10000 ≤ c.toNat) :
    (highSurrogate c).toNat = 0xD800 + (c.toNat - 0x10000) / 0x400 := by
  refine toNat_toUInt16 ?_
  rcases toNat_cases c with hlow | ⟨-, hlt⟩
  · omega
  · omega

theorem toNat_lowSurrogate (c : Char) :
    (lowSurrogate c).toNat = 0xDC00 + (c.toNat - 0x10000) % 0x400 :=
  toNat_toUInt16 (by omega)

theorem isHighSurrogate_highSurrogate {c : Char} (h : 0x10000 ≤ c.toNat) :
    isHighSurrogate (highSurrogate c) = true := by
  rw [isHighSurrogate_iff, toNat_highSurrogate h]
  rcases toNat_cases c with hlow | ⟨-, hlt⟩
  · omega
  · omega

theorem isLowSurrogate_lowSurrogate (c : Char) : isLowSurrogate (lowSurrogate c) = true := by
  rw [isLowSurrogate_iff, toNat_lowSurrogate]
  omega

/-- The two surrogates of a character stand for it. -/
theorem joinSurrogates_eq {c : Char} (h : 0x10000 ≤ c.toNat) :
    joinSurrogates (highSurrogate c) (lowSurrogate c) = c := by
  have hcode : 0x10000 + (0xD800 + (c.toNat - 0x10000) / 0x400 - 0xD800) * 0x400 +
      (0xDC00 + (c.toNat - 0x10000) % 0x400 - 0xDC00) = c.toNat := by omega
  rw [joinSurrogates, toNat_highSurrogate h, toNat_lowSurrogate, hcode, Char.ofNat_toNat]

/-! ### Strings -/

theorem bytesFrom?_of_saysChars {ps : List Piece} {cs : List Char} (h : SaysChars ps cs)
    (done : ByteArray) : bytesFrom? done ps = some (done ++ cs.utf8Encode) := by
  induction h generalizing done with
  | nil => simp [bytesFrom?]
  | @raw c ps cs _ ih =>
    rw [bytesFrom?_bytes, ih, foldl_push, List.utf8Encode_cons, List.utf8Encode_singleton,
      ByteArray.append_assoc]
  | @unit c ps cs hc _ ih =>
    obtain ⟨hhigh, hlow⟩ := not_isSurrogate hc
    have hchar : Char.ofNat c.toNat.toUInt16.toNat = c := by
      rw [toNat_toUInt16 hc, Char.ofNat_toNat]
    have hstep : bytesFrom? done (.unit c.toNat.toUInt16 :: ps) =
        bytesFrom? (pushChar done c) ps := by
      conv => lhs; unfold bytesFrom?
      rw [if_neg hhigh, if_neg hlow, hchar]
    rw [hstep, pushChar_eq, ih, ByteArray.append_assoc, ← List.utf8Encode_cons]
  | @pair c ps cs hc _ ih =>
    have hstep : bytesFrom? done (.unit (highSurrogate c) :: .unit (lowSurrogate c) :: ps) =
        bytesFrom? (pushChar done c) ps := by
      rw [bytesFrom?, if_pos (isHighSurrogate_highSurrogate hc),
        if_pos (isLowSurrogate_lowSurrogate c), joinSurrogates_eq hc]
    rw [hstep, pushChar_eq, ih, ByteArray.append_assoc, ← List.utf8Encode_cons]

/-- **A string says the text it was written for.** -/
theorem text?_of_says {ps : List Piece} {text : String} (h : Says ps text) :
    text? ps = some text := by
  rw [text?, bytesFrom?_of_saysChars h, ByteArray.empty_append, String.utf8Encode_toList,
    Option.bind_some, String.fromUTF8?, dif_pos text.isValidUTF8]
  rfl

/-! ### Only what is said was written -/

/-- The bytes that pieces stand for, each escape as a whole character. -/
inductive SaysBytes : List Piece → List UInt8 → Prop where
  | nil : SaysBytes [] []
  | byte {b : UInt8} {ps : List Piece} {bs : List UInt8} : SaysBytes ps bs →
    SaysBytes (.byte b :: ps) (b :: bs)
  | unit {c : Char} {ps : List Piece} {bs : List UInt8} : c.toNat < 0x10000 → SaysBytes ps bs →
    SaysBytes (.unit c.toNat.toUInt16 :: ps) (String.utf8EncodeChar c ++ bs)
  | pair {c : Char} {ps : List Piece} {bs : List UInt8} : 0x10000 ≤ c.toNat → SaysBytes ps bs →
    SaysBytes (.unit (highSurrogate c) :: .unit (lowSurrogate c) :: ps)
      (String.utf8EncodeChar c ++ bs)

theorem toNat_ofNat {n : Nat} (h : n < 0xD800 ∨ 0xDFFF < n ∧ n < 0x110000) :
    (Char.ofNat n).toNat = n := by
  rw [Char.ofNat, dif_pos h]
  rfl

/-- A unit that is no surrogate is a character of one unit. -/
theorem exists_char_of_unit {u : UInt16} (hhigh : ¬isHighSurrogate u = true)
    (hlow : ¬isLowSurrogate u = true) :
    (Char.ofNat u.toNat).toNat < 0x10000 ∧ (Char.ofNat u.toNat).toNat.toUInt16 = u := by
  rw [isHighSurrogate_iff] at hhigh
  rw [isLowSurrogate_iff] at hlow
  have hlt : u.toNat < 0x10000 := u.toNat_lt
  rw [toNat_ofNat (by omega)]
  exact ⟨hlt, UInt16.ofNat_toNat⟩

/-- Two surrogates are those of the character they stand for. -/
theorem surrogates_joinSurrogates {u v : UInt16} (hhigh : isHighSurrogate u = true)
    (hlow : isLowSurrogate v = true) :
    0x10000 ≤ (joinSurrogates u v).toNat ∧ highSurrogate (joinSurrogates u v) = u ∧
      lowSurrogate (joinSurrogates u v) = v := by
  rw [isHighSurrogate_iff] at hhigh
  rw [isLowSurrogate_iff] at hlow
  have hcode : (joinSurrogates u v).toNat =
      0x10000 + (u.toNat - 0xD800) * 0x400 + (v.toNat - 0xDC00) := toNat_ofNat (by omega)
  have hle : 0x10000 ≤ (joinSurrogates u v).toNat := by omega
  refine ⟨hle, UInt16.toNat_inj.mp ?_, UInt16.toNat_inj.mp ?_⟩
  · rw [toNat_highSurrogate hle]
    omega
  · rw [toNat_lowSurrogate]
    omega

theorem exists_saysBytes {ps : List Piece} {done bytes : ByteArray}
    (h : bytesFrom? done ps = some bytes) :
    ∃ bs, SaysBytes ps bs ∧ bytes = done ++ bs.toByteArray := by
  fun_induction bytesFrom? done ps with
  | case1 done =>
    obtain rfl := Option.some.inj h
    exact ⟨[], .nil, by simp⟩
  | case2 done b rest ih =>
    obtain ⟨bs, hbs, rfl⟩ := ih h
    refine ⟨b :: bs, .byte hbs, ?_⟩
    rw [← foldl_push, ← foldl_push, List.foldl_cons]
  | case3 done u hhigh v rest hlow ih =>
    obtain ⟨bs, hbs, rfl⟩ := ih h
    obtain ⟨hle, hu, hv⟩ := surrogates_joinSurrogates hhigh hlow
    have hpair := SaysBytes.pair hle hbs
    rw [hu, hv] at hpair
    refine ⟨_, hpair, ?_⟩
    rw [pushChar, foldl_push, List.toByteArray_append, ByteArray.append_assoc]
  | case7 done u rest hhigh hlow ih =>
    obtain ⟨bs, hbs, rfl⟩ := ih h
    obtain ⟨hlt, hu⟩ := exists_char_of_unit hhigh hlow
    have hunit := SaysBytes.unit hlt hbs
    rw [hu] at hunit
    refine ⟨_, hunit, ?_⟩
    rw [pushChar, foldl_push, List.toByteArray_append, ByteArray.append_assoc]
  | _ => cases h

/-- A character in ASCII is one byte. -/
theorem utf8EncodeChar_of_lt {c : Char} (h : c.toNat < 0x80) :
    String.utf8EncodeChar c = [c.toNat.toUInt8] := by
  have hsize : c.utf8Size = 1 := by
    rw [Char.utf8Size_eq_one_iff, UInt32.le_iff_toNat_le]
    exact Nat.le_of_lt_succ h
  rw [String.utf8EncodeChar_eq_singleton hsize]
  rfl

/-- The encoding of a character is no beginning of another's. -/
theorem encode_append_inj {c d : Char} {s t : List UInt8}
    (h : String.utf8EncodeChar c ++ s = String.utf8EncodeChar d ++ t) : c = d ∧ s = t := by
  have hbytes := congrArg List.toByteArray h
  rw [List.toByteArray_append, List.toByteArray_append] at hbytes
  have hdecode := congrArg (ByteArray.utf8DecodeChar? · 0) hbytes
  simp only [ByteArray.utf8DecodeChar?_utf8EncodeChar_append, Option.some.injEq] at hdecode
  subst hdecode
  exact ⟨rfl, List.append_cancel_left h⟩

/-- Bytes that start no character stand for themselves: what is escaped starts with one that
does. -/
theorem SaysBytes.raw {ps : List Piece} {es rest : List UInt8} (h : SaysBytes ps (es ++ rest))
    (hes : ∀ e ∈ es, ¬e.IsUTF8FirstByte) : ∃ qs, ps = es.map .byte ++ qs ∧ SaysBytes qs rest := by
  induction es generalizing ps with
  | nil => exact ⟨ps, rfl, h⟩
  | cons e es ih =>
    obtain ⟨he, hes⟩ := List.forall_mem_cons.mp hes
    have hescaped : ∀ (c : Char) (bs : List UInt8),
        String.utf8EncodeChar c ++ bs ≠ e :: es ++ rest := by
      intro c bs heq
      obtain ⟨b, tail, hc⟩ := List.exists_cons_of_ne_nil (String.utf8EncodeChar_ne_nil (c := c))
      have hfirst := UInt8.isUTF8FirstByte_getElem_zero_utf8EncodeChar (c := c)
      simp only [hc, List.getElem_cons_zero, List.cons_append, List.cons.injEq] at hfirst heq
      exact he (heq.1 ▸ hfirst)
    generalize hall : e :: es ++ rest = all at h
    cases h with
    | nil => cases hall
    | byte h =>
      obtain ⟨rfl, rfl⟩ := List.cons.inj hall
      obtain ⟨qs, rfl, hqs⟩ := ih h hes
      exact ⟨qs, rfl, hqs⟩
    | unit _ _ => exact absurd hall.symm (hescaped _ _)
    | pair _ _ => exact absurd hall.symm (hescaped _ _)

theorem SaysBytes.saysChars {ps : List Piece} {cs : List Char} {bs : List UInt8}
    (h : SaysBytes ps bs) (hbs : bs = cs.flatMap String.utf8EncodeChar) : SaysChars ps cs := by
  induction cs generalizing ps bs with
  | nil =>
    cases h with
    | nil => exact .nil
    | byte _ => cases hbs
    | unit _ _ => exact absurd (List.append_eq_nil_iff.mp hbs).1 String.utf8EncodeChar_ne_nil
    | pair _ _ => exact absurd (List.append_eq_nil_iff.mp hbs).1 String.utf8EncodeChar_ne_nil
  | cons c cs ih =>
    rw [List.flatMap_cons] at hbs
    cases h with
    | nil => exact absurd (List.append_eq_nil_iff.mp hbs.symm).1 String.utf8EncodeChar_ne_nil
    | @byte b ps bs h =>
      -- The byte starts the character, and the bytes after it go on with it.
      obtain ⟨b', es, hc⟩ := List.exists_cons_of_ne_nil (String.utf8EncodeChar_ne_nil (c := c))
      rw [hc, List.cons_append] at hbs
      obtain ⟨rfl, rfl⟩ := List.cons.inj hbs
      have hes : ∀ e ∈ es, ¬e.IsUTF8FirstByte := by
        intro e he
        obtain ⟨i, hi, rfl⟩ := List.getElem_of_mem he
        have hi' : i + 1 < (String.utf8EncodeChar c).length := by
          rw [hc]
          exact Nat.succ_lt_succ hi
        have hfirst := @UInt8.isUTF8FirstByte_getElem_utf8EncodeChar c (i + 1) hi'
        simpa [hc] using hfirst
      obtain ⟨qs, rfl, hqs⟩ := h.raw hes
      have hraw := (ih hqs rfl).raw (c := c)
      rwa [hc] at hraw
    | unit hc h =>
      obtain ⟨rfl, hrest⟩ := encode_append_inj hbs
      exact .unit hc (ih h hrest)
    | pair hc h =>
      obtain ⟨rfl, hrest⟩ := encode_append_inj hbs
      exact .pair hc (ih h hrest)

/-- **A string says a text exactly if it was written for it.** -/
theorem text?_eq_some_iff {ps : List Piece} {text : String} : text? ps = some text ↔ Says ps text := by
  refine ⟨fun h => ?_, text?_of_says⟩
  obtain ⟨bytes, hbytes, htext⟩ := Option.bind_eq_some_iff.mp h
  obtain ⟨bs, hbs, rfl⟩ := exists_saysBytes hbytes
  rw [ByteArray.empty_append, String.fromUTF8?] at htext
  split at htext
  · refine hbs.saysChars ?_
    have hsame : bs.toByteArray = text.toList.utf8Encode := by
      rw [String.utf8Encode_toList, ← Option.some.inj htext]
      rfl
    exact List.toByteArray_inj.mp hsame
  · cases htext

end SnapshotFeed.Json
