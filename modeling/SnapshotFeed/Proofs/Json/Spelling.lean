import SnapshotFeed.Proofs.Json.Prefix

/-! The lexer reads nothing but what is written.

What a mode leaves open is told by the bytes since the last token (`Mode.Open`), and a byte either
goes on with them or makes them a token. `spelled_of_lex`: a text is read as tokens only if it
spells them. -/
namespace SnapshotFeed.Json

/-! ### Digits -/

theorem eq_add_of_toNat {b : UInt8} {low k : Nat} (h : b.toNat = low + k) :
    b = low.toUInt8 + k.toUInt8 := by
  have hbyte : b.toNat.toUInt8 = b := UInt8.ofNat_toNat
  rw [← hbyte, h]
  exact UInt8.ofNat_add low k

theorem hexDigit_of_hexDigit? {d : Nat} {b : UInt8} (h : hexDigit? b.toNat = some d) :
    HexDigit d b := by
  unfold hexDigit? at h
  split at h
  · obtain ⟨k, hk⟩ : ∃ k, b.toNat = 0x30 + k := ⟨b.toNat - 0x30, by omega⟩
    obtain rfl : k = d := by
      have hd := Option.some.inj h
      omega
    rw [eq_add_of_toNat hk]
    exact .decimal (by omega)
  · split at h
    · obtain ⟨k, hk⟩ : ∃ k, b.toNat = 0x41 + k := ⟨b.toNat - 0x41, by omega⟩
      obtain rfl : 10 + k = d := by
        have hd := Option.some.inj h
        omega
      rw [eq_add_of_toNat hk]
      exact .upper (by omega)
    · split at h
      · obtain ⟨k, hk⟩ : ∃ k, b.toNat = 0x61 + k := ⟨b.toNat - 0x61, by omega⟩
        obtain rfl : 10 + k = d := by
          have hd := Option.some.inj h
          omega
        rw [eq_add_of_toNat hk]
        exact .lower (by omega)
      · cases h

theorem eq_digit_of_digit? {d : Nat} {b : UInt8} (h : digit? b = some d) : d < 10 ∧ b = digit d := by
  obtain ⟨hhex, hlt⟩ := Option.filter_eq_some_iff.mp h
  have hd : d < 10 := by simpa using hlt
  refine ⟨hd, ?_⟩
  cases hexDigit_of_hexDigit? hhex with
  | decimal _ => rfl
  | upper _ => omega
  | lower _ => omega

/-! ### Numbers -/

/-- The minus sign of a number, if it has one. -/
inductive Sign : Bool → List UInt8 → Prop where
  | plus : Sign false []
  | minus : Sign true [0x2D]

/-- What may stand between the magnitude and an exponent. -/
inductive Fraction : List UInt8 → Prop where
  | none : Fraction []
  | some {s : List UInt8} : Digits s → Fraction (0x2E :: s)

/-- What stands after the magnitude when a number has been read so far. -/
inductive NumberPart.Tail : NumberPart → List UInt8 → Prop where
  | point : Tail .point [0x2E]
  | fraction {s : List UInt8} : Digits s → Tail .fraction (0x2E :: s)
  | exponent {f : List UInt8} {e : UInt8} : Fraction f → e ∈ [0x65, 0x45] → Tail .exponent (f ++ [e])
  | exponentSign {f : List UInt8} {e sign : UInt8} : Fraction f → e ∈ [0x65, 0x45] →
    sign ∈ [0x2B, 0x2D] → Tail .exponentSign (f ++ [e, sign])
  | exponentDigits {f t : List UInt8} : Fraction f → Exponent t → Tail .exponentDigits (f ++ t)

/-- The bytes of a number that has been read so far. -/
inductive NumberPart.Read : NumberPart → Number → List UInt8 → Prop where
  | sign {negative : Bool} {g : List UInt8} : Sign negative g → Read .sign ⟨negative, 0, true⟩ g
  | zero {negative : Bool} {g : List UInt8} : Sign negative g →
    Read .zero ⟨negative, 0, true⟩ (g ++ [digit 0])
  | whole {negative : Bool} {n : Nat} {g s : List UInt8} : Sign negative g → Magnitude n s → 0 < n →
    Read .whole ⟨negative, n, true⟩ (g ++ s)
  | tail {part : NumberPart} {negative : Bool} {n : Nat} {g s t : List UInt8} : Sign negative g →
    Magnitude n s → part.Tail t → Read part ⟨negative, n, false⟩ (g ++ (s ++ t))

theorem Number.written_of_sign {negative integral : Bool} {n : Nat} {g s t : List UInt8}
    (hg : Sign negative g) (hs : Magnitude n s) (ht : Decimals integral t) :
    Number.Written ⟨negative, n, integral⟩ (g ++ (s ++ t)) := by
  cases hg with
  | plus =>
    rw [List.nil_append]
    exact .positive hs ht
  | minus =>
    rw [List.singleton_append]
    exact .negative hs ht

theorem Exponent.next {t : List UInt8} (h : Exponent t) {d : Nat} (hd : d < 10) :
    Exponent (t ++ [digit d]) := by
  cases h with
  | unsigned he hs => exact .unsigned he (.next hs hd)
  | signed he hsign hs => exact .signed he hsign (.next hs hd)

namespace NumberPart
variable {part part' : NumberPart} {n n' : Number} {b : UInt8} {t bytes : List UInt8}

/-- Where digits may follow, the next byte is a digit or none of them. -/
theorem digit_of_next? {after : NumberPart}
    (htakes : ∀ b d n, digit? b = some d → part.next? b n = some (after, n))
    (hnext : part.next? b n = some (part', n')) :
    (∃ d, d < 10 ∧ b = digit d ∧ part' = after ∧ n' = n) ∨ digit? b = none := by
  cases hb : digit? b with
  | none => exact .inr rfl
  | some d =>
    obtain ⟨hd, rfl⟩ := eq_digit_of_digit? hb
    rw [htakes _ d n hb] at hnext
    obtain ⟨rfl, rfl⟩ := Prod.mk.inj (Option.some.inj hnext)
    exact .inl ⟨d, hd, rfl, rfl, rfl⟩

/-- After the magnitude a number goes on as a tail. -/
theorem Tail.next? (h : part.Tail t) (hnext : part.next? b n = some (part', n')) :
    part'.Tail (t ++ [b]) ∧ n' = n := by
  cases h with
  | point =>
    rcases digit_of_next? takesDigits_point.first hnext with ⟨d, hd, rfl, rfl, rfl⟩ | hb
    · exact ⟨.fraction (.one hd), rfl⟩
    · simp [NumberPart.next?, hb] at hnext
  | fraction hs =>
    rcases digit_of_next? takesDigits_point.next hnext with ⟨d, hd, rfl, rfl, rfl⟩ | hb
    · exact ⟨.fraction (.next hs hd), rfl⟩
    · simp only [NumberPart.next?, hb, Option.ite_none_right_eq_some, Option.some.injEq,
        Prod.mk.injEq, Bool.or_eq_true, beq_iff_eq] at hnext
      obtain ⟨he, rfl, rfl⟩ := hnext
      exact ⟨.exponent (.some hs) (by simpa using he), rfl⟩
  | exponent hf he =>
    rw [List.append_assoc, List.singleton_append]
    rcases digit_of_next? takesDigits_exponent.first hnext with ⟨d, hd, rfl, rfl, rfl⟩ | hb
    · exact ⟨.exponentDigits hf (.unsigned he (.one hd)), rfl⟩
    · simp only [NumberPart.next?, hb, Option.ite_none_right_eq_some, Option.some.injEq,
        Prod.mk.injEq, Bool.or_eq_true, beq_iff_eq] at hnext
      obtain ⟨hsign, rfl, rfl⟩ := hnext
      exact ⟨.exponentSign hf he (by simpa using hsign), rfl⟩
  | exponentSign hf he hsign =>
    rw [List.append_assoc]
    rcases digit_of_next? takesDigits_exponentSign.first hnext with ⟨d, hd, rfl, rfl, rfl⟩ | hb
    · exact ⟨.exponentDigits hf (.signed he hsign (.one hd)), rfl⟩
    · simp [NumberPart.next?, hb] at hnext
  | exponentDigits hf ht =>
    rw [List.append_assoc]
    rcases digit_of_next? takesDigits_exponent.next hnext with ⟨d, hd, rfl, rfl, rfl⟩ | hb
    · exact ⟨.exponentDigits hf (ht.next hd), rfl⟩
    · simp [NumberPart.next?, hb] at hnext

/-- The first byte after the magnitude is a point or starts an exponent. -/
theorem tail_of_magnitude (hb : digit? b = none) {m : Nat}
    (hpart : part = .zero ∨ part = .whole) {negative : Bool}
    (hnext : part.next? b ⟨negative, m, true⟩ = some (part', n')) :
    part'.Tail [b] ∧ n' = ⟨negative, m, false⟩ := by
  have hone : (if b == 0x2E then some (NumberPart.point, (⟨negative, m, false⟩ : Number))
      else if b == 0x65 || b == 0x45 then some (.exponent, ⟨negative, m, false⟩)
      else none) = some (part', n') := by
    rcases hpart with rfl | rfl <;> simpa only [NumberPart.next?, hb] using hnext
  split at hone
  · obtain ⟨rfl, rfl⟩ := Prod.mk.inj (Option.some.inj hone)
    obtain rfl : b = 0x2E := by simpa using ‹(b == 0x2E) = true›
    exact ⟨.point, rfl⟩
  · split at hone
    · obtain ⟨rfl, rfl⟩ := Prod.mk.inj (Option.some.inj hone)
      exact ⟨.exponent .none (by simpa using ‹(b == 0x65 || b == 0x45) = true›), rfl⟩
    · cases hone

theorem Read.next? (h : part.Read n bytes) (hnext : part.next? b n = some (part', n')) :
    part'.Read n' (bytes ++ [b]) := by
  cases h with
  | @sign negative g hg =>
    cases hb : digit? b with
    | none => simp [NumberPart.next?, hb] at hnext
    | some d =>
      obtain ⟨hd, rfl⟩ := eq_digit_of_digit? hb
      cases d with
      | zero =>
        simp only [NumberPart.next?, hb, Option.some.injEq, Prod.mk.injEq] at hnext
        obtain ⟨rfl, rfl⟩ := hnext
        exact .zero hg
      | succ d =>
        simp only [NumberPart.next?, hb, Option.some.injEq, Prod.mk.injEq] at hnext
        obtain ⟨rfl, rfl⟩ := hnext
        exact .whole hg (.first (Nat.succ_pos d) hd) (Nat.succ_pos d)
  | @zero negative g hg =>
    cases hb : digit? b with
    | none =>
      obtain ⟨htail, rfl⟩ := tail_of_magnitude hb (.inl rfl) hnext
      rw [List.append_assoc]
      exact .tail hg .zero htail
    | some d => simp [NumberPart.next?, hb] at hnext
  | @whole negative m g s hg hs hpos =>
    rw [List.append_assoc]
    cases hb : digit? b with
    | none =>
      obtain ⟨htail, rfl⟩ := tail_of_magnitude hb (.inr rfl) hnext
      exact .tail hg hs htail
    | some d =>
      obtain ⟨hd, rfl⟩ := eq_digit_of_digit? hb
      simp only [NumberPart.next?, hb, Option.some.injEq, Prod.mk.injEq] at hnext
      obtain ⟨rfl, rfl⟩ := hnext
      exact .whole hg (.next hs hpos hd) (by omega)
  | @tail _ negative m g s t hg hs ht =>
    obtain ⟨htail, rfl⟩ := ht.next? hnext
    rw [List.append_assoc, List.append_assoc]
    exact .tail hg hs htail

/-- What may end there is a number. -/
theorem Read.written (h : part.Read n bytes) (hpart : part.isComplete = true) :
    n.Written bytes := by
  cases h with
  | sign _ => cases hpart
  | @zero negative g hg =>
    have hwritten := Number.written_of_sign hg .zero .none
    rwa [List.append_nil] at hwritten
  | @whole negative m g s hg hs _ =>
    have hwritten := Number.written_of_sign hg hs .none
    rwa [List.append_nil] at hwritten
  | tail hg hs ht =>
    refine Number.written_of_sign hg hs ?_
    cases ht with
    | point | exponent _ _ | exponentSign _ _ _ => cases hpart
    | fraction hs => exact .fraction hs
    | exponentDigits hf ht =>
      cases hf with
      | none => exact .exponent ht
      | some hs => exact .both hs ht

end NumberPart

/-! ### Strings -/

theorem mem_shortEscapes {e : UInt8} {u : UInt16} (h : shortEscape? e = some u) :
    (e, u) ∈ shortEscapes := by
  have hall : ∀ n < 256, (shortEscape? (UInt8.ofNat n)).all
      (fun u => (UInt8.ofNat n, u) ∈ shortEscapes) = true := by decide +kernel
  have he := hall e.toNat e.toNat_lt
  rw [UInt8.ofNat_toNat, h] at he
  exact of_decide_eq_true he

theorem Quoted.snoc {p : Piece} {ps : List Piece} {s t : List UInt8} (h : Quoted ps s)
    (hp : p.Written t) : Quoted (ps ++ [p]) (s ++ t) := by
  induction h with
  | nil =>
    have hone := Quoted.cons hp .nil
    rwa [List.append_nil] at hone
  | cons hq _ ih =>
    rw [List.append_assoc]
    exact .cons hq ih

/-- Hexadecimal digits, and the number they make. -/
inductive HexDigits : Nat → List UInt8 → Prop where
  | nil : HexDigits 0 []
  | snoc {v d : Nat} {s : List UInt8} {b : UInt8} : HexDigits v s → HexDigit d b →
    HexDigits (16 * v + d) (s ++ [b])

theorem HexDigits.eq_nil {v : Nat} {s : List UInt8} (h : HexDigits v s) (hlength : s.length = 0) :
    v = 0 ∧ s = [] := by
  cases h with
  | nil => exact ⟨rfl, rfl⟩
  | snoc _ _ => simp at hlength

theorem HexDigits.exists_snoc {v k : Nat} {s : List UInt8} (h : HexDigits v s)
    (hlength : s.length = k + 1) :
    ∃ v' d t b, HexDigits v' t ∧ t.length = k ∧ HexDigit d b ∧ v = 16 * v' + d ∧ s = t ++ [b] := by
  cases h with
  | nil => cases hlength
  | @snoc v' d t b ht hb =>
    rw [List.length_append, List.length_singleton] at hlength
    exact ⟨v', d, t, b, ht, by omega, hb, rfl, rfl⟩

/-- Four digits are the escape of a unit. -/
theorem HexDigits.written {v : Nat} {s : List UInt8} (h : HexDigits v s) (hlength : s.length = 4) :
    (Piece.unit v.toUInt16).Written (backslash :: 0x75 :: s) := by
  obtain ⟨v₃, d₄, t₃, b₄, ht₃, hl₃, h₄, rfl, rfl⟩ := h.exists_snoc hlength
  obtain ⟨v₂, d₃, t₂, b₃, ht₂, hl₂, h₃, rfl, rfl⟩ := ht₃.exists_snoc hl₃
  obtain ⟨v₁, d₂, t₁, b₂, ht₁, hl₁, h₂, rfl, rfl⟩ := ht₂.exists_snoc hl₂
  obtain ⟨v₀, d₁, t₀, b₁, ht₀, hl₀, h₁, rfl, rfl⟩ := ht₁.exists_snoc hl₁
  obtain ⟨rfl, rfl⟩ := ht₀.eq_nil hl₀
  rw [Nat.mul_zero, Nat.zero_add]
  exact .unit h₁ h₂ h₃ h₄

/-! ### Modes -/

/-- The bytes since the last token, when a mode has been reached. -/
def Mode.Open : Mode → List UInt8 → Prop
  | between, bytes => bytes = []
  | word rest token, bytes => token.Written (bytes ++ rest)
  | string read, bytes => ∃ s, Quoted read.reverse s ∧ bytes = quote :: s
  | escape read, bytes => ∃ s, Quoted read.reverse s ∧ bytes = quote :: s ++ [backslash]
  | unit read missing value, bytes => ∃ s digits, Quoted read.reverse s ∧ HexDigits value digits ∧
      digits.length + missing = 4 ∧ 0 < missing ∧ bytes = quote :: s ++ backslash :: 0x75 :: digits
  | number part n, bytes => part.Read n bytes

/-- What a byte makes of the bytes since the last token: it goes on with them, it makes them a
token, or it is a blank where there are none. -/
inductive Grows (bytes : List UInt8) (b : UInt8) : List Token → Mode → Prop where
  | goesOn {m : Mode} : m.Open (bytes ++ [b]) → Grows bytes b [] m
  | token {t : Token} : t.Written (bytes ++ [b]) → Grows bytes b [t] .between
  | blank : bytes = [] → isBlank b = true → Grows bytes b [] .between

theorem written_of_punctuation? {b : UInt8} {t : Token} (h : punctuation? b = some t) :
    t.Written [b] := by
  have hall : ∀ n < 256, ∀ t ∈ (punctuation? (UInt8.ofNat n)).toList,
      (UInt8.ofNat n, t) ∈ punctuation := by decide +kernel
  have hb := hall b.toNat b.toNat_lt t
  rw [UInt8.ofNat_toNat, h] at hb
  exact .punctuation (hb (List.mem_singleton.mpr rfl))

theorem Mode.grows_start {b : UInt8} {tokens : List Token} {m : Mode}
    (h : start b = some (tokens, m)) : Grows [] b tokens m := by
  unfold start at h
  split at h
  · cases h
    exact .blank rfl ‹_›
  · split at h
    · cases h
      exact .token (written_of_punctuation? ‹_›)
    · repeat' split at h
      case isTrue hb =>
        cases h
        obtain rfl : b = quote := by simpa using hb
        exact .goesOn ⟨[], .nil, rfl⟩
      case isFalse.isTrue hb =>
        cases h
        obtain rfl : b = 0x74 := by simpa using hb
        exact .goesOn .true
      case isFalse.isFalse.isTrue hb =>
        cases h
        obtain rfl : b = 0x66 := by simpa using hb
        exact .goesOn .false
      case isFalse.isFalse.isFalse.isTrue hb =>
        cases h
        obtain rfl : b = 0x6E := by simpa using hb
        exact .goesOn .null
      case isFalse.isFalse.isFalse.isFalse.isTrue hb =>
        cases h
        obtain rfl : b = 0x2D := by simpa using hb
        exact .goesOn (.sign .minus)
      case isFalse.isFalse.isFalse.isFalse.isFalse =>
        obtain ⟨⟨part, n⟩, hnext, hm⟩ := Option.map_eq_some_iff.mp h
        cases hm
        exact .goesOn ((NumberPart.Read.sign .plus).next? hnext)

section Grows
variable {m : Mode} {bytes rest : List UInt8} {b : UInt8} {tokens : List Token} {token : Token}
  {read : List Piece}

theorem Mode.grows_word (h : token.Written (bytes ++ rest))
    (hstep : (word rest token).step b = some (tokens, m)) : Grows bytes b tokens m := by
  match rest, h with
  | [], _ => cases hstep
  | [c], h =>
    obtain ⟨hb, hm⟩ := Option.ite_none_right_eq_some.mp hstep
    cases hm
    obtain rfl : b = c := by simpa using hb
    exact .token h
  | c :: c' :: rest, h =>
    obtain ⟨hb, hm⟩ := Option.ite_none_right_eq_some.mp hstep
    cases hm
    obtain rfl : b = c := by simpa using hb
    refine .goesOn ?_
    show token.Written (bytes ++ [b] ++ c' :: rest)
    rwa [List.append_assoc, List.singleton_append]

theorem Mode.grows_string {s : List UInt8} (hs : Quoted read.reverse s)
    (hstep : (string read).step b = some (tokens, m)) : Grows (quote :: s) b tokens m := by
  simp only [step] at hstep
  repeat' split at hstep
  case isTrue hb =>
    cases hstep
    obtain rfl : b = quote := by simpa using hb
    exact .token (.string hs)
  case isFalse.isTrue hb =>
    cases hstep
    obtain rfl : b = backslash := by simpa using hb
    exact .goesOn ⟨s, hs, rfl⟩
  case isFalse.isFalse.isTrue => cases hstep
  case isFalse.isFalse.isFalse hquote hbackslash hle =>
    cases hstep
    refine .goesOn ⟨s ++ [b], ?_, rfl⟩
    rw [List.reverse_cons]
    exact hs.snoc (.byte (by simpa using hle) (by simpa using hquote) (by simpa using hbackslash))

theorem Mode.grows_escape {s : List UInt8} (hs : Quoted read.reverse s)
    (hstep : (escape read).step b = some (tokens, m)) :
    Grows (quote :: s ++ [backslash]) b tokens m := by
  simp only [step] at hstep
  split at hstep
  case isTrue hb =>
    cases hstep
    obtain rfl : b = 0x75 := by simpa using hb
    exact .goesOn ⟨s, [], hs, .nil, rfl, by decide, by simp⟩
  case isFalse =>
    obtain ⟨u, hu, hm⟩ := Option.map_eq_some_iff.mp hstep
    cases hm
    refine .goesOn ⟨s ++ [backslash, b], ?_, by simp⟩
    rw [List.reverse_cons]
    exact hs.snoc (.short (mem_shortEscapes hu))

theorem Mode.grows_unit {missing value : Nat} {s digits : List UInt8} (hs : Quoted read.reverse s)
    (hdigits : HexDigits value digits) (hlength : digits.length + missing = 4) (hpos : 0 < missing)
    (hstep : (unit read missing value).step b = some (tokens, m)) :
    Grows (quote :: s ++ backslash :: 0x75 :: digits) b tokens m := by
  obtain ⟨d, hd, hstep⟩ := Option.bind_eq_some_iff.mp hstep
  have hmore := hdigits.snoc (hexDigit_of_hexDigit? hd)
  split at hstep
  case isTrue hmissing =>
    cases hstep
    refine .goesOn ⟨s ++ backslash :: 0x75 :: (digits ++ [b]), ?_, by simp⟩
    rw [List.reverse_cons]
    refine hs.snoc (hmore.written ?_)
    rw [List.length_append, List.length_singleton]
    omega
  case isFalse hmissing =>
    cases hstep
    refine .goesOn ⟨s, digits ++ [b], hs, hmore, ?_, by omega, by simp⟩
    rw [List.length_append, List.length_singleton]
    omega

/-- A byte goes on with what is open, or finishes it; a number it finishes first, and then it is a
byte outside any token. -/
theorem Mode.Open.grows {m' : Mode} (h : m.Open bytes) (hstep : m.step b = some (tokens, m')) :
    Grows bytes b tokens m' ∨
      ∃ n us, n.Written bytes ∧ tokens = .number n :: us ∧ Grows [] b us m' := by
  cases m with
  | between =>
    obtain rfl : bytes = [] := h
    exact .inl (grows_start hstep)
  | word rest token => exact .inl (grows_word h hstep)
  | string read =>
    obtain ⟨s, hs, rfl⟩ := h
    exact .inl (grows_string hs hstep)
  | escape read =>
    obtain ⟨s, hs, rfl⟩ := h
    exact .inl (grows_escape hs hstep)
  | unit read missing value =>
    obtain ⟨s, digits, hs, hdigits, hlength, hpos, rfl⟩ := h
    exact .inl (grows_unit hs hdigits hlength hpos hstep)
  | number part n =>
    simp only [step] at hstep
    split at hstep
    case h_1 part' n' hnext =>
      cases hstep
      exact .inl (.goesOn (NumberPart.Read.next? h hnext))
    case h_2 =>
      obtain ⟨hpart, hstart⟩ := Option.ite_none_right_eq_some.mp hstep
      obtain ⟨⟨us, m''⟩, hus, hm⟩ := Option.map_eq_some_iff.mp hstart
      cases hm
      exact .inr ⟨n, us, NumberPart.Read.written h hpart, rfl, grows_start hus⟩

end Grows

/-! ### Texts -/

/-- Bytes that spell tokens, with blanks after the last of them too. -/
def Spelled (ts : List Token) (bytes : List UInt8) : Prop :=
  ∃ text after, Spells ts text ∧ AllBlank after ∧ bytes = text ++ after

theorem allBlank_nil : AllBlank [] := fun _ hb => nomatch hb

theorem spelled_nil {bytes : List UInt8} (h : AllBlank bytes) : Spelled [] bytes :=
  ⟨[], bytes, .nil, h, rfl⟩

theorem Spelled.blank {ts : List Token} {bytes : List UInt8} (h : Spelled ts bytes) {b : UInt8}
    (hb : isBlank b = true) : Spelled ts (b :: bytes) := by
  obtain ⟨text, after, hspells, hafter, rfl⟩ := h
  cases hspells with
  | nil => exact ⟨[], b :: after, .nil, List.forall_mem_cons.mpr ⟨hb, hafter⟩, rfl⟩
  | @cons t ts blanks s rest hblanks ht hrest =>
    exact ⟨b :: blanks ++ s ++ rest, after,
      .cons (List.forall_mem_cons.mpr ⟨hb, hblanks⟩) ht hrest, hafter, rfl⟩

theorem Spelled.token {t : Token} {ts : List Token} {s bytes : List UInt8} (h : Spelled ts bytes)
    (ht : t.Written s) : Spelled (t :: ts) (s ++ bytes) := by
  obtain ⟨text, after, hspells, hafter, rfl⟩ := h
  exact ⟨s ++ text, after, spells_cons ht hspells, hafter, (List.append_assoc s text after).symm⟩

/-- Whatever a byte makes of the bytes since the last token, the text goes on from there. -/
theorem Grows.spelled {bytes rest : List UInt8} {b : UInt8} {tokens us : List Token} {m : Mode}
    (h : Grows bytes b tokens m)
    (hrest : ∀ open', m.Open open' → Spelled us (open' ++ rest)) :
    Spelled (tokens ++ us) (bytes ++ b :: rest) := by
  have happend : bytes ++ [b] ++ rest = bytes ++ b :: rest := by simp
  cases h with
  | goesOn hopen =>
    rw [← happend]
    exact hrest _ hopen
  | token ht =>
    rw [← happend]
    exact (hrest [] rfl).token ht
  | blank hnil hb =>
    subst hnil
    exact (hrest [] rfl).blank hb

/-- What is read from a mode on is spelled by the bytes since the last token and those that follow. -/
theorem Mode.Open.spelled {m : Mode} {bytes rest : List UInt8} (h : m.Open bytes)
    {done us : List Token} (hlex : lexFrom m done rest = some (done.reverse ++ us)) :
    Spelled us (bytes ++ rest) := by
  induction rest generalizing m bytes done us with
  | nil =>
    obtain ⟨last, hlast, hus⟩ := Option.map_eq_some_iff.mp hlex
    obtain rfl := List.append_cancel_left hus
    rw [List.append_nil]
    cases m with
    | between =>
      cases hlast
      obtain rfl : bytes = [] := h
      exact spelled_nil allBlank_nil
    | number part n =>
      obtain ⟨hpart, hn⟩ := Option.ite_none_right_eq_some.mp hlast
      cases hn
      have hone := (spelled_nil allBlank_nil).token
        (.number (NumberPart.Read.written h hpart))
      rwa [List.append_nil] at hone
    | _ => cases hlast
  | cons b rest ih =>
    rw [lexFrom] at hlex
    cases hstep : m.step b with
    | none =>
      rw [hstep] at hlex
      cases hlex
    | some found =>
      obtain ⟨tokens, m'⟩ := found
      rw [hstep] at hlex
      -- The tokens this byte finished stand first in what is read.
      obtain ⟨read, m'', last, -, -, hsplit⟩ := reads_of_lexFrom hlex
      rw [List.reverse_append, List.reverse_reverse, List.append_assoc] at hsplit
      obtain rfl := List.append_cancel_left hsplit
      have hrest : ∀ bytes', m'.Open bytes' → Spelled (read ++ last) (bytes' ++ rest) := by
        intro bytes' hopen
        refine ih hopen (hlex.trans ?_)
        rw [List.reverse_append, List.reverse_reverse, List.append_assoc]
      rcases h.grows hstep with hgrows | ⟨n, us, hn, rfl, hgrows⟩
      · exact hgrows.spelled hrest
      · exact (hgrows.spelled hrest).token (.number hn)

/-- **A text is read as tokens only if it spells them.** -/
theorem spelled_of_lex {bytes : List UInt8} {ts : List Token} (h : lex bytes = some ts) :
    Spelled ts bytes := by
  have hopen : Mode.between.Open [] := rfl
  have hlex : lexFrom .between [] bytes = some (List.reverse [] ++ ts) := h
  exact hopen.spelled hlex

end SnapshotFeed.Json
