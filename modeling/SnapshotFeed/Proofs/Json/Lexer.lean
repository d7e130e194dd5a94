import SnapshotFeed.Proofs.Json.Grammar

/-! The lexer reads what is written.

A mode reads bytes to another mode, whatever comes after them (`Mode.Reads`); only the end of a
number is seen at the byte after it, so a number must be apart from what follows (`Separated`).
`lex_of_spells`: bytes that spell separated tokens are read as these tokens. -/
namespace SnapshotFeed.Json

/-- The bytes take the lexer from a mode to a mode, and finish these tokens. -/
def Mode.Reads (m : Mode) (bytes : List UInt8) (tokens : List Token) (m' : Mode) : Prop :=
  ∀ done rest, lexFrom m done (bytes ++ rest) = lexFrom m' (tokens.reverse ++ done) rest

namespace Mode.Reads
variable {m m' m'' : Mode} {a b : List UInt8} {ts us : List Token}

theorem refl : m.Reads [] [] m := fun _ _ => rfl

theorem byte {c : UInt8} (h : m.step c = some (ts, m')) : m.Reads [c] ts m' := by
  intro done rest
  simp [lexFrom, h]

theorem trans (h : m.Reads a ts m') (h' : m'.Reads b us m'') : m.Reads (a ++ b) (ts ++ us) m'' := by
  intro done rest
  rw [List.append_assoc, h, h', List.reverse_append, List.append_assoc]

theorem skip (h : m.Reads a [] m') (h' : m'.Reads b us m'') : m.Reads (a ++ b) us m'' := h.trans h'

theorem cons {c : UInt8} (h : m.step c = some ([], m')) (h' : m'.Reads b us m'') :
    m.Reads (c :: b) us m'' := (byte h).skip h'

end Mode.Reads

/-! ### Digits and numbers -/

theorem digit?_digit {d : Nat} (h : d < 10) : digit? (digit d) = some d := by
  revert d
  decide

theorem hexDigit?_of_hexDigit {d : Nat} {b : UInt8} (h : HexDigit d b) :
    hexDigit? b.toNat = some d := by
  cases h with
  | decimal h =>
    revert d
    decide
  | @upper d h =>
    revert d
    decide
  | @lower d h =>
    revert d
    decide

/-- How far a magnitude has been read at its end. -/
def afterMagnitude (n : Nat) : NumberPart := if n = 0 then .zero else .whole

theorem start_digit {d : Nat} (h : d < 10) :
    Mode.step .between (digit d) = Mode.step (.number .sign ⟨false, 0, true⟩) (digit d) := by
  revert d
  decide

theorem reads_magnitude {n : Nat} {s : List UInt8} (h : Magnitude n s) (negative : Bool) :
    (Mode.number .sign ⟨negative, 0, true⟩).Reads s []
      (.number (afterMagnitude n) ⟨negative, n, true⟩) := by
  induction h with
  | zero => exact .byte rfl
  | @first d hpos hd =>
    refine .byte ?_
    have hdigit := digit?_digit hd
    obtain ⟨k, rfl⟩ := Nat.exists_eq_succ_of_ne_zero (Nat.ne_of_gt hpos)
    simp [Mode.step, NumberPart.next?, hdigit, afterMagnitude]
  | @next n d s _ hpos hd ih =>
    have hwhole : afterMagnitude n = .whole := if_neg (Nat.ne_of_gt hpos)
    have hwhole' : afterMagnitude (10 * n + d) = .whole := if_neg (by omega)
    rw [hwhole] at ih
    rw [hwhole']
    refine ih.skip (.byte ?_)
    simp [Mode.step, NumberPart.next?, digit?_digit hd]

theorem step_number {part part' : NumberPart} {n n' : Number} {b : UInt8}
    (h : part.next? b n = some (part', n')) :
    (Mode.number part n).step b = some ([], .number part' n') := by
  simp only [Mode.step, h]

/-- A part of a number in which digits follow digits. -/
structure TakesDigits (part after : NumberPart) : Prop where
  first : ∀ b d n, digit? b = some d → part.next? b n = some (after, n)
  next : ∀ b d n, digit? b = some d → after.next? b n = some (after, n)

theorem reads_digits {part after : NumberPart} (h : TakesDigits part after) {s : List UInt8}
    (hs : Digits s) (n : Number) : (Mode.number part n).Reads s [] (.number after n) := by
  induction hs with
  | one hd => exact .byte (step_number (h.first _ _ n (digit?_digit hd)))
  | next _ hd ih => exact ih.skip (.byte (step_number (h.next _ _ n (digit?_digit hd))))

theorem takesDigits_point : TakesDigits .point .fraction := by
  constructor <;> intro b d n h <;> simp [NumberPart.next?, h]

theorem takesDigits_exponent : TakesDigits .exponent .exponentDigits := by
  constructor <;> intro b d n h <;> simp [NumberPart.next?, h]

theorem takesDigits_exponentSign : TakesDigits .exponentSign .exponentDigits := by
  constructor <;> intro b d n h <;> simp [NumberPart.next?, h]

theorem reads_exponent {t : List UInt8} (h : Exponent t) {part : NumberPart} {n n' : Number}
    (hpart : ∀ e ∈ [0x65, 0x45], part.next? e n = some (.exponent, n')) :
    (Mode.number part n).Reads t [] (.number .exponentDigits n') := by
  cases h with
  | @unsigned e s he hs =>
    exact .cons (step_number (hpart e he)) (reads_digits takesDigits_exponent hs n')
  | @signed e sign s he hsign hs =>
    have hstep : NumberPart.exponent.next? sign n' = some (.exponentSign, n') := by
      simp only [List.mem_cons, List.not_mem_nil, or_false] at hsign
      rcases hsign with rfl | rfl <;> rfl
    exact .cons (step_number (hpart e he))
      (.cons (step_number hstep) (reads_digits takesDigits_exponentSign hs n'))

theorem next?_point (n : Nat) (negative : Bool) :
    (afterMagnitude n).next? 0x2E ⟨negative, n, true⟩ = some (.point, ⟨negative, n, false⟩) := by
  unfold afterMagnitude
  split <;> rfl

theorem next?_exponent (n : Nat) (negative : Bool) :
    ∀ e ∈ [0x65, 0x45],
      (afterMagnitude n).next? e ⟨negative, n, true⟩ = some (.exponent, ⟨negative, n, false⟩) := by
  intro e he
  simp only [List.mem_cons, List.not_mem_nil, or_false] at he
  unfold afterMagnitude
  rcases he with rfl | rfl <;> split <;> rfl

/-- A number is read to a part at which it may end. -/
theorem reads_decimals {integral : Bool} {t : List UInt8} (h : Decimals integral t) (n : Nat)
    (negative : Bool) :
    ∃ part, part.isComplete = true ∧
      (Mode.number (afterMagnitude n) ⟨negative, n, true⟩).Reads t []
        (.number part ⟨negative, n, integral⟩) := by
  have hfraction : ∀ {s : List UInt8}, Digits s →
      (Mode.number (afterMagnitude n) ⟨negative, n, true⟩).Reads (0x2E :: s) []
        (.number .fraction ⟨negative, n, false⟩) := fun hs =>
    .cons (step_number (next?_point n negative)) (reads_digits takesDigits_point hs _)
  cases h with
  | none =>
    refine ⟨afterMagnitude n, ?_, .refl⟩
    unfold afterMagnitude
    split <;> rfl
  | fraction hs => exact ⟨.fraction, rfl, hfraction hs⟩
  | both hs ht =>
    refine ⟨.exponentDigits, rfl, (hfraction hs).skip (reads_exponent ht ?_)⟩
    intro e he
    simp only [List.mem_cons, List.not_mem_nil, or_false] at he
    rcases he with rfl | rfl <;> rfl
  | exponent ht => exact ⟨.exponentDigits, rfl, reads_exponent ht (next?_exponent n negative)⟩

theorem exists_digit_of_magnitude {n : Nat} {s : List UInt8} (h : Magnitude n s) :
    ∃ d rest, d < 10 ∧ s = digit d :: rest := by
  induction h with
  | zero => exact ⟨0, [], by decide, rfl⟩
  | first _ hd => exact ⟨_, [], hd, rfl⟩
  | next _ _ _ ih =>
    obtain ⟨d, rest, hd, rfl⟩ := ih
    exact ⟨d, _, hd, rfl⟩

theorem reads_number {n : Number} {s : List UInt8} (h : n.Written s) :
    ∃ part, part.isComplete = true ∧ Mode.between.Reads s [] (.number part n) := by
  cases h with
  | @positive n integral s t hs ht =>
    obtain ⟨part, hpart, hdecimals⟩ := reads_decimals ht n false
    obtain ⟨d, rest, hd, rfl⟩ := exists_digit_of_magnitude hs
    refine ⟨part, hpart, fun done more => ?_⟩
    rw [← (reads_magnitude hs false).skip hdecimals done more]
    simp only [List.cons_append, lexFrom, start_digit hd]
  | @negative n integral s t hs ht =>
    obtain ⟨part, hpart, hdecimals⟩ := reads_decimals ht n true
    exact ⟨part, hpart, .cons rfl ((reads_magnitude hs true).skip hdecimals)⟩

/-! ### Strings -/

theorem shortEscape?_of_mem {e : UInt8} {u : UInt16} (h : (e, u) ∈ shortEscapes) :
    e ≠ 0x75 ∧ shortEscape? e = some u := by
  have hall : shortEscapes.all (fun pair => pair.1 != 0x75 && shortEscape? pair.1 == some pair.2) =
      true := by decide
  simpa using List.all_eq_true.mp hall _ h

theorem step_unit {d : Nat} {b : UInt8} (h : HexDigit d b) {missing : Nat} (hmissing : 1 < missing)
    {read : List Piece} {value : Nat} :
    (Mode.unit read missing value).step b =
      some ([], .unit read (missing - 1) (16 * value + d)) := by
  simp [Mode.step, hexDigit?_of_hexDigit h, Nat.not_le.mpr hmissing]

theorem reads_piece {p : Piece} {s : List UInt8} (h : p.Written s) (read : List Piece) :
    (Mode.string read).Reads s [] (.string (p :: read)) := by
  have hbackslash : (Mode.string read).step backslash = some ([], .escape read) := rfl
  cases h with
  | @byte b hle hquote hne =>
    have hlt : ¬b < 0x20 := by simpa using hle
    exact .byte (by simp [Mode.step, hquote, hne, hlt])
  | @short e u h =>
    obtain ⟨hne, hescape⟩ := shortEscape?_of_mem h
    refine .cons hbackslash (.byte ?_)
    simp [Mode.step, hne, hescape]
  | @unit d₁ d₂ d₃ d₄ _ _ _ _ h₁ h₂ h₃ h₄ =>
    have hunit : (Mode.escape read).step 0x75 = some ([], .unit read 4 0) := rfl
    refine .cons hbackslash (.cons hunit (.cons (step_unit h₁ (by decide))
      (.cons (step_unit h₂ (by decide)) (.cons (step_unit h₃ (by decide)) (.byte ?_)))))
    simp only [Mode.step, hexDigit?_of_hexDigit h₄]
    simp

theorem reads_quoted {ps : List Piece} {s : List UInt8} (h : Quoted ps s) (read : List Piece) :
    (Mode.string read).Reads s [] (.string (ps.reverse ++ read)) := by
  induction h generalizing read with
  | nil => exact .refl
  | @cons p ps s t hp _ ih =>
    rw [List.reverse_cons, List.append_assoc]
    exact (reads_piece hp read).skip (ih (p :: read))

/-! ### Tokens -/

def Token.IsNumber (t : Token) : Prop := ∃ n, t = .number n

def Token.IsPunctuation (t : Token) : Prop := ∃ b, (b, t) ∈ punctuation

/-- A number stands at the end or before punctuation. -/
def Separated : List Token → Prop
  | [] => True
  | t :: ts => (t.IsNumber → ∀ u ∈ ts.head?, u.IsPunctuation) ∧ Separated ts

theorem reads_blanks {blanks : List UInt8} (h : AllBlank blanks) :
    Mode.between.Reads blanks [] .between := by
  induction blanks with
  | nil => exact .refl
  | cons b blanks ih =>
    obtain ⟨hb, hblanks⟩ := List.forall_mem_cons.mp h
    exact .cons (by simp [Mode.step, Mode.start, hb]) (ih hblanks)

theorem step_punctuation {b : UInt8} {t : Token} (h : (b, t) ∈ punctuation) :
    Mode.between.step b = some ([t], .between) := by
  have hall : ∀ pair ∈ punctuation, Mode.between.step pair.1 = some ([pair.2], .between) := by
    decide
  exact hall _ h

theorem reads_token {t : Token} {s : List UInt8} (h : t.Written s) (hnumber : ¬t.IsNumber) :
    Mode.between.Reads s [t] .between := by
  cases h with
  | punctuation h => exact .byte (step_punctuation h)
  | null | true | false => exact fun _ _ => rfl
  | number _ => exact absurd ⟨_, rfl⟩ hnumber
  | @string ps s h =>
    have hquoted := reads_quoted h []
    rw [List.append_nil] at hquoted
    have hclose : (Mode.string ps.reverse).step quote = some ([.string ps], .between) := by
      simp [Mode.step]
    exact .cons rfl (hquoted.skip (.byte hclose))

/-- A byte that no number goes on with. -/
def EndsNumber (b : UInt8) : Prop := isBlank b = true ∨ ∃ t, (b, t) ∈ punctuation

theorem next?_of_endsNumber {b : UInt8} (h : EndsNumber b) {part : NumberPart}
    (hpart : part.isComplete = true) (n : Number) : part.next? b n = none := by
  have hb : digit? b = none ∧ b ≠ 0x2E ∧ b ≠ 0x65 ∧ b ≠ 0x45 := by
    rcases h with hblank | ⟨t, ht⟩
    · simp only [isBlank, Bool.or_eq_true, beq_iff_eq] at hblank
      rcases hblank with ((rfl | rfl) | rfl) | rfl <;> decide
    · have hall : ∀ pair ∈ punctuation, digit? pair.1 = none ∧ pair.1 ≠ 0x2E ∧ pair.1 ≠ 0x65 ∧
          pair.1 ≠ 0x45 := by decide
      exact hall _ ht
  obtain ⟨hdigit, hpoint, hlower, hupper⟩ := hb
  cases part with
  | zero | whole | fraction | exponentDigits =>
    simp [NumberPart.next?, hdigit, hpoint, hlower, hupper]
  | _ => cases hpart

theorem lexFrom_number {part : NumberPart} (hpart : part.isComplete = true) (n : Number)
    {rest : List UInt8} (hrest : ∀ b ∈ rest.head?, EndsNumber b) (done : List Token) :
    lexFrom (.number part n) done rest = lexFrom .between (.number n :: done) rest := by
  cases rest with
  | nil => simp [lexFrom, Mode.finish?, hpart]
  | cons b rest =>
    have hnext := next?_of_endsNumber (hrest b rfl) hpart n
    simp only [lexFrom, Mode.step, hnext, hpart, if_true]
    cases Mode.start b <;> simp

theorem endsNumber_of_spells {t : Token} {ts : List Token} {rest : List UInt8}
    (h : Spells (t :: ts) rest) (ht : t.IsPunctuation) : ∀ b ∈ rest.head?, EndsNumber b := by
  obtain ⟨p, hp⟩ := ht
  cases h with
  | @cons _ _ blanks s rest hblanks hs _ =>
    cases blanks with
    | cons b blanks =>
      intro c hc
      obtain rfl : b = c := by simpa using hc
      exact .inl (hblanks b List.mem_cons_self)
    | nil =>
      cases hs with
      | punctuation h =>
        intro c hc
        obtain rfl := by simpa using hc
        exact .inr ⟨t, h⟩
      | _ => simp [punctuation] at hp

theorem lexFrom_of_spells {ts : List Token} {bytes : List UInt8} (h : Spells ts bytes)
    (hsep : Separated ts) (done : List Token) :
    lexFrom .between done bytes = some (done.reverse ++ ts) := by
  induction h generalizing done with
  | nil => simp [lexFrom, Mode.finish?]
  | @cons t ts blanks s rest hblanks hs hrest ih =>
    obtain ⟨hnext, hts⟩ := hsep
    rw [List.append_assoc, reads_blanks hblanks]
    by_cases hnumber : t.IsNumber
    · obtain ⟨n, rfl⟩ := hnumber
      cases hs with
      | punctuation h => simp [punctuation] at h
      | number hn =>
        obtain ⟨part, hpart, hread⟩ := reads_number hn
        have hends : ∀ b ∈ rest.head?, EndsNumber b := by
          cases hrest with
          | nil =>
            intro b hb
            cases hb
          | cons hb hu hrest =>
            exact endsNumber_of_spells (.cons hb hu hrest) (hnext ⟨n, rfl⟩ _ rfl)
        rw [hread, lexFrom_number hpart n hends, ih hts]
        simp
    · rw [reads_token hs hnumber, ih hts]
      simp

theorem lex_of_spells {ts : List Token} {bytes : List UInt8} (h : Spells ts bytes)
    (hsep : Separated ts) : lex bytes = some ts := lexFrom_of_spells h hsep []

/-! ### Values -/

theorem separated_cons {t : Token} {ts : List Token} (ht : ¬t.IsNumber) (hts : Separated ts) :
    Separated (t :: ts) := ⟨fun hnumber => absurd hnumber ht, hts⟩

theorem separated_append_cons {b : UInt8} {t : Token} (h : (b, t) ∈ punctuation)
    {ts us : List Token} (hts : Separated ts) (hus : Separated us) : Separated (ts ++ t :: us) := by
  induction ts with
  | nil =>
    refine separated_cons ?_ hus
    rintro ⟨n, rfl⟩
    simp [punctuation] at h
  | cons u ts ih =>
    refine ⟨fun hnumber v hv => ?_, ih hts.2⟩
    cases ts with
    | nil =>
      obtain rfl : t = v := by simpa using hv
      exact ⟨b, h⟩
    | cons u' ts => exact hts.1 hnumber v hv

theorem separated_of_written {p : Phrase} {ts : List Token} (h : p.Written ts) : Separated ts := by
  have hbracket : (0x5D, .closeBracket) ∈ punctuation := by decide
  have hbrace : (0x7D, .closeBrace) ∈ punctuation := by decide
  have hcomma : (0x2C, .comma) ∈ punctuation := by decide
  have hnil : Separated [] := trivial
  induction h with
  | null | bool | number | string => exact ⟨fun _ u hu => (nomatch hu), hnil⟩
  | emptyArray => exact separated_cons nofun (separated_append_cons hbracket hnil hnil)
  | emptyObject => exact separated_cons nofun (separated_append_cons hbrace hnil hnil)
  | array _ ih => exact separated_cons nofun (separated_append_cons hbracket ih hnil)
  | object _ ih => exact separated_cons nofun (separated_append_cons hbrace ih hnil)
  | lastItem _ ih => exact ih
  | item _ _ ihv ihvs => exact separated_append_cons hcomma ihv ihvs
  | lastMember _ ih => exact separated_cons nofun (separated_cons nofun ih)
  | member _ _ ihv ihms =>
    exact separated_cons nofun (separated_cons nofun (separated_append_cons hcomma ihv ihms))

end SnapshotFeed.Json
