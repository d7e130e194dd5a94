import SnapshotFeed.Json.Value

/-! How JSON may be written.

A text is tokens with blanks before and between them, and a value is written by one list of tokens.
Nothing here reads: a relation says of each piece, number, token and value which bytes or tokens may
stand for it, with every choice a writer has (escapes, the case of digits and of `e`, blanks). -/
namespace SnapshotFeed.Json

/-! ### Numbers -/

def digit (d : Nat) : UInt8 := 0x30 + d.toUInt8

/-- The digits before any fraction, with no zero before another digit. -/
inductive Magnitude : Nat → List UInt8 → Prop where
  | zero : Magnitude 0 [digit 0]
  | first {d : Nat} : 0 < d → d < 10 → Magnitude d [digit d]
  | next {n d : Nat} {s : List UInt8} : Magnitude n s → 0 < n → d < 10 →
    Magnitude (10 * n + d) (s ++ [digit d])

/-- One digit or more. -/
inductive Digits : List UInt8 → Prop where
  | one {d : Nat} : d < 10 → Digits [digit d]
  | next {d : Nat} {s : List UInt8} : Digits s → d < 10 → Digits (s ++ [digit d])

inductive Exponent : List UInt8 → Prop where
  | unsigned {e : UInt8} {s : List UInt8} : e ∈ [0x65, 0x45] → Digits s → Exponent (e :: s)
  | signed {e sign : UInt8} {s : List UInt8} : e ∈ [0x65, 0x45] → sign ∈ [0x2B, 0x2D] → Digits s →
    Exponent (e :: sign :: s)

/-- What stands after the magnitude; nothing after that of an integer. -/
inductive Decimals : Bool → List UInt8 → Prop where
  | none : Decimals true []
  | fraction {s : List UInt8} : Digits s → Decimals false (0x2E :: s)
  | both {s t : List UInt8} : Digits s → Exponent t → Decimals false (0x2E :: s ++ t)
  | exponent {t : List UInt8} : Exponent t → Decimals false t

inductive Number.Written : Number → List UInt8 → Prop where
  | positive {n : Nat} {integral : Bool} {s t : List UInt8} : Magnitude n s → Decimals integral t →
    Written ⟨false, n, integral⟩ (s ++ t)
  | negative {n : Nat} {integral : Bool} {s t : List UInt8} : Magnitude n s → Decimals integral t →
    Written ⟨true, n, integral⟩ (0x2D :: (s ++ t))

/-! ### Strings -/

inductive HexDigit : Nat → UInt8 → Prop where
  | decimal {d : Nat} : d < 10 → HexDigit d (digit d)
  | upper {d : Nat} : d < 6 → HexDigit (10 + d) (0x41 + d.toUInt8)
  | lower {d : Nat} : d < 6 → HexDigit (10 + d) (0x61 + d.toUInt8)

/-- The letters after a backslash, and the units they stand for. -/
def shortEscapes : List (UInt8 × UInt16) :=
  [(0x22, 0x22), (0x5C, 0x5C), (0x2F, 0x2F), (0x62, 0x08), (0x66, 0x0C), (0x6E, 0x0A), (0x72, 0x0D),
    (0x74, 0x09)]

inductive Piece.Written : Piece → List UInt8 → Prop where
  | byte {b : UInt8} : 0x20 ≤ b → b ≠ quote → b ≠ backslash → Written (.byte b) [b]
  | short {e : UInt8} {u : UInt16} : (e, u) ∈ shortEscapes → Written (.unit u) [backslash, e]
  | unit {d₁ d₂ d₃ d₄ : Nat} {b₁ b₂ b₃ b₄ : UInt8} : HexDigit d₁ b₁ → HexDigit d₂ b₂ →
    HexDigit d₃ b₃ → HexDigit d₄ b₄ →
    Written (.unit (16 * (16 * (16 * d₁ + d₂) + d₃) + d₄).toUInt16)
      [backslash, 0x75, b₁, b₂, b₃, b₄]

/-- What stands between the quotes. -/
inductive Quoted : List Piece → List UInt8 → Prop where
  | nil : Quoted [] []
  | cons {p : Piece} {ps : List Piece} {s t : List UInt8} : p.Written s → Quoted ps t →
    Quoted (p :: ps) (s ++ t)

/-! ### Tokens -/

def punctuation : List (UInt8 × Token) :=
  [(0x7B, .openBrace), (0x7D, .closeBrace), (0x5B, .openBracket), (0x5D, .closeBracket),
    (0x2C, .comma), (0x3A, .colon)]

inductive Token.Written : Token → List UInt8 → Prop where
  | punctuation {b : UInt8} {t : Token} : (b, t) ∈ punctuation → Written t [b]
  | null : Written .null (ascii "null")
  | true : Written (.bool true) (ascii "true")
  | false : Written (.bool false) (ascii "false")
  | number {n : Number} {s : List UInt8} : n.Written s → Written (.number n) s
  | string {ps : List Piece} {s : List UInt8} : Quoted ps s →
    Written (.string ps) (quote :: s ++ [quote])

def AllBlank (bytes : List UInt8) : Prop := ∀ b ∈ bytes, isBlank b = true

/-- Tokens with blanks before each of them. -/
inductive Spells : List Token → List UInt8 → Prop where
  | nil : Spells [] []
  | cons {t : Token} {ts : List Token} {blanks s rest : List UInt8} : AllBlank blanks →
    t.Written s → Spells ts rest → Spells (t :: ts) (blanks ++ s ++ rest)

theorem spells_cons {t : Token} {ts : List Token} {s rest : List UInt8} (h : t.Written s)
    (hrest : Spells ts rest) : Spells (t :: ts) (s ++ rest) := by
  have hnone : AllBlank [] := fun b hb => nomatch hb
  exact Spells.cons hnone h hrest

theorem spells_punctuation {b : UInt8} {t : Token} (h : (b, t) ∈ punctuation) {ts : List Token}
    {rest : List UInt8} (hrest : Spells ts rest) : Spells (t :: ts) (b :: rest) :=
  spells_cons (.punctuation h) hrest

/-- Tokens that start with a brace start with its byte, blanks apart. -/
theorem exists_openBrace {ts : List Token} {bytes : List UInt8}
    (h : Spells (.openBrace :: ts) bytes) :
    ∃ blanks rest, bytes = blanks ++ 0x7B :: rest ∧ AllBlank blanks ∧ Spells ts rest := by
  generalize hts : Token.openBrace :: ts = all at h
  cases h with
  | nil => cases hts
  | @cons t us blanks s rest hblanks ht hrest =>
    obtain ⟨rfl, rfl⟩ := List.cons.inj hts
    cases ht with
    | @punctuation b _ hb =>
      obtain rfl : b = 0x7B := by simpa [punctuation] using hb
      exact ⟨blanks, rest, by simp, hblanks, hrest⟩

/-- Tokens that end with a brace end with its byte. -/
theorem exists_closeBrace {ts : List Token} {bytes : List UInt8}
    (h : Spells (ts ++ [.closeBrace]) bytes) : ∃ init, bytes = init ++ [0x7D] := by
  induction ts generalizing bytes with
  | nil =>
    rw [List.nil_append] at h
    cases h with
    | @cons _ _ blanks s _ _ ht hrest =>
      cases hrest
      cases ht with
      | @punctuation b _ hb =>
        obtain rfl : b = 0x7D := by simpa [punctuation] using hb
        exact ⟨blanks, by simp⟩
  | cons t ts ih =>
    cases h with
    | @cons _ _ blanks s rest _ _ hrest =>
      obtain ⟨init, rfl⟩ := ih hrest
      exact ⟨blanks ++ s ++ init, by simp⟩

/-! ### Values -/

/-- A value, or what stands inside the brackets of one. -/
inductive Phrase where
  | value (v : Value)
  | items (vs : List Value)
  | members (ms : List (List Piece × Value))

/-- The tokens of a value; of items and members, with the commas between them. -/
inductive Phrase.Written : Phrase → List Token → Prop where
  | null : Written (.value .null) [.null]
  | bool {b : Bool} : Written (.value (.bool b)) [.bool b]
  | number {n : Number} : Written (.value (.number n)) [.number n]
  | string {s : List Piece} : Written (.value (.string s)) [.string s]
  | emptyArray : Written (.value (.array [])) [.openBracket, .closeBracket]
  | array {vs : List Value} {ts : List Token} : Written (.items vs) ts →
    Written (.value (.array vs)) (.openBracket :: ts ++ [.closeBracket])
  | emptyObject : Written (.value (.object [])) [.openBrace, .closeBrace]
  | object {ms : List (List Piece × Value)} {ts : List Token} : Written (.members ms) ts →
    Written (.value (.object ms)) (.openBrace :: ts ++ [.closeBrace])
  | lastItem {v : Value} {ts : List Token} : Written (.value v) ts → Written (.items [v]) ts
  | item {v : Value} {vs : List Value} {ts us : List Token} : Written (.value v) ts →
    Written (.items vs) us → Written (.items (v :: vs)) (ts ++ .comma :: us)
  | lastMember {key : List Piece} {v : Value} {ts : List Token} : Written (.value v) ts →
    Written (.members [(key, v)]) (.string key :: .colon :: ts)
  | member {key : List Piece} {v : Value} {ms : List (List Piece × Value)} {ts us : List Token} :
    Written (.value v) ts → Written (.members ms) us →
    Written (.members ((key, v) :: ms)) (.string key :: .colon :: ts ++ .comma :: us)

/-- Bytes that write a value. -/
def Value.Written (v : Value) (bytes : List UInt8) : Prop :=
  ∃ ts, Phrase.Written (.value v) ts ∧ Spells ts bytes

/-- What writes an object stands between braces, but for the blanks before it. -/
theorem Value.Written.exists_braces {ms : List (List Piece × Value)} {bytes : List UInt8}
    (h : Value.Written (.object ms) bytes) : ∃ blanks inside, AllBlank blanks ∧
      bytes = blanks ++ 0x7B :: (inside ++ [0x7D]) ∧
        Value.Written (.object ms) (0x7B :: (inside ++ [0x7D])) := by
  obtain ⟨ts, hv, hspells⟩ := h
  obtain ⟨us, rfl⟩ : ∃ us, ts = .openBrace :: (us ++ [.closeBrace]) := by
    cases hv with
    | emptyObject => exact ⟨[], rfl⟩
    | object _ => exact ⟨_, rfl⟩
  obtain ⟨blanks, rest, rfl, hblanks, hrest⟩ := exists_openBrace hspells
  obtain ⟨inside, rfl⟩ := exists_closeBrace hrest
  exact ⟨blanks, inside, hblanks, rfl, _, hv, spells_punctuation (by decide) hrest⟩

end SnapshotFeed.Json
