import SnapshotFeed.Proofs.Json.Grammar
import SnapshotFeed.Proofs.Json.Text

/-! A way to write any text.

Printable ASCII stands for itself but for the quote and the backslash; all else is escaped, so a
written text has no control character, and no newline among them. -/
namespace SnapshotFeed.Json

/-- The character may stand for itself. -/
def isPlain (c : Char) : Bool := 0x20 ≤ c.toNat && c.toNat < 0x7F && c != '"' && c != '\\'

def charPieces (c : Char) : List Piece :=
  if isPlain c then [.byte c.toNat.toUInt8]
  else if c.toNat < 0x10000 then [.unit c.toNat.toUInt16]
  else [.unit (highSurrogate c), .unit (lowSurrogate c)]

def pieces (text : String) : List Piece := text.toList.flatMap charPieces

def hexByte (d : Nat) : UInt8 := if d < 10 then digit d else 0x61 + (d - 10).toUInt8

def Piece.bytes : Piece → List UInt8
  | byte b => [b]
  | unit u => [backslash, 0x75, hexByte (u.toNat / 4096), hexByte (u.toNat / 256 % 16),
    hexByte (u.toNat / 16 % 16), hexByte (u.toNat % 16)]

/-- A text in quotes. -/
def quoted (text : String) : List UInt8 := quote :: (pieces text).flatMap Piece.bytes ++ [quote]

theorem isPlain_iff {c : Char} :
    isPlain c = true ↔ 0x20 ≤ c.toNat ∧ c.toNat < 0x7F ∧ c ≠ '"' ∧ c ≠ '\\' := by
  simp [isPlain, and_assoc]

/-! ### The pieces say the text -/

theorem utf8EncodeChar_of_isPlain {c : Char} (h : isPlain c = true) :
    String.utf8EncodeChar c = [c.toNat.toUInt8] :=
  utf8EncodeChar_of_lt (Nat.lt_succ_of_lt (isPlain_iff.mp h).2.1)

theorem saysChars_charPieces (c : Char) {ps : List Piece} {cs : List Char} (h : SaysChars ps cs) :
    SaysChars (charPieces c ++ ps) (c :: cs) := by
  unfold charPieces
  split
  · have hraw := h.raw (c := c)
    rwa [utf8EncodeChar_of_isPlain ‹_›] at hraw
  · split
    · exact h.unit ‹_›
    · exact h.pair (Nat.not_lt.mp ‹_›)

theorem says_pieces (text : String) : Says (pieces text) text := by
  unfold Says pieces
  induction text.toList with
  | nil => exact .nil
  | cons c cs ih =>
    rw [List.flatMap_cons]
    exact saysChars_charPieces c ih

/-! ### The bytes write the pieces -/

theorem hexDigit_hexByte {d : Nat} (h : d < 16) : HexDigit d (hexByte d) := by
  unfold hexByte
  split
  · exact .decimal ‹_›
  · have hd : d = 10 + (d - 10) := by omega
    generalize d - 10 = k at hd
    subst hd
    exact .lower (by omega)

theorem written_bytes_unit (u : UInt16) : (Piece.unit u).Written (Piece.unit u).bytes := by
  have hlt : u.toNat < 65536 := u.toNat_lt
  have hvalue : 16 * (16 * (16 * (u.toNat / 4096) + u.toNat / 256 % 16) + u.toNat / 16 % 16) +
      u.toNat % 16 = u.toNat := by omega
  have hwritten := Piece.Written.unit
    (hexDigit_hexByte (d := u.toNat / 4096) (by omega))
    (hexDigit_hexByte (d := u.toNat / 256 % 16) (by omega))
    (hexDigit_hexByte (d := u.toNat / 16 % 16) (by omega))
    (hexDigit_hexByte (d := u.toNat % 16) (by omega))
  have hu : u.toNat.toUInt16 = u := UInt16.ofNat_toNat
  rwa [hvalue, hu] at hwritten

theorem written_of_isPlain {c : Char} (h : isPlain c = true) :
    (Piece.byte c.toNat.toUInt8).Written [c.toNat.toUInt8] := by
  obtain ⟨hle, hlt, hquote, hbackslash⟩ := isPlain_iff.mp h
  have hbyte : c.toNat.toUInt8.toNat = c.toNat := Nat.mod_eq_of_lt (by omega)
  have hne : ∀ d : Char, c ≠ d → c.toNat.toUInt8.toNat ≠ d.toNat := fun d hcd heq =>
    hcd (Char.toNat_inj.mp (hbyte.symm.trans heq))
  refine .byte ?_ ?_ ?_
  · rw [UInt8.le_iff_toNat_le, hbyte]
    exact hle
  · exact fun heq => hne '"' hquote (congrArg UInt8.toNat heq)
  · exact fun heq => hne '\\' hbackslash (congrArg UInt8.toNat heq)

theorem written_of_mem_charPieces {c : Char} {p : Piece} (h : p ∈ charPieces c) :
    p.Written p.bytes := by
  unfold charPieces at h
  split at h
  · obtain rfl := List.mem_singleton.mp h
    exact written_of_isPlain ‹_›
  · obtain ⟨u, rfl⟩ : ∃ u, p = .unit u := by
      split at h
      · exact ⟨_, List.mem_singleton.mp h⟩
      · rcases List.mem_cons.mp h with rfl | h
        · exact ⟨_, rfl⟩
        · exact ⟨_, List.mem_singleton.mp h⟩
    exact written_bytes_unit u

theorem quoted_of_forall_written {ps : List Piece} (h : ∀ p ∈ ps, p.Written p.bytes) :
    Quoted ps (ps.flatMap Piece.bytes) := by
  induction ps with
  | nil => exact .nil
  | cons p ps ih =>
    obtain ⟨hp, hps⟩ := List.forall_mem_cons.mp h
    exact .cons hp (ih hps)

theorem quoted_pieces (text : String) :
    Quoted (pieces text) ((pieces text).flatMap Piece.bytes) := by
  refine quoted_of_forall_written fun p hp => ?_
  obtain ⟨c, -, hp⟩ := List.mem_flatMap.mp hp
  exact written_of_mem_charPieces hp

theorem written_quoted (text : String) : (Token.string (pieces text)).Written (quoted text) :=
  .string (quoted_pieces text)

/-! ### No control characters -/

theorem le_of_hexDigit {d : Nat} {b : UInt8} (h : HexDigit d b) : 0x20 ≤ b := by
  cases h with
  | decimal h =>
    revert d
    decide
  | @upper d h =>
    revert d
    decide
  | @lower d h =>
    revert d
    decide

theorem le_of_written {p : Piece} {s : List UInt8} (h : p.Written s) : ∀ b ∈ s, 0x20 ≤ b := by
  cases h with
  | byte hle _ _ => simpa using hle
  | short h =>
    have hall : shortEscapes.all (fun pair => 0x20 ≤ pair.1) = true := by decide
    have he := List.all_eq_true.mp hall _ h
    simpa [backslash] using he
  | unit h₁ h₂ h₃ h₄ =>
    simp [backslash, le_of_hexDigit h₁, le_of_hexDigit h₂, le_of_hexDigit h₃, le_of_hexDigit h₄]

theorem le_of_quoted {ps : List Piece} {s : List UInt8} (h : Quoted ps s) : ∀ b ∈ s, 0x20 ≤ b := by
  induction h with
  | nil => exact fun _ h => (nomatch h)
  | cons hp _ ih =>
    intro b hb
    exact (List.mem_append.mp hb).elim (le_of_written hp b) (ih b)

theorem le_of_mem_quoted {text : String} {b : UInt8} (h : b ∈ quoted text) : 0x20 ≤ b := by
  have hquote : (0x20 : UInt8) ≤ quote := by decide
  rcases List.mem_append.mp h with h | h
  · rcases List.mem_cons.mp h with rfl | h
    · exact hquote
    · exact le_of_quoted (quoted_pieces text) b h
  · obtain rfl := List.mem_singleton.mp h
    exact hquote

end SnapshotFeed.Json
