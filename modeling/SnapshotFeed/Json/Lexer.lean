import SnapshotFeed.Digits
import SnapshotFeed.Json.Token

/-! Bytes to tokens, one byte at a time.

The lexer is a machine: a mode says what the bytes so far leave open, and a byte gives the
tokens it finishes and the next mode. Only a number ends with a byte that is not its own, so a
byte finishes two tokens at most. Strings are not asked to be UTF-8 here; a control character
or an unknown escape refuses the text. -/
namespace SnapshotFeed.Json

/-- The text of an ASCII word as bytes. -/
def ascii (s : String) : List UInt8 := s.toList.map (·.toNat.toUInt8)

def quote : UInt8 := 0x22
def backslash : UInt8 := 0x5C

/-- Space, tab, line feed and carriage return. -/
def isBlank (b : UInt8) : Bool := b == 0x20 || b == 0x09 || b == 0x0A || b == 0x0D

/-- The value of a decimal digit. -/
def digit? (b : UInt8) : Option Nat := digitOf? 10 b.toNat

/-- The token a single byte makes. -/
def punctuation? (b : UInt8) : Option Token :=
  if b == 0x7B then some .openBrace
  else if b == 0x7D then some .closeBrace
  else if b == 0x5B then some .openBracket
  else if b == 0x5D then some .closeBracket
  else if b == 0x2C then some .comma
  else if b == 0x3A then some .colon
  else none

/-- What a byte after a backslash stands for, the four-digit escape apart. -/
def shortEscape? (b : UInt8) : Option UInt16 :=
  if b == 0x22 || b == 0x5C || b == 0x2F then some b.toUInt16
  else if b == 0x62 then some 0x08
  else if b == 0x66 then some 0x0C
  else if b == 0x6E then some 0x0A
  else if b == 0x72 then some 0x0D
  else if b == 0x74 then some 0x09
  else none

/-- How far a number has been read. -/
inductive NumberPart where
  | sign
  | zero
  | whole
  | point
  | fraction
  | exponent
  | exponentSign
  | exponentDigits
  deriving DecidableEq, Repr

/-- The number may end here. -/
def NumberPart.isComplete : NumberPart → Bool
  | zero | whole | fraction | exponentDigits => true
  | _ => false

/-- The byte as the next of a number, if it can be. -/
def NumberPart.next? (part : NumberPart) (b : UInt8) (n : Number) : Option (NumberPart × Number) :=
  let frac : Number := {n with integral := false}
  match part, digit? b with
  | .sign, some 0 => some (.zero, n)
  | .sign, some d => some (.whole, {n with magnitude := d})
  | .sign, none => none
  | .zero, some _ => none
  | .whole, some d => some (.whole, {n with magnitude := 10 * n.magnitude + d})
  | .zero, none | .whole, none =>
    if b == 0x2E then some (.point, frac)
    else if b == 0x65 || b == 0x45 then some (.exponent, frac)
    else none
  | .point, some _ => some (.fraction, n)
  | .point, none => none
  | .fraction, some _ => some (.fraction, n)
  | .fraction, none => if b == 0x65 || b == 0x45 then some (.exponent, n) else none
  | .exponent, some _ => some (.exponentDigits, n)
  | .exponent, none => if b == 0x2B || b == 0x2D then some (.exponentSign, n) else none
  | .exponentSign, some _ => some (.exponentDigits, n)
  | .exponentSign, none => none
  | .exponentDigits, some _ => some (.exponentDigits, n)
  | .exponentDigits, none => none

/-- What the bytes so far leave open. Pieces of a string are kept last first. -/
inductive Mode where
  | between
  | word (rest : List UInt8) (token : Token)
  | string (read : List Piece)
  | escape (read : List Piece)
  | unit (read : List Piece) (missing : Nat) (value : Nat)
  | number (part : NumberPart) (read : Number)
  deriving DecidableEq, Repr

/-- A byte outside any token: a token of its own, or the start of one. -/
def Mode.start (b : UInt8) : Option (List Token × Mode) :=
  if isBlank b then some ([], .between)
  else match punctuation? b with
    | some t => some ([t], .between)
    | none =>
      if b == quote then some ([], .string [])
      else if b == 0x74 then some ([], .word (ascii "rue") (.bool true))
      else if b == 0x66 then some ([], .word (ascii "alse") (.bool false))
      else if b == 0x6E then some ([], .word (ascii "ull") .null)
      else if b == 0x2D then some ([], .number .sign ⟨true, 0, true⟩)
      else (NumberPart.sign.next? b ⟨false, 0, true⟩).map fun (part, n) => ([], .number part n)

/-- One byte: the tokens it finishes, and the mode after it. -/
def Mode.step : Mode → UInt8 → Option (List Token × Mode)
  | .between, b => start b
  | .word [] _, _ => none
  | .word [c] token, b => if b == c then some ([token], .between) else none
  | .word (c :: rest) token, b => if b == c then some ([], .word rest token) else none
  | .string read, b =>
    if b == quote then some ([.string read.reverse], .between)
    else if b == backslash then some ([], .escape read)
    else if b < 0x20 then none
    else some ([], .string (.byte b :: read))
  | .escape read, b =>
    if b == 0x75 then some ([], .unit read 4 0)
    else (shortEscape? b).map fun u => ([], .string (.unit u :: read))
  | .unit read missing value, b => do
    let d ← hexDigit? b.toNat
    let value := 16 * value + d
    if missing ≤ 1 then some ([], .string (.unit value.toUInt16 :: read))
    else some ([], .unit read (missing - 1) value)
  | .number part read, b =>
    match part.next? b read with
    | some (part, read) => some ([], .number part read)
    | none =>
      if part.isComplete then (start b).map fun (tokens, mode) => (.number read :: tokens, mode)
      else none

/-- The tokens the end of the text finishes, if it may end here. -/
def Mode.finish? : Mode → Option (List Token)
  | .between => some []
  | .number part read => if part.isComplete then some [.number read] else none
  | _ => none

/-- Reads on from a mode; `done` are the tokens so far, last first. -/
def lexFrom (mode : Mode) (done : List Token) : List UInt8 → Option (List Token)
  | [] => mode.finish?.map fun tokens => done.reverse ++ tokens
  | b :: rest =>
    match mode.step b with
    | none => none
    | some (tokens, mode) => lexFrom mode (tokens.reverse ++ done) rest

/-- The tokens of a text. -/
def lex (text : List UInt8) : Option (List Token) := lexFrom .between [] text

end SnapshotFeed.Json
