/-! The tokens of a JSON text.

A string is kept as it is written, byte by byte and escape by escape, because most strings of a
text are never asked for and need not make sense. A number is kept as what its integer part
says and whether anything follows that. -/
namespace SnapshotFeed.Json

/-- A piece of a written string: a byte that stands for itself, or an escaped UTF-16 unit. -/
inductive Piece where
  | byte (b : UInt8)
  | unit (u : UInt16)
  deriving DecidableEq, Repr

/-- A number literal. -/
structure Number where
  negative : Bool
  /-- The digits before any fraction or exponent, as a number. -/
  magnitude : Nat
  /-- There is neither fraction nor exponent. -/
  integral : Bool
  deriving DecidableEq, Repr

/-- The integer a literal denotes. Minus zero is none, nor is anything with a fraction or an
exponent, however small. -/
def Number.toInt? (n : Number) : Option Int :=
  if !n.integral then none
  else if !n.negative then some n.magnitude
  else if n.magnitude = 0 then none
  else some (-n.magnitude)

inductive Token where
  | openBrace
  | closeBrace
  | openBracket
  | closeBracket
  | comma
  | colon
  | null
  | bool (b : Bool)
  | number (n : Number)
  | string (s : List Piece)
  deriving DecidableEq, Repr

end SnapshotFeed.Json
