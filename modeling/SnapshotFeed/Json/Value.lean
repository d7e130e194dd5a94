import SnapshotFeed.Json.Lexer

/-! Tokens to values.

The reader is a machine with a stack of the arrays and objects still open, so a value may be
nested as deep as the text likes. Once a value is finished at the outermost level no token is
accepted any more: a text that holds a value cannot go on to hold another. -/
namespace SnapshotFeed.Json

inductive Value where
  | null
  | bool (b : Bool)
  | number (n : Number)
  | string (s : List Piece)
  | array (items : List Value)
  | object (members : List (List Piece × Value))
  deriving Repr

/-- An array or object around the value being read, with what it holds so far, last first. -/
inductive Layer where
  | array (items : List Value)
  | object (members : List (List Piece × Value)) (key : List Piece)

/-- What may come next. -/
inductive Reader where
  | value (outer : List Layer)
  | firstItem (outer : List Layer)
  | afterItem (items : List Value) (outer : List Layer)
  | firstKey (outer : List Layer)
  | nextKey (members : List (List Piece × Value)) (outer : List Layer)
  | afterKey (key : List Piece) (members : List (List Piece × Value)) (outer : List Layer)
  | afterMember (members : List (List Piece × Value)) (outer : List Layer)
  | done (v : Value)

namespace Reader

/-- A finished value goes into the innermost layer. -/
def put (v : Value) : List Layer → Reader
  | [] => .done v
  | .array items :: outer => .afterItem (v :: items) outer
  | .object members key :: outer => .afterMember ((key, v) :: members) outer

/-- A token where a value must start. -/
def startValue (outer : List Layer) : Token → Option Reader
  | .null => some (put .null outer)
  | .bool b => some (put (.bool b) outer)
  | .number n => some (put (.number n) outer)
  | .string s => some (put (.string s) outer)
  | .openBracket => some (.firstItem outer)
  | .openBrace => some (.firstKey outer)
  | _ => none

def step : Reader → Token → Option Reader
  | .value outer, t => startValue outer t
  | .firstItem outer, .closeBracket => some (put (.array []) outer)
  | .firstItem outer, t => startValue (.array [] :: outer) t
  | .afterItem items outer, .comma => some (.value (.array items :: outer))
  | .afterItem items outer, .closeBracket => some (put (.array items.reverse) outer)
  | .firstKey outer, .closeBrace => some (put (.object []) outer)
  | .firstKey outer, .string key => some (.afterKey key [] outer)
  | .nextKey members outer, .string key => some (.afterKey key members outer)
  | .afterKey key members outer, .colon => some (.value (.object members key :: outer))
  | .afterMember members outer, .comma => some (.nextKey members outer)
  | .afterMember members outer, .closeBrace => some (put (.object members.reverse) outer)
  | _, _ => none

/-- The value, if one is finished. -/
def value? : Reader → Option Value
  | .done v => some v
  | _ => none

theorem step_done (v : Value) (t : Token) : step (.done v) t = none := by
  cases t <;> rfl

end Reader

/-- The value that the tokens spell. -/
def Value.ofTokens? (tokens : List Token) : Option Value :=
  (tokens.foldlM Reader.step (.value [])).bind Reader.value?

/-- The value that a text holds. -/
def Value.parse? (text : List UInt8) : Option Value := (lex text).bind ofTokens?

end SnapshotFeed.Json
