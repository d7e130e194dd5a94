import SnapshotFeed.Digits

/-! Percent-encoding.

A character outside ASCII, a control character, or one of a component's own set is written as
its UTF-8 bytes, each a percent sign and two digits. Which ASCII characters are in the set is
the component's decision; the sets are here side by side. -/
namespace SnapshotFeed.Url

def percentByte (b : UInt8) : List Char := ['%', hexUpper (b.toNat / 16), hexUpper (b.toNat % 16)]

def isControl (c : Char) : Bool := c.toNat < 0x20 || c.toNat == 0x7F

/-- The character, encoded if it is not plain ASCII or if `special` says so. -/
def encodeChar (special : Char → Bool) (c : Char) : List Char :=
  if 0x80 ≤ c.toNat || isControl c || special c then (String.utf8EncodeChar c).flatMap percentByte
  else [c]

def encode (special : Char → Bool) (cs : List Char) : List Char := cs.flatMap (encodeChar special)

/-! ### The sets of the components -/

/-- A host that is no domain, and an opaque path, encode nothing more. -/
def opaqueSet (_ : Char) : Bool := false

def fragmentSet (c : Char) : Bool := [' ', '"', '<', '>', '`'].contains c

def pathSet (c : Char) : Bool := fragmentSet c || ['#', '?', '{', '}'].contains c

def userinfoSet (c : Char) : Bool :=
  pathSet c || ['/', ':', ';', '=', '@', '[', '\\', ']', '^', '|'].contains c

def querySet (c : Char) : Bool := [' ', '"', '#', '<', '>'].contains c

/-- The query of a scheme with names encodes the apostrophe too. -/
def namedQuerySet (c : Char) : Bool := querySet c || c == '\''

/-! ### Back to bytes -/

/-- Undoes percent-encoding. A percent sign without two digits stands for itself. -/
def decodeBytes : List UInt8 → List UInt8
  | [] => []
  | 0x25 :: a :: b :: rest =>
    match hexDigit? a.toNat, hexDigit? b.toNat with
    | some x, some y => (16 * x + y).toUInt8 :: decodeBytes rest
    | _, _ => 0x25 :: decodeBytes (a :: b :: rest)
  | b :: rest => b :: decodeBytes rest

/-- The bytes a percent-encoded text stands for. -/
def decode (cs : List Char) : List UInt8 := decodeBytes (cs.flatMap String.utf8EncodeChar)

/-- The text a percent-encoded text stands for, if it is UTF-8. -/
def decodeText? (cs : List Char) : Option (List Char) :=
  (String.fromUTF8? ⟨(decode cs).toArray⟩).map String.toList

end SnapshotFeed.Url
