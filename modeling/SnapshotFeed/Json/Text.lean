import SnapshotFeed.Json.Value

/-! What a written string says.

Escapes are UTF-16 units: a high surrogate needs a low one right after it, and a low one needs
its high one. The bytes between escapes must be UTF-8. A string that keeps neither rule is
well-formed but says nothing. -/
namespace SnapshotFeed.Json

def isHighSurrogate (u : UInt16) : Bool := 0xD800 ≤ u && u ≤ 0xDBFF

def isLowSurrogate (u : UInt16) : Bool := 0xDC00 ≤ u && u ≤ 0xDFFF

/-- The character a pair of surrogates stands for. -/
def joinSurrogates (high low : UInt16) : Char :=
  Char.ofNat (0x10000 + (high.toNat - 0xD800) * 0x400 + (low.toNat - 0xDC00))

def pushChar (done : ByteArray) (c : Char) : ByteArray :=
  (String.utf8EncodeChar c).foldl ByteArray.push done

/-- The bytes of the pieces after those of `done`. -/
def bytesFrom? (done : ByteArray) : List Piece → Option ByteArray
  | [] => some done
  | .byte b :: rest => bytesFrom? (done.push b) rest
  | .unit u :: rest =>
    if isHighSurrogate u then
      match rest with
      | .unit v :: rest =>
        if isLowSurrogate v then bytesFrom? (pushChar done (joinSurrogates u v)) rest else none
      | _ => none
    else if isLowSurrogate u then none
    else bytesFrom? (pushChar done (Char.ofNat u.toNat)) rest

/-- What the string says. -/
def text? (s : List Piece) : Option String := (bytesFrom? .empty s).bind String.fromUTF8?

def Value.text? : Value → Option String
  | .string s => Json.text? s
  | _ => none

def Value.int? : Value → Option Int
  | .number n => n.toInt?
  | _ => none

end SnapshotFeed.Json
