import SnapshotFeed.Url.Ipv4

/-! IPv6 addresses in hosts.

Eight pieces of four hexadecimal digits; once, `::` stands for as many zero pieces as are
missing, at least one; the last two pieces may be written as a dotted IPv4 address. Written, the
first longest run of two zero pieces or more becomes `::`. -/
namespace SnapshotFeed.Url

/-- A piece: one to four hexadecimal digits. -/
def piece? (cs : List Char) : Option Nat :=
  if cs.length = 0 ∨ 4 < cs.length then none else number? 16 cs

/-- A byte of a dotted ending: decimal, no leading zero. -/
def dottedByte? (cs : List Char) : Option Nat := do
  let n ← number? 10 cs
  if cs = [] ∨ 255 < n ∨ (cs.head? = some '0' ∧ cs.length ≠ 1) then none else some n

/-- Two pieces written as four bytes. -/
def dottedPieces? (cs : List Char) : Option (List Nat) :=
  match (cs.splitOn '.').mapM dottedByte? with
  | some [a, b, c, d] => some [256 * a + b, 256 * c + d]
  | _ => none

/-- Pieces between colons; the last may be dotted if `dotted`. -/
def pieces? (dotted : Bool) : List (List Char) → Option (List Nat)
  | [] => some []
  | [p] => if dotted && p.contains '.' then dottedPieces? p else (piece? p).map ([·])
  | p :: rest => do some ((← piece? p) :: (← pieces? dotted rest))

/-- The pieces of a text without `::`; an empty text has none. -/
def run? (dotted : Bool) (cs : List Char) : Option (List Nat) :=
  if cs = [] then some [] else pieces? dotted (cs.splitOn ':')

/-- The text before and after the first `::`. -/
def splitGap (before : List Char) : List Char → Option (List Char × List Char)
  | ':' :: ':' :: rest => some (before.reverse, rest)
  | c :: rest => splitGap (c :: before) rest
  | [] => none

/-- The eight pieces. -/
def ipv6? (cs : List Char) : Except Fault (List Nat) :=
  let pieces := match splitGap [] cs with
    | none => (run? true cs).bind fun ps => if ps.length = 8 then some ps else none
    | some (before, after) => do
      let first ← run? false before
      let last ← run? true after
      let missing := 8 - (first.length + last.length)
      if missing = 0 then none else some (first ++ List.replicate missing 0 ++ last)
  match pieces with
  | some ps => .ok ps
  | none => .error .invalidIpv6

/-- How many zero pieces a list starts with. -/
def zeroRun (pieces : List Nat) : Nat := (pieces.takeWhile (· == 0)).length

/-- Where the first longest run of zeros starts, and how long it is. -/
def longestZeroRun (pieces : List Nat) : Nat × Nat :=
  (List.range pieces.length).foldl (fun best i =>
    let n := zeroRun (pieces.drop i)
    if best.2 < n then (i, n) else best) (0, 0)

def joinPieces (pieces : List Nat) : List Char :=
  ((pieces.map hexLower).intersperse [':']).flatten

def renderIpv6 (pieces : List Nat) : List Char :=
  let (start, length) := longestZeroRun pieces
  if length < 2 then joinPieces pieces
  else joinPieces (pieces.take start) ++ [':', ':'] ++ joinPieces (pieces.drop (start + length))

end SnapshotFeed.Url
