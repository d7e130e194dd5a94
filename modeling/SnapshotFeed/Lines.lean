import SnapshotFeed.Message

/-! Lines out of chunks.

The body of a stream arrives in chunks that know nothing of its lines. The decoder keeps the
bytes of the line not yet finished, and how many bytes of its buffer it has looked at, so a byte
is looked at once. Lines come out without the white space around them, and blank ones not at
all. A line longer than the limit is an error: if it is finished, the buffer stays as it was;
if not, the lines before it are gone from the buffer. Either way every later push fails, until
`finish` empties the buffer. -/
namespace SnapshotFeed

def newline : UInt8 := 0x0A

/-- Space, tab, line feed, form feed and carriage return. -/
def isLineBlank (b : UInt8) : Bool :=
  b == 0x20 || b == 0x09 || b == 0x0A || b == 0x0C || b == 0x0D

/-- The line without the white space at its ends. -/
def trimLine (line : List UInt8) : List UInt8 :=
  ((line.dropWhile isLineBlank).reverse.dropWhile isLineBlank).reverse

/-- The trimmed line, unless it is blank. -/
def nonBlank? (line : List UInt8) : Option (List UInt8) :=
  match trimLine line with
  | [] => none
  | trimmed => some trimmed

structure LineDecoder where
  buffer : List UInt8
  /-- The bytes of the buffer already looked at. -/
  scanned : Nat
  /-- The longest line, before trimming. -/
  limit : Nat
  deriving DecidableEq, Repr

namespace LineDecoder

def new (limit : Nat) : LineDecoder := ⟨[], 0, limit⟩

/-- A look at bytes: the lines finished in them, and where it ended. -/
structure Scan where
  /-- The finished lines that are not blank, trimmed, last first. -/
  lines : List (List UInt8)
  /-- The bytes of the lines finished, with their newlines. -/
  passed : Nat
  /-- The line it ended in, last byte first. -/
  line : List UInt8
  size : Nat
  /-- It ended at a newline because the line was too long. -/
  oversized : Bool

/-- Looks at bytes that go on a line of `size` bytes. -/
def scan (limit : Nat) (s : Scan) : List UInt8 → Scan
  | [] => s
  | b :: rest =>
    if b == newline then
      if s.size > limit then {s with oversized := true}
      else
        scan limit {s with
          lines := (nonBlank? s.line.reverse).toList ++ s.lines
          passed := s.passed + s.size + 1
          line := []
          size := 0} rest
    else scan limit {s with line := b :: s.line, size := s.size + 1} rest

/-- A chunk: the lines it finishes, or that one is too long. -/
def push (d : LineDecoder) (chunk : List UInt8) :
    Except StreamError (List (List UInt8)) × LineDecoder :=
  let buffer := d.buffer ++ chunk
  let old := buffer.take d.scanned
  let s := scan d.limit ⟨[], 0, old.reverse, old.length, false⟩ (buffer.drop d.scanned)
  if s.oversized then
    let scanned := if s.passed = 0 then d.scanned else s.passed
    (.error (.frameTooLarge d.limit), {d with buffer, scanned})
  else
    let d' := {d with buffer := s.line.reverse, scanned := s.size}
    if s.size > d.limit then (.error (.frameTooLarge d.limit), d') else (.ok s.lines.reverse, d')

/-- The end of the body: the line without a newline, unless it is blank. -/
def finish (d : LineDecoder) : Option (List UInt8) × LineDecoder :=
  (nonBlank? d.buffer, {d with buffer := [], scanned := 0})

end LineDecoder

end SnapshotFeed
