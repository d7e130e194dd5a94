import SnapshotFeed.Unicode.Composition
import SnapshotFeed.Unicode.Direction
import SnapshotFeed.Unicode.Joining
import SnapshotFeed.Unicode.Mark
import SnapshotFeed.Url.Folding
import SnapshotFeed.Url.Percent
import SnapshotFeed.Url.Punycode

/-! The labels of a domain name.

A label has a text and a form in ASCII. A text in ASCII is its own form; any other is written in
Punycode after a mark. A label that comes with the mark is read back: its text must be one that
folding leaves alone. -/
namespace SnapshotFeed.Url

/-- No domain name has such a character. -/
def isForbiddenInDomain (c : Char) : Bool :=
  isControl c || [' ', '#', '%', '/', ':', '<', '>', '?', '@', '[', '\\', ']', '^', '|'].contains c

/-- The folded, composed form of a text, if every character may be in a name. -/
def normalize? (text : List Char) : Option (List Char) := do
  some (Unicode.compose (← text.mapM fold?).flatten)

def isAscii (cs : List Char) : Bool := cs.all (·.toNat < 0x80)

theorem toNat_toLower_lt {c : Char} (h : c.toNat < 0x80) : c.toLower.toNat < 0x80 := by
  have all : ∀ n < 0x80, (Char.ofNat n).toLower.toNat < 0x80 := by decide
  simpa using all c.toNat h

theorem mapM_fold?_ascii {text : List Char} (h : isAscii text) :
    text.mapM fold? = some (text.map fun c => [c.toLower]) := by
  induction text with
  | nil => rfl
  | cons c text ih =>
    simp only [isAscii, List.all_cons, Bool.and_eq_true, decide_eq_true_eq] at h
    have hc : fold? c = some [c.toLower] := if_pos h.1
    simp [hc, ih h.2]

/-- Of a text in ASCII only the capitals change. -/
theorem normalize?_ascii {text : List Char} (h : isAscii text) :
    normalize? text = some (text.map Char.toLower) := by
  have small : ∀ c ∈ text.map Char.toLower, c.toNat < 0x80 := by
    simp only [isAscii, List.all_eq_true, decide_eq_true_eq] at h
    simpa using fun c hc => toNat_toLower_lt (h c hc)
  have flat : (text.map fun c => [c.toLower]).flatten = text.map Char.toLower := by
    rw [← List.flatMap_def, List.map_eq_flatMap]
  simp [normalize?, mapM_fold?_ascii h, flat, Unicode.compose_ascii small]

/-! ### Invisible joiners -/

/-- The nearest letter joins in one of these ways; transparent ones are looked through. -/
def joinsNearest (ways : List Unicode.Joining) (cs : List Char) : Bool :=
  (cs.dropWhile (Unicode.joining · == .transparent)).head?.any fun c =>
    ways.contains (Unicode.joining c)

/-- A joiner stands after a virama. A non-joiner may also part two letters that would join. The
characters before are last first. -/
def fitsBetween (before : List Char) (c : Char) (after : List Char) : Bool :=
  let afterVirama := before.head?.any Unicode.isVirama
  if c == '\u200D' then afterVirama
  else if c == '\u200C' then
    afterVirama || (joinsNearest [.left, .both] before && joinsNearest [.right, .both] after)
  else true

def joinersFit (before : List Char) : List Char → Bool
  | [] => true
  | c :: after => fitsBetween before c after && joinersFit (c :: before) after

/-- No text beyond ASCII has more characters. -/
def longestText : Nat := 1000

/-- A text beyond ASCII can be a label: it starts with no mark, and its joiners have a place. -/
def isLabelText (text : List Char) : Bool :=
  text.length ≤ longestText && !text.head?.any Unicode.isMark && joinersFit [] text

/-! ### Reading -/

structure Label where
  text : List Char
  ascii : List Char
  deriving DecidableEq, Repr

namespace Label

/-- Nothing longer is read back. -/
def longestPunycode : Nat := 2000

/-- What comes before the Punycode of a label. -/
def mark : List Char := ['x', 'n', '-', '-']

/-- The text that Punycode without its mark stands for. -/
def textOf? (punycode : List Char) : Option (List Char) :=
  if !isAscii punycode || punycode.getLast? == some '-' || longestPunycode < punycode.length then none
  else do
    let text ← Punycode.decode? punycode
    if isAscii text || normalize? text != some text || !isLabelText text then none else some text

/-- The label that a part of a normalized name is. -/
def ofText? (text : List Char) : Option Label :=
  if text.any isForbiddenInDomain then none
  else if mark.isPrefixOf text then do some ⟨← textOf? (text.drop mark.length), text⟩
  else if isAscii text then some ⟨text, text⟩
  else if isLabelText text then some ⟨text, mark ++ Punycode.encode text⟩
  else none

/-! ### Directions -/

def isRightToLeft (l : Label) : Bool := l.text.any Unicode.isRightToLeft

/-- The label keeps its place where directions mix: it goes one way from its first character to
its last, and numbers from right to left are of one kind. Marks at the end go with what is before
them. -/
def keepsPlace (l : Label) : Bool :=
  let ds := l.text.map Unicode.direction
  match ds.head?, (ds.reverse.dropWhile (· == .mark)).head? with
  | some .leftToRight, some last =>
    [.leftToRight, .europeanNumber].contains last &&
      !ds.contains .rightToLeft && !ds.contains .arabicNumber
  | some .rightToLeft, some last =>
    [.rightToLeft, .europeanNumber, .arabicNumber].contains last && !ds.contains .leftToRight &&
      !(ds.contains .europeanNumber && ds.contains .arabicNumber)
  | some _, _ => false
  | none, _ => true

end Label

end SnapshotFeed.Url
