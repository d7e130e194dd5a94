import SnapshotFeed.Url.Percent

/-! Paths.

A path is a list of encoded segments, each after a slash. While it is read, a segment of one dot
leaves nothing and a segment of two dots takes the segment before it away, unless that is a drive;
at the end of the path both leave an empty segment. The path of a file starts with no empty
segment, and a drive at its start has a colon. -/
namespace SnapshotFeed.Url

def isLetter (c : Char) : Bool := c.isAlpha

/-- A letter and a colon. -/
def isDrive : List Char → Bool
  | [c, ':'] => isLetter c
  | _ => false

/-- A drive may also be written with a bar. -/
def isDriveSpelling : List Char → Bool
  | [c, ':'] | [c, '|'] => isLetter c
  | _ => false

/-- One dot, plain or encoded. -/
def isDot (segment : List Char) : Bool :=
  [".", "%2e"].contains (String.ofList segment).toLower

/-- Two dots, each plain or encoded. -/
def isDotDot (segment : List Char) : Bool :=
  ["..", ".%2e", "%2e.", "%2e%2e"].contains (String.ofList segment).toLower

/-- Takes the last segment away, unless it is a drive; the segments are last first. -/
def dropSegment : List (List Char) → List (List Char)
  | [] => []
  | s :: rest => if isDriveSpelling s then s :: rest else rest

/-- Adds a segment; the segments are last first. A drive that comes first in the path of a file
gets its colon. -/
def addSegment (file : Bool) (done : List (List Char)) (s : List Char) : List (List Char) :=
  if file && done.isEmpty && isDriveSpelling s then [s.take 1 ++ [':']] else s :: done

/-- The path of some segments as written. `done` are the segments so far, last first. -/
def resolve (file : Bool) (done : List (List Char)) : List (List Char) → List (List Char)
  | [] => done.reverse
  | [s] =>
    if isDotDot s then ([] :: dropSegment done).reverse
    else if isDot s then ([] :: done).reverse
    else (addSegment file done s).reverse
  | s :: rest =>
    if isDotDot s then resolve file (dropSegment done) rest
    else if isDot s then resolve file done rest
    else resolve file (addSegment file done s) rest

/-- Cuts a path at its slashes. Under a scheme with names a backslash is one. -/
def segmentsOf (named : Bool) (path : List Char) : List (List Char) :=
  path.splitOnP fun c => c == '/' || (named && c == '\\')

/-- The path after its first slash, as segments. -/
def readPath (named : Bool) (path : List Char) : List (List Char) :=
  resolve false [] ((segmentsOf named path).map (encode pathSet))

/-! ### Files -/

/-- How the path of a file begins. -/
inductive FileStart where
  /-- At its first segment. -/
  | plain
  /-- With an empty segment before the first. -/
  | afterEmpty
  /-- With a drive and a name in one: they are two segments, and the name is no dots. -/
  | driveAndName
  deriving DecidableEq, Repr

/-- The path of a file after its first slash, as segments. -/
def readFilePath (start : FileStart) (path : List Char) : List (List Char) :=
  let segments := (segmentsOf true path).map (encode pathSet)
  match start, segments with
  | .plain, _ => resolve true [] segments
  | .afterEmpty, _ => resolve true [[]] segments
  | .driveAndName, s :: rest => resolve true [s.drop 2, s.take 2] rest
  | .driveAndName, [] => []

/-- Without the empty segments it starts with. -/
def trimEmpty (segments : List (List Char)) : List (List Char) :=
  match segments.dropWhile (· = []) with
  | [] => [[]]
  | rest => rest

/-- Each segment after a slash. -/
def renderPath (segments : List (List Char)) : List Char := segments.flatMap ('/' :: ·)

end SnapshotFeed.Url
