import SnapshotFeed.Digits

/-! Properties of characters, as tables of runs.

A run starts at a code and lasts until the next one starts; every code in it has the same value.
A table is written as text: for each run its first code, in hexadecimal digits, and its value.
The tables of this library follow Unicode 17. Where only some characters matter, a table tells
those apart and leaves the codes between two of them with the first. -/
namespace SnapshotFeed.Unicode

structure Table (α : Type) where
  /-- First codes and values, in the order of the codes. -/
  runs : Array (Nat × α)

namespace Table
variable {α : Type}

/-- The words of a text. -/
def words (text : String) : List String := (text.splitToList Char.isWhitespace).filter (· ≠ "")

/-- A code in hexadecimal digits. -/
def code? (word : String) : Option Nat := number? 16 word.toList

/-- The runs that pairs of words write. A pair that says nothing is passed over. -/
def runsOf (value? : String → Option α) : List String → List (Nat × α)
  | start :: value :: rest =>
    match code? start, value? value with
    | some start, some value => (start, value) :: runsOf value? rest
    | _, _ => runsOf value? rest
  | _ => []

/-- The table a text writes, when `value?` reads a value. -/
def ofText (value? : String → Option α) (text : String) : Table α :=
  ⟨(runsOf value? (words text)).toArray⟩

/-- How many runs start at the code or before it, if that is so of the first `low` and of none
from `high` on. -/
def started (t : Table α) (code low high : Nat) : Nat :=
  if low < high then
    let middle := (low + high) / 2
    if t.runs[middle]?.any (·.1 ≤ code) then t.started code (middle + 1) high
    else t.started code low middle
  else low
termination_by high - low

/-- The value of the run that holds the code. -/
def get? (t : Table α) (code : Nat) : Option α :=
  match t.started code 0 t.runs.size with
  | 0 => none
  | run + 1 => t.runs[run]?.map (·.2)

end Table

end SnapshotFeed.Unicode
