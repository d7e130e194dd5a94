/-! Punycode: a label outside ASCII in ASCII letters.

The plain characters stand first. Then the others follow in ascending order, each as the number
of steps a cursor makes from the one before, in digits whose weights adapt to the steps made so
far. -/
namespace SnapshotFeed.Url.Punycode

/-- Digits 0 to 25 are letters, 26 to 35 decimal digits. -/
def digitChar (d : Nat) : Char := if d < 26 then Char.ofNat (0x61 + d) else Char.ofNat (0x30 + d - 26)

def digitValue? (c : Char) : Option Nat :=
  let n := c.toNat
  if 0x61 ≤ n ∧ n ≤ 0x7A then some (n - 0x61)
  else if 0x41 ≤ n ∧ n ≤ 0x5A then some (n - 0x41)
  else if 0x30 ≤ n ∧ n ≤ 0x39 then some (n - 0x30 + 26)
  else none

/-- From which value on a digit in that position is not the last. -/
def threshold (position bias : Nat) : Nat :=
  if position ≤ bias then 1 else if bias + 26 ≤ position then 26 else position - bias

theorem threshold_pos (position bias : Nat) : 1 ≤ threshold position bias := by
  unfold threshold
  split
  · omega
  · split <;> omega

def firstBias : Nat := 72

/-- Divides by 35 while the steps are many. -/
def shrink (steps position : Nat) : Nat × Nat :=
  if 455 < steps then shrink (steps / 35) (position + 36) else (steps, position)
termination_by steps
decreasing_by exact Nat.div_lt_self (by omega) (by omega)

/-- The bias after some steps, when `count` characters are placed. -/
def adapt (steps count : Nat) (isFirst : Bool) : Nat :=
  let s := if isFirst then steps / 700 else steps / 2
  let (s, position) := shrink (s + s / count) 0
  position + 36 * s / (s + 38)

/-! ### To ASCII -/

def stepDigits (bias position steps : Nat) : List Char :=
  let t := threshold position bias
  if steps < t then [digitChar steps]
  else digitChar (t + (steps - t) % (36 - t)) ::
    stepDigits bias (position + 36) ((steps - t) / (36 - t))
termination_by steps
decreasing_by
  have := threshold_pos position bias
  exact Nat.lt_of_le_of_lt (Nat.div_le_self _ _) (by omega)

/-- Where the encoder stands. -/
structure Writer where
  out : List Char
  steps : Nat
  bias : Nat
  /-- Characters placed so far. -/
  placed : Nat

/-- Passes a character of the label while placing every `code`. -/
def Writer.pass (plain code : Nat) (w : Writer) (c : Char) : Writer :=
  if c.toNat < code then {w with steps := w.steps + 1}
  else if c.toNat = code then
    { out := w.out ++ stepDigits w.bias 36 w.steps
      steps := 0
      bias := adapt w.steps (w.placed + 1) (w.placed == plain)
      placed := w.placed + 1 }
  else w

/-- Places the codes in ascending order, the cursor standing at `next`. -/
def place (label : List Char) (plain : Nat) (w : Writer) (next : Nat) : List Nat → Writer
  | [] => w
  | code :: codes =>
    let w := {w with steps := w.steps + (code - next) * (w.placed + 1)}
    let w := label.foldl (Writer.pass plain code) w
    place label plain {w with steps := w.steps + 1} (code + 1) codes

/-- The label in ASCII, without the mark that says so. -/
def encode (label : List Char) : List Char :=
  let plain := label.filter (·.toNat < 0x80)
  let codes := ((label.map Char.toNat).filter (0x80 ≤ ·)).mergeSort.eraseDups
  let first := if plain = [] then [] else plain ++ ['-']
  (place label plain.length ⟨first, 0, firstBias, plain.length⟩ 0x80 codes).out

/-! ### From ASCII -/

/-- Numbers of steps and weights stay below this, `2^32`. -/
def stepLimit : Nat := 0x100000000

/-- A count of steps and the digits after it. `steps` are counted already, and the next digit has
this weight. -/
def readSteps? (bias position weight steps : Nat) : List Char → Option (Nat × List Char)
  | [] => none
  | c :: rest => do
    let d ← digitValue? c
    let steps := steps + d * weight
    let t := threshold position bias
    if stepLimit ≤ steps then none
    else if d < t then some (steps, rest)
    else if stepLimit ≤ weight * (36 - t) then none
    else readSteps? bias (position + 36) (weight * (36 - t)) steps rest

theorem readSteps?_length {bias position weight steps : Nat} {cs rest : List Char} {n : Nat}
    (h : readSteps? bias position weight steps cs = some (n, rest)) : rest.length < cs.length := by
  induction cs generalizing position weight steps with
  | nil => simp [readSteps?] at h
  | cons c cs ih =>
    unfold readSteps? at h
    cases hd : digitValue? c with
    | none => simp [hd] at h
    | some d =>
      simp only [hd, Option.bind_eq_bind, Option.bind_some] at h
      split at h
      · cases h
      · split at h
        · simp only [Option.some.injEq, Prod.mk.injEq] at h
          rw [← h.2]
          simp
        · split at h
          · cases h
          · have := ih h
            simp only [List.length_cons]
            omega

/-- Puts characters into the label until the digits end. The cursor stands at `code`, before the
character at `index`; the steps are counted from the start of the label. -/
def insertAll? (label : List Char) (bias code index : Nat) (isFirst : Bool) (digits : List Char) :
    Option (List Char) :=
  if digits = [] then some label
  else
    match h : readSteps? bias 36 1 index digits with
    | none => none
    | some (steps, rest) =>
      let count := label.length + 1
      let code := code + steps / count
      let place := steps % count
      if code < 0xD800 ∨ (0xDFFF < code ∧ code < 0x110000) then
        insertAll? (label.take place ++ Char.ofNat code :: label.drop place)
          (adapt (steps - index) count isFirst) code (place + 1) false rest
      else none
termination_by digits.length
decreasing_by exact readSteps?_length h

/-- The plain characters and the digits: the last hyphen is between them, unless nothing is before
it. -/
def splitPlain (ascii : List Char) : List Char × List Char :=
  let digits := (ascii.reverse.takeWhile (· != '-')).reverse
  let plain := ascii.take (ascii.length - digits.length - 1)
  if plain = [] then ([], ascii) else (plain, digits)

/-- The label that `encode` writes so. -/
def decode? (ascii : List Char) : Option (List Char) :=
  let (plain, digits) := splitPlain ascii
  insertAll? plain firstBias 0x80 0 true digits

end SnapshotFeed.Url.Punycode
