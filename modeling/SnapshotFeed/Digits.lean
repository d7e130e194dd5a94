/-! Digits, and what they write.

Digits of the bases up to sixteen are read from ASCII codes, in either case, and written in
hexadecimal; Base64 is only written. -/
namespace SnapshotFeed

/-! ### Digits that are read -/

/-- What a code says as a hexadecimal digit; letters may have either case. -/
def hexDigit? (code : Nat) : Option Nat :=
  if 0x30 ≤ code ∧ code ≤ 0x39 then some (code - 0x30)
  else if 0x41 ≤ code ∧ code ≤ 0x46 then some (code - 0x41 + 10)
  else if 0x61 ≤ code ∧ code ≤ 0x66 then some (code - 0x61 + 10)
  else none

/-- What a code says as a digit of a base up to sixteen. -/
def digitOf? (base code : Nat) : Option Nat := (hexDigit? code).filter (· < base)

/-- The digits of a number in a base, if all are. -/
def digits? (base : Nat) (cs : List Char) : Option (List Nat) := cs.mapM fun c => digitOf? base c.toNat

def ofDigits (base : Nat) (ds : List Nat) : Nat := ds.foldl (fun n d => base * n + d) 0

/-- The number that characters write in a base. -/
def number? (base : Nat) (cs : List Char) : Option Nat := (digits? base cs).map (ofDigits base)

/-! ### Digits that are written -/

def hexUpper (n : Nat) : Char :=
  if n < 10 then Char.ofNat (0x30 + n) else Char.ofNat (0x41 + n - 10)

/-- Lower-case hexadecimal. -/
def hexLower (n : Nat) : List Char := Nat.toDigits 16 n

def base64Digit (n : Nat) : Char :=
  if n < 26 then Char.ofNat (0x41 + n)
  else if n < 52 then Char.ofNat (0x61 + n - 26)
  else if n < 62 then Char.ofNat (0x30 + n - 52)
  else if n = 62 then '+'
  else '/'

/-- Three bytes are four digits; what is missing at the end is padded. -/
def base64 : List UInt8 → List Char
  | [] => []
  | [a] =>
    let n := a.toNat * 16
    [base64Digit (n / 64), base64Digit (n % 64), '=', '=']
  | [a, b] =>
    let n := (a.toNat * 256 + b.toNat) * 4
    [base64Digit (n / 4096), base64Digit (n / 64 % 64), base64Digit (n % 64), '=']
  | a :: b :: c :: rest =>
    let n := (a.toNat * 256 + b.toNat) * 256 + c.toNat
    base64Digit (n / 262144) :: base64Digit (n / 4096 % 64) :: base64Digit (n / 64 % 64) ::
      base64Digit (n % 64) :: base64 rest

end SnapshotFeed
