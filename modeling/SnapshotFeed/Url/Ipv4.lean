import SnapshotFeed.Digits
import SnapshotFeed.Error

/-! IPv4 addresses in hosts.

A host whose last label is a number is an address, or nothing. Numbers may be decimal, octal
after `0` or hexadecimal after `0x`; the last one fills all the bytes the others leave. -/
namespace SnapshotFeed.Url

/-- One number of an address. Nothing after the mark of a base is zero. -/
def ipv4Number? : List Char → Option Nat
  | [] => none
  | '0' :: 'x' :: rest | '0' :: 'X' :: rest => number? 16 rest
  | '0' :: d :: rest => number? 8 (d :: rest)
  | cs => number? 10 cs

/-- The parts, without an empty last one. -/
def ipv4Parts (host : List Char) : List (List Char) :=
  match (host.splitOn '.').reverse with
  | [] :: p :: rest => (p :: rest).reverse
  | parts => parts.reverse

/-- The last label is a number, so the host has to be an address. -/
def endsInNumber (host : List Char) : Bool :=
  match (ipv4Parts host).getLast? with
  | none | some [] => false
  | some last => last.all Char.isDigit || (ipv4Number? last).isSome

/-- The address as one number of 32 bits. -/
def ipv4? (host : List Char) : Except Fault Nat :=
  let parts := ipv4Parts host
  match parts.mapM ipv4Number? with
  | none => .error .invalidIpv4
  | some numbers =>
    match numbers.reverse with
    | [] => .error .invalidIpv4
    | last :: before =>
      if parts.length > 4 ∨ before.any (· > 255) ∨ Nat.pow 256 (4 - before.length) ≤ last then
        .error .invalidIpv4
      else
        .ok (ofDigits 256 before.reverse * Nat.pow 256 (4 - before.length) + last)

/-- Four decimal numbers. -/
def renderIpv4 (address : Nat) : List Char :=
  ((List.range 4).reverse.map fun i =>
    (toString (address / Nat.pow 256 i % 256)).toList).intersperse ['.'] |>.flatten

end SnapshotFeed.Url
