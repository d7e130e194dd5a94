import SnapshotFeed.Url.Ipv6
import SnapshotFeed.Url.Label

/-! Hosts.

Under a scheme with names, a host is an IPv6 address in brackets, an IPv4 address, or a domain
name, after percent-decoding. Under any other scheme it is an IPv6 address in brackets or a text
kept as it is.

A domain name is normalized and cut into labels. If one of them is written from right to left, every
label has to keep its place. The name is then written in ASCII. -/
namespace SnapshotFeed.Url

/-! ### Domain names -/

/-- The labels of a name. -/
def labels? (name : List Char) : Option (List Label) := do
  let labels ← ((← normalize? name).splitOn '.').mapM Label.ofText?
  if labels.any Label.isRightToLeft && !labels.all Label.keepsPlace then none else some labels

/-- The name in ASCII. -/
def domain? (name : List Char) : Except Fault (List Char) :=
  match labels? name with
  | some labels => .ok ((labels.map Label.ascii).intersperse ['.']).flatten
  | none => .error .invalidDomain

/-! ### Hosts of any kind -/

inductive Host where
  | none
  | domain (name : List Char)
  | ipv4 (address : Nat)
  | ipv6 (pieces : List Nat)
  | opaqueName (text : List Char)
  deriving DecidableEq, Repr

namespace Host

/-- The address between brackets. -/
def bracketed? (text : List Char) : Except Fault Host :=
  match text.reverse with
  | ']' :: inner => (ipv6? inner.reverse).map .ipv6
  | _ => .error .invalidIpv6

/-- The host a text names under a scheme with names. -/
def parse (text : List Char) : Except Fault Host :=
  match text with
  | '[' :: rest => bracketed? rest
  | _ =>
    match decodeText? text with
    | .none => .error .invalidDomain
    | some name => do
      let name ← domain? name
      if name = [] then .error .emptyHost
      else if endsInNumber name then (ipv4? name).map .ipv4
      else .ok (.domain name)

/-- No host without a name has such a character. -/
def isForbidden (c : Char) : Bool :=
  ['\x00', '\t', '\n', '\r', ' ', '#', '/', ':', '<', '>', '?', '@', '[', '\\', ']', '^', '|'].contains c

/-- The host a text is under any other scheme. -/
def parseOpaque (text : List Char) : Except Fault Host :=
  match text with
  | [] => .ok .none
  | '[' :: rest => bracketed? rest
  | _ =>
    if text.any isForbidden then .error .invalidHostCharacter
    else .ok (.opaqueName (encode opaqueSet text))

def render : Host → List Char
  | none => []
  | domain name => name
  | ipv4 address => renderIpv4 address
  | ipv6 pieces => ['['] ++ renderIpv6 pieces ++ [']']
  | opaqueName text => text

end Host

end SnapshotFeed.Url
