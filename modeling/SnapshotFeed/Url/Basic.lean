import SnapshotFeed.Url.Host
import SnapshotFeed.Url.Path

/-! URLs.

A URL is its parts, each as it is written after reading: letters folded, characters encoded, dot
segments gone, the default port left out. Six schemes have names for hosts; under these, a
backslash is a slash, any number of slashes starts the authority, and there is always a host and
a path (a file may have no host). Under any other scheme, two slashes start the authority, one
slash a path, and anything else is an opaque path. -/
namespace SnapshotFeed

namespace Url

/-- Who answers: the user, the host, and a port that is not the scheme's own. -/
structure Authority where
  username : List Char
  password : List Char
  host : Host
  port : Option Nat
  deriving DecidableEq, Repr

inductive PathPart where
  | segments (ss : List (List Char))
  | opaquePath (text : List Char)
  deriving DecidableEq, Repr

end Url

structure Url where
  scheme : List Char
  authority : Option Url.Authority
  path : Url.PathPart
  query : Option (List Char)
  fragment : Option (List Char)
  deriving DecidableEq, Repr

namespace Url

/-! ### Schemes -/

/-- The port nobody needs to write. -/
def defaultPort? (scheme : List Char) : Option Nat :=
  match String.ofList scheme with
  | "http" | "ws" => some 80
  | "https" | "wss" => some 443
  | "ftp" => some 21
  | _ => none

def isFile (scheme : List Char) : Bool := String.ofList scheme == "file"

/-- The scheme has names for hosts. -/
def isNamed (scheme : List Char) : Bool := (defaultPort? scheme).isSome || isFile scheme

def isSchemeChar (c : Char) : Bool := c.isAlphanum || c == '+' || c == '-' || c == '.'

/-- The scheme in small letters, and what follows its colon. -/
def splitScheme? (text : List Char) : Option (List Char × List Char) :=
  match text.span isSchemeChar with
  | (c :: scheme, ':' :: rest) =>
    if c.isAlpha then some ((c :: scheme).map Char.toLower, rest) else none
  | _ => none

/-! ### Cleaning -/

/-- Without control characters and spaces at the ends. -/
def trim (text : List Char) : List Char :=
  let outer (c : Char) : Bool := c.toNat ≤ 0x20
  ((text.dropWhile outer).reverse.dropWhile outer).reverse

/-- Tabs and line ends count for nothing. -/
def isBreak (c : Char) : Bool := c == '\t' || c == '\n' || c == '\r'

/-- Without what counts for nothing. -/
def clean (text : List Char) : List Char := (trim text).filter (!isBreak ·)

/-- The characters after the first `count` that count, of a text. -/
def dropCounted : Nat → List Char → List Char
  | 0, text => text
  | _ + 1, [] => []
  | count + 1, c :: rest => if isBreak c then dropCounted (count + 1) rest else dropCounted count rest

/-- There is a break right before the last `count` characters that count. -/
def hasBreakBefore (text : List Char) (count : Nat) : Bool :=
  (dropCounted count (trim text).reverse).head?.any isBreak

/-! ### The authority -/

def isSlash (c : Char) : Bool := c == '/' || c == '\\'

/-- The character ends the authority. -/
def endsAuthority (named : Bool) (c : Char) : Bool :=
  c == '/' || c == '?' || c == '#' || (named && c == '\\')

/-- The user and what follows the last at sign of the authority, if it has one. -/
def splitUser? (named : Bool) (text : List Char) : Option (List Char × List Char) :=
  let authority := text.takeWhile (!endsAuthority named ·)
  let host := (authority.reverse.takeWhile (· != '@')).reverse
  if host.length = authority.length then none
  else
    let user := authority.take (authority.length - host.length - 1)
    some (user, text.drop (user.length + 1))

/-- The host text and what follows it: a colon outside brackets ends it too. -/
def splitHost (named : Bool) (inside : Bool) : List Char → List Char × List Char
  | [] => ([], [])
  | c :: rest =>
    if (c == ':' && !inside) || endsAuthority named c then ([], c :: rest)
    else
      let inside := if c == '[' then true else if c == ']' then false else inside
      let (host, rest) := splitHost named inside rest
      (c :: host, rest)

/-- The port after a colon, and what follows it. No digits are no port. -/
def readPort (default : Option Nat) (text : List Char) : Except Fault (Option Nat × List Char) :=
  let (digits, rest) := text.span Char.isDigit
  let port := ofDigits 10 (digits.map fun c => c.toNat - 0x30)
  if 65535 < port then .error .invalidPort
  else
    match rest with
    | [] | '/' :: _ | '\\' :: _ | '?' :: _ | '#' :: _ =>
      .ok (if digits = [] ∨ some port = default then none else some port, rest)
    | _ => .error .invalidPort

def splitAtColon (user : List Char) : List Char × List Char :=
  match user.span (· != ':') with
  | (name, _ :: password) => (name, password)
  | (name, []) => (name, [])

/-- There is an at sign and nothing on either side of it. -/
def isBareAt (named : Bool) : Option (List Char × List Char) → Bool
  | some ([], c :: _) => endsAuthority named c
  | _ => false

/-- The host a text is under the scheme. -/
def readHost (named : Bool) (text : List Char) : Except Fault Host :=
  if !named then Host.parseOpaque text
  else if text = [] then .error .emptyHost
  else Host.parse text

/-- The authority, and what follows it. A user or a port need a host. -/
def readAuthority (scheme text : List Char) : Except Fault (Authority × List Char) := do
  let named := isNamed scheme
  let split := splitUser? named text
  if isBareAt named split then .error .emptyHost
  else
    let (user, afterUser) := split.getD ([], text)
    let (username, password) := splitAtColon user
    let (hostText, rest) := splitHost named false afterUser
    let host ← readHost named hostText
    if host = .none ∧ (rest.head? = some ':' ∨ username ≠ [] ∨ password ≠ []) then
      .error .emptyHost
    else
      let (port, rest) ← match rest with
        | ':' :: afterColon => readPort (defaultPort? scheme) afterColon
        | _ => .ok (none, rest)
      .ok (⟨encode userinfoSet username, encode userinfoSet password, host, port⟩, rest)

/-! ### What follows the path -/

/-- The query and the fragment, from the mark that starts them. -/
def readQueryAndFragment (named : Bool) (text : List Char) :
    Option (List Char) × Option (List Char) :=
  let querySet := if named then namedQuerySet else querySet
  match text with
  | '?' :: rest =>
    match rest.span (· != '#') with
    | (query, _ :: fragment) => (some (encode querySet query), some (encode fragmentSet fragment))
    | (query, []) => (some (encode querySet query), none)
  | '#' :: fragment => (none, some (encode fragmentSet fragment))
  | _ => (none, none)

def startsQueryOrFragment (c : Char) : Bool := c == '?' || c == '#'

def splitPath (text : List Char) : List Char × List Char := text.span (!startsQueryOrFragment ·)

/-- A URL from its front and the text after that front. -/
def withPath (scheme : List Char) (authority : Option Authority) (text : List Char) : Url :=
  let named := isNamed scheme
  let (path, rest) := splitPath text
  let segments := match path with
    | [] => if named then [[]] else []
    | c :: tail => readPath named (if c == '/' || (named && c == '\\') then tail else path)
  let (query, fragment) := readQueryAndFragment named rest
  ⟨scheme, authority, .segments segments, query, fragment⟩

def withOpaquePath (scheme text : List Char) : Url :=
  let (path, rest) := splitPath text
  let (query, fragment) := readQueryAndFragment false rest
  ⟨scheme, none, .opaquePath (encode opaqueSet path), query, fragment⟩

/-! ### Files -/

/-- The URL of a file from its host and what follows the first slash of its path. A drive first in
the path leaves no host; one that is only a part of the first segment leaves it. -/
def withFilePath (scheme : List Char) (host : Host) (start : FileStart) (text : List Char) : Url :=
  let (path, rest) := splitPath text
  let segments := readFilePath start path
  let host := if start ≠ .driveAndName ∧ segments.head?.any isDrive then .none else host
  let (query, fragment) := readQueryAndFragment true rest
  ⟨scheme, some ⟨[], [], host, none⟩, .segments (trimEmpty segments), query, fragment⟩

/-- The path of a file without its first slash. -/
def afterSlash (text : List Char) : List Char :=
  match text with
  | c :: rest => if isSlash c then rest else text
  | [] => []

/-- A break between a drive and what follows in its segment makes two of them. -/
def startOf (raw path : List Char) : FileStart :=
  match path with
  | a :: b :: c :: rest =>
    if isDrive [a, b] && !endsAuthority true c && hasBreakBefore raw (rest.length + 1) then
      .driveAndName
    else .plain
  | _ => .plain

/-- The URL of a file from what follows its scheme; `raw` is the whole text before cleaning. -/
def readFile (scheme raw text : List Char) : Except Fault Url :=
  let build (host : Host) (path : List Char) : Url := withFilePath scheme host (startOf raw path) path
  match text with
  | a :: b :: rest =>
    if isSlash a && isSlash b then
      let (hostText, afterHost) := rest.span (!endsAuthority true ·)
      if isDriveSpelling hostText then .ok (build .none rest)
      else do
        let host ← if hostText = [] then .ok .none else Host.parse hostText
        if host = .none ∨ host = .domain "localhost".toList then
          .ok (withFilePath scheme .none .afterEmpty (afterSlash afterHost))
        else .ok (build host (afterSlash afterHost))
    else .ok (build .none (afterSlash text))
  | _ => .ok (build .none (afterSlash text))

/-! ### Reading and writing -/

/-- The URL a text is. -/
def parse (text : String) : Except Fault Url :=
  match splitScheme? (clean text.toList) with
  | none => .error .relative
  | some (scheme, rest) =>
    if isFile scheme then readFile scheme text.toList rest
    else if isNamed scheme then do
      let (authority, rest) ← readAuthority scheme (rest.dropWhile isSlash)
      .ok (withPath scheme (some authority) rest)
    else
      match rest with
      | '/' :: '/' :: rest => do
        let (authority, rest) ← readAuthority scheme rest
        .ok (withPath scheme (some authority) rest)
      | '/' :: _ => .ok (withPath scheme none rest)
      | _ => .ok (withOpaquePath scheme rest)

/-- The user, with an at sign, if there is one. -/
def Authority.renderUser (a : Authority) : List Char :=
  if a.username = [] ∧ a.password = [] then []
  else a.username ++ (if a.password = [] then [] else ':' :: a.password) ++ ['@']

/-- The host, with a port if it has one. -/
def Authority.renderHost (a : Authority) : List Char :=
  a.host.render ++ (match a.port with
    | some port => ':' :: (toString port).toList
    | none => [])

def PathPart.render : PathPart → List Char
  | segments ss => renderPath ss
  | opaquePath text => text

/-- A path without an authority must not look like one. -/
def renderFront (authority : Option Authority) (path : PathPart) : List Char :=
  match authority, path with
  | some a, _ => ['/', '/'] ++ a.renderUser ++ a.renderHost
  | none, .segments ([] :: _ :: _) => ['/', '.']
  | none, _ => []

/-- The path, with the query if there is one. -/
def target (u : Url) : String :=
  .ofList (u.path.render ++ (match u.query with
    | some query => '?' :: query
    | none => []))

def render (u : Url) : String :=
  .ofList (u.scheme ++ [':'] ++ renderFront u.authority u.path) ++ u.target ++
    .ofList (match u.fragment with
      | some fragment => '#' :: fragment
      | none => [])

end Url

end SnapshotFeed
