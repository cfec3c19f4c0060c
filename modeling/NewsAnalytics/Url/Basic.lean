/-!
# URLs

A URL has a scheme, perhaps an authority, a path, and perhaps a query and
a fragment. All parts are kept in their written form: encoded, lower-case
where case does not matter, without the default port.

The schemes of the web (`http`, `https`, `ws`, `wss`, `ftp`, `file`) are
*special*: their path is never empty, and a backslash separates segments as
a slash does. A URL without authority whose path does not begin with a
slash is *opaque*: nothing can be relative to it.

## Main definitions

* `Url`, `Authority`, `Host`, `Path` — the parts.
* `Url.text` — the written form.
* `Url.Error` — why a text is no URL.
-/

namespace NewsAnalytics

namespace Url

/-! ## Parts -/

/-- A host: a name, or an address of either kind. The empty name stands
for no host. -/
inductive Host where
  | name (text : String)
  | ipv4 (address : Nat)
  | ipv6 (pieces : List Nat)
  deriving DecidableEq

/-- A user, a host and a port. -/
structure Authority where
  user : String := ""
  password : Option String := none
  host : Host
  port : Option Nat := none
  deriving DecidableEq

/-- A path: segments, each behind a slash, or opaque text. -/
inductive Path where
  | segments (list : List String)
  | opaqueText (text : String)
  deriving DecidableEq

end Url

/-- A URL, by its parts. -/
structure Url where
  scheme : String
  authority : Option Url.Authority
  path : Url.Path
  query : Option String := none
  fragment : Option String := none
  deriving DecidableEq

namespace Url

/-! ## Schemes -/

/-- The port that a scheme stands for. -/
def defaultPort? (scheme : String) : Option Nat :=
  if scheme = "http" ∨ scheme = "ws" then some 80
  else if scheme = "https" ∨ scheme = "wss" then some 443
  else if scheme = "ftp" then some 21
  else none

/-- A scheme of the web. -/
def isSpecialScheme (scheme : String) : Bool :=
  scheme = "file" || (defaultPort? scheme).isSome

/-- A scheme that requests can be sent over. -/
def isHttpScheme (scheme : String) : Bool := scheme = "http" || scheme = "https"

/-! ## Written form -/

/-- The four numbers of an address, from the highest on. -/
def ipv4Text (address : Nat) : String :=
  ".".intercalate ([24, 16, 8, 0].map fun shift => toString (address >>> shift % 256))

/-- The number of zeros that a list begins with. -/
def leadingZeros (pieces : List Nat) : Nat := (pieces.takeWhile (· == 0)).length

/-- Where the first of the longest runs of zeros begins, and its length. -/
def longestZeros : Nat → List Nat → Nat × Nat
  | start, [] => (start, 0)
  | start, p :: rest =>
    let here := leadingZeros (p :: rest)
    let behind := longestZeros (start + 1) rest
    if behind.2 ≤ here then (start, here) else behind

/-- Pieces of an address, colons between them. -/
def piecesText (pieces : List Nat) : String :=
  ":".intercalate (pieces.map fun p => String.ofList (Nat.toDigits 16 p))

/-- Eight pieces; the longest run of two zeros or more is left out. -/
def ipv6Text (pieces : List Nat) : String :=
  let (start, count) := longestZeros 0 pieces
  if count < 2 then piecesText pieces
  else piecesText (pieces.take start) ++ "::" ++ piecesText (pieces.drop (start + count))

/-- The written form of a host. -/
def Host.text : Host → String
  | .name text => text
  | .ipv4 address => ipv4Text address
  | .ipv6 pieces => "[" ++ ipv6Text pieces ++ "]"

/-- No host at all. -/
def Host.isEmpty (host : Host) : Bool := host == .name ""

/-- User and password, with an `@` if there is one of them. -/
def Authority.userText (a : Authority) : String :=
  let secret := match a.password with
    | some password => ":" ++ password
    | none => ""
  if a.user = "" ∧ a.password = none then "" else a.user ++ secret ++ "@"

/-- The port, with its colon. -/
def Authority.portText (a : Authority) : String :=
  match a.port with
  | some port => ":" ++ toString port
  | none => ""

/-- The written form of an authority. -/
def Authority.text (a : Authority) : String :=
  a.userText ++ a.host.text ++ a.portText

/-- The written form of a path. -/
def Path.text : Path → String
  | .segments list => String.join (list.map ("/" ++ ·))
  | .opaqueText text => text

/-- Scheme, authority and path. A path of a URL without authority must not
be taken for an authority, so `/.` stands before one that begins with two
slashes. -/
def stem (u : Url) : String :=
  let path := u.path.text
  let before := match u.authority with
    | some a => "//" ++ a.text
    | none => if ['/', '/'].isPrefixOf path.toList then "/." else ""
  u.scheme ++ ":" ++ before ++ path

/-- The written form of a URL. -/
def text (u : Url) : String :=
  let query := match u.query with
    | some query => "?" ++ query
    | none => ""
  let fragment := match u.fragment with
    | some fragment => "#" ++ fragment
    | none => ""
  u.stem ++ query ++ fragment

/-! ## Questions -/

/-- The scheme is one of the web. -/
def isSpecial (u : Url) : Bool := isSpecialScheme u.scheme

/-- Nothing can be relative to the URL. -/
def isOpaque (u : Url) : Bool :=
  match u.path with
  | .opaqueText _ => true
  | .segments _ => false

/-- The URL names a host. -/
def hasHost (u : Url) : Bool :=
  match u.authority with
  | some a => !a.host.isEmpty
  | none => false

/-- The segments of the path. -/
def segments (u : Url) : List String :=
  match u.path with
  | .segments list => list
  | .opaqueText _ => []

/-! ## Errors -/

/-- Why a text is no URL. -/
inductive Error where
  | emptyHost
  | invalidDomainName
  | invalidHostCharacter
  | invalidPort
  | invalidIpv4
  | invalidIpv6
  | relativeWithoutBase
  deriving DecidableEq

/-- The wording of an error. -/
def Error.message : Error → String
  | .emptyHost => "empty host"
  | .invalidDomainName => "invalid international domain name"
  | .invalidHostCharacter => "invalid domain character"
  | .invalidPort => "invalid port number"
  | .invalidIpv4 => "invalid IPv4 address"
  | .invalidIpv6 => "invalid IPv6 address"
  | .relativeWithoutBase => "relative URL without a base"

end Url

end NewsAnalytics
