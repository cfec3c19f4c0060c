import NewsAnalytics.Url.Host
import NewsAnalytics.Url.Segments

/-!
# Reading URLs

A text is read as a URL of its own, or relative to a base. Spaces and
controls at its ends are dropped first, and tabs and line ends do not count
anywhere; only the paths of files notice where they stand.

What begins with a scheme is absolute, with one exception: a special
scheme without two slashes behind it is relative to a base of the same
scheme. A relative reference keeps the parts of the base up to the first
one that it has itself: an authority behind two slashes, a path from the
root behind one, else a path that replaces the last segment, a query, a
fragment.

## Main definitions

* `Url.parse` — an absolute URL.
* `Url.join` — a reference, relative to a base.
-/

namespace NewsAnalytics.Url

/-! ## Characters -/

/-- A slash, or a backslash. -/
def isSlash (c : Char) : Bool := c = '/' || c = '\\'

/-- The text begins with a slash of either kind. -/
def startsWithSlash : List Char → Bool
  | c :: _ => isSlash c
  | [] => false

/-- Ends an authority. -/
def endsAuthority (special : Bool) (c : Char) : Bool :=
  c = '/' || c = '?' || c = '#' || (special && c = '\\')

/-! ## Scheme -/

/-- A character of a scheme behind its first letter. -/
def isSchemeChar (c : Char) : Bool := c.isAlphanum || c = '+' || c = '-' || c = '.'

/-- The scheme of a text in lower case, and what stands behind its colon. -/
def takeScheme (cs : List Char) : Option (String × List Char) :=
  let isInside (c : Char) : Bool := isSchemeChar c || isIgnored c
  match cs.dropWhile isInside with
  | ':' :: rest =>
    if cs.head?.any Char.isAlpha then
      some (String.ofList ((clean (cs.takeWhile isInside)).map Char.toLower), rest)
    else none
  | _ => none

/-! ## Query and fragment -/

/-- The path of a text, before its query and fragment. -/
def pathPart (cs : List Char) : List Char := cs.takeWhile fun c => c ≠ '?' && c ≠ '#'

/-- The query and the fragment of a text, behind its path. -/
def tailPart (cs : List Char) : List Char := cs.dropWhile fun c => c ≠ '?' && c ≠ '#'

/-- The written fragment of a text that begins with its `#`. -/
def readFragment : List Char → Option String
  | '#' :: rest => some (String.ofList (Text.Percent.encode Excluded.fragment (clean rest)))
  | _ => none

/-- The written query and fragment of a text that begins with one of them. -/
def readTail (special : Bool) : List Char → Option String × Option String
  | '?' :: rest =>
    let query := clean (rest.takeWhile (· ≠ '#'))
    (some (String.ofList (Text.Percent.encode (Excluded.query special) query)),
     readFragment (rest.dropWhile (· ≠ '#')))
  | cs => (none, readFragment cs)

/-- A URL with the query and fragment of a text that begins with one of
them. -/
def withTail (u : Url) (cs : List Char) : Url :=
  let (query, fragment) := readTail u.isSpecial cs
  { u with query := query, fragment := fragment }

/-- A URL with the path that `cs` holds, read behind the segments `done`,
and its query and fragment. -/
def withPath (scheme : String) (authority : Option Authority) (done : List String)
    (cs : List Char) : Url :=
  let list := Segments.extend scheme done (pathPart cs)
  withTail { scheme, authority, path := .segments list } (tailPart cs)

/-! ## Authority -/

/-- The texts before and behind the last occurrence of a character. -/
def cutAtLast (mark : Char) : List Char → Option (List Char × List Char)
  | [] => none
  | c :: rest =>
    match cutAtLast mark rest with
    | some (before, behind) => some (c :: before, behind)
    | none => if c = mark then some ([], rest) else none

/-- The written user and password. An empty password counts as none. -/
def readUser (cs : List Char) : String × Option String :=
  let encode (part : List Char) : String :=
    String.ofList (Text.Percent.encode Excluded.user part)
  let password := (cs.dropWhile (· ≠ ':')).drop 1
  (encode (cs.takeWhile (· ≠ ':')), if password.isEmpty then none else some (encode password))

/-- The user of an authority, and what stands behind its `@`. Nothing but
an `@` before the path is an authority without host. -/
def takeUser (special : Bool) (cs : List Char) :
    Except Error ((String × Option String) × List Char) :=
  let inside := cs.takeWhile (!endsAuthority special ·)
  match cutAtLast '@' inside with
  | none => .ok (("", none), cs)
  | some (user, behind) =>
    let rest := cs.drop (user.length + 1)
    if user.isEmpty && behind.isEmpty && !rest.isEmpty then .error .emptyHost
    else .ok (readUser user, rest)

/-- The text of a host, and what stands behind it. A colon between brackets
belongs to the host. -/
def takeHost (special : Bool) (inBrackets : Bool) : List Char → List Char × List Char
  | [] => ([], [])
  | c :: rest =>
    if endsAuthority special c || (c = ':' && !inBrackets) then ([], c :: rest)
    else
      let now := if c = '[' then true else if c = ']' then false else inBrackets
      let (host, behind) := takeHost special now rest
      (c :: host, behind)

/-- The digits of a port, read onto `port`, and what stands behind them. -/
def takePort (port : Nat) : List Char → Except Error (Nat × List Char)
  | [] => .ok (port, [])
  | c :: rest =>
    if c.isDigit then
      let next := port * 10 + (c.toNat - '0'.toNat)
      if 65535 < next then .error .invalidPort else takePort next rest
    else if endsAuthority true c then .ok (port, c :: rest)
    else .error .invalidPort

/-- The port behind a host, if there is one other than the default of the
scheme, and what stands behind it. -/
def readPort (scheme : String) : List Char → Except Error (Option Nat × List Char)
  | ':' :: cs => do
    let (port, rest) ← takePort 0 cs
    let isWritten := rest.length < cs.length && defaultPort? scheme != some port
    return (if isWritten then some port else none, rest)
  | cs => .ok (none, cs)

/-- The host of an authority, and what stands behind it. -/
def readHost (special : Bool) (cs : List Char) : Except Error (Host × List Char) := do
  let (text, rest) := takeHost special false cs
  if text.isEmpty && (special || rest.head? = some ':') then throw .emptyHost
  let host ← if special then Host.readSpecial text else Host.readOpaque text
  return (host, rest)

/-- A URL from its authority on, behind the two slashes. -/
def readAuthority (scheme : String) (cs : List Char) : Except Error Url := do
  let special := isSpecialScheme scheme
  let ((user, password), rest) ← takeUser special cs
  let (host, rest) ← readHost special rest
  let (port, rest) ← readPort scheme rest
  if host.isEmpty && (user ≠ "" || password.isSome) then throw .emptyHost
  let authority : Authority := { user, password, host, port }
  match rest with
  | [] | '?' :: _ | '#' :: _ =>
    if special then return withPath scheme authority [] rest
    else return withTail { scheme, authority, path := .segments [] } rest
  | c :: behind =>
    if Segments.isSeparator special c then return withPath scheme authority [] behind
    else return withPath scheme authority [] rest

/-! ## Files -/

/-- The drive letter at the beginning of a path, if there is one. -/
def driveOf (u : Url) : List String :=
  (u.segments.take 1).filter Segments.isWrittenDriveLetter

/-- The text begins with a drive letter as its first segment. -/
def startsWithDriveLetter (cs : List Char) : Bool :=
  Segments.isDriveLetter (cs.take 2)
    && match cs.drop 2 with
      | [] => true
      | c :: _ => endsAuthority true c

/-- The authority of a file on the machine itself. -/
def noHost : Authority := { host := .name "" }

/-- A file from its host on, behind two slashes. A drive letter in place of
the host begins the path, and one right behind the root does away with the
host. The machine itself is not named. Without a host, the slash before the
path is a part of what is read. -/
def readFileHost (cs : List Char) : Except Error Url := do
  let text := clean (cs.takeWhile (!endsAuthority true ·))
  let rest := cs.dropWhile (!endsAuthority true ·)
  if Segments.isDriveLetter text then return withPath "file" (some noHost) [] cs
  let host ← if text.isEmpty then pure noHost.host else Host.readSpecial text
  if host.isEmpty || host = .name "localhost" then return withPath "file" (some noHost) [] rest
  let path := if startsWithSlash rest then rest.drop 1 else rest
  let meetsDrive := Segments.meetsDrive [] (Segments.split true (pathPart path))
  return withPath "file" (some (if meetsDrive then noHost else { host })) [] path

/-- A file from the root on, behind one slash. The base gives its drive
letter, or else its host. -/
def readFileRoot (base : Option Url) (cs : List Char) : Url :=
  match base with
  | none => withPath "file" (some noHost) [] cs
  | some base =>
    if startsWithDriveLetter (clean cs) then withPath "file" (some noHost) [] cs
    else if (driveOf base).isEmpty then withPath "file" base.authority [] cs
    else withPath "file" (some noHost) (driveOf base) cs

/-- A file beside another one. A drive letter leaves nothing of the base. -/
def readFileBeside (base : Url) (cs : List Char) : Url :=
  match cs with
  | [] => { base with fragment := none }
  | '?' :: _ => withTail base cs
  | '#' :: _ => { base with fragment := readFragment cs }
  | _ =>
    if startsWithDriveLetter (clean cs) then withPath "file" (some noHost) [] cs
    else
      let list := Segments.extendBeside base.segments (pathPart cs)
      withTail { base with path := .segments list } (tailPart cs)

/-- A file, perhaps relative to another one. Tabs and line ends are still in
the text. -/
def readFile (base : Option Url) (text : List Char) : Except Error Url :=
  let cs := text.dropWhile isIgnored
  let behind := (cs.drop 1).dropWhile isIgnored
  if startsWithSlash cs then
    if startsWithSlash behind then readFileHost (behind.drop 1)
    else .ok (readFileRoot base behind)
  else match base with
    | none => .ok (withPath "file" (some noHost) [] cs)
    | some base => .ok (readFileBeside base cs)

/-! ## References -/

/-- A reference without scheme, relative to a base other than a file. Just
two slashes are taken before an authority, so a third one leaves its host
empty. -/
def readRelative (base : Url) (cs : List Char) : Except Error Url :=
  match cs with
  | [] => .ok { base with fragment := none }
  | '?' :: _ => .ok (withTail base cs)
  | '#' :: _ => .ok { base with fragment := readFragment cs }
  | '/' :: '/' :: rest => readAuthority base.scheme rest
  | c :: rest =>
    if isSlash c then
      if startsWithSlash rest then
        readAuthority base.scheme (rest.dropWhile isSlash)
      else .ok (withPath base.scheme base.authority [] rest)
    else .ok (withPath base.scheme base.authority base.segments.dropLast cs)

/-- A URL of a scheme that is not special. -/
def readOther (scheme : String) (cs : List Char) : Except Error Url :=
  match cs with
  | '/' :: '/' :: rest => readAuthority scheme rest
  | '/' :: rest => .ok (withPath scheme none [] rest)
  | cs =>
    let text := String.ofList (Text.Percent.encode Excluded.control (pathPart cs))
    .ok (withTail { scheme, authority := none, path := .opaqueText text } (tailPart cs))

/-- A URL of a scheme of the web other than `file`. -/
def readWeb (base : Option Url) (scheme : String) (cs : List Char) : Except Error Url :=
  let authority := readAuthority scheme (cs.dropWhile isSlash)
  match base with
  | some base =>
    if (cs.takeWhile isSlash).length < 2 && base.scheme = scheme then readRelative base cs
    else authority
  | none => authority

/-- A URL whose scheme has been read. -/
def readScheme (base : Option Url) (scheme : String) (cs : List Char) : Except Error Url :=
  if scheme = "file" then readFile (base.filter (·.scheme = "file")) cs
  else if isSpecialScheme scheme then readWeb base scheme (clean cs)
  else readOther scheme (clean cs)

/-- A text as a URL of its own. -/
def parse (s : String) : Except Error Url :=
  match takeScheme (trimEdges s) with
  | some (scheme, rest) => readScheme none scheme rest
  | none => .error .relativeWithoutBase

/-- A text as a reference, relative to a base that is not opaque. -/
def join (base : Url) (s : String) : Except Error Url :=
  let cs := trimEdges s
  match takeScheme cs with
  | some (scheme, rest) => readScheme (some base) scheme rest
  | none =>
    if base.scheme = "file" then readFile (some base) cs else readRelative base (clean cs)

end NewsAnalytics.Url
