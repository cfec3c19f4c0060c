import NewsAnalytics.Text.Percent
import NewsAnalytics.Text.Split
import NewsAnalytics.Url.Basic
import NewsAnalytics.Url.Excluded

/-!
# Reading hosts

A host between brackets is an IPv6 address. Any other host of a special
scheme is a domain name: escapes are undone, ASCII letters become
lower-case, and a name whose last label is a number is an IPv4 address and
nothing else. Other schemes keep the host as an opaque text.

Domain names are ASCII here. The step that turns an international name into
ASCII is left out: a name with a character beyond ASCII is refused, whether
or not that step would give it a form, and a label that announces an encoded
one (`xn--`) stands as it is, neither decoded nor checked, except that one
that holds nothing is refused. What is said of URLs elsewhere does not
depend on which of these names are taken.

## Main definitions

* `readIpv4`, `readIpv6` — addresses.
* `readSpecial`, `readOpaque` — hosts of special and of other schemes.
-/

namespace NewsAnalytics.Url.Host

open Text

/-! ## Labels -/

/-- The parts of a text between dots. -/
def labels (cs : List Char) : List (List Char) := splitAt (· = '.') cs

/-- Labels without an empty last one. -/
def dropRootLabel (parts : List (List Char)) : List (List Char) :=
  if parts.getLast? = some [] then parts.dropLast else parts

/-! ## IPv4 -/

/-- The value of digits to a base, if each of them is one. -/
def digitsValue? (base : Nat) (cs : List Char) : Option Nat :=
  cs.foldl (fun value c => do
    let v ← value
    let d ← Hex.value? c
    if d < base then some (v * base + d) else none) (some 0)

/-- A number in decimal, or in octal behind `0`, or in hexadecimal behind
`0x`. Nothing behind the mark is zero. -/
def ipv4Number? : List Char → Option Nat
  | [] => none
  | '0' :: 'x' :: rest | '0' :: 'X' :: rest => digitsValue? 16 rest
  | '0' :: c :: rest => digitsValue? 8 (c :: rest)
  | cs => digitsValue? 10 cs

/-- The last label makes the name an address: it is all digits, or a number
in another base. -/
def endsInNumber (cs : List Char) : Bool :=
  match (dropRootLabel (labels cs)).getLast? with
  | none => false
  | some last => (!last.isEmpty && last.all Char.isDigit) || (ipv4Number? last).isSome

/-- An address of one to four numbers. All but the last fill a byte each;
the last one fills the bytes that are left. -/
def readIpv4 (cs : List Char) : Except Error Nat :=
  let parts := dropRootLabel (labels cs)
  match parts.mapM ipv4Number? with
  | none => .error .invalidIpv4
  | some numbers =>
    let heads := numbers.dropLast
    match numbers.getLast? with
    | none => .error .invalidIpv4
    | some last =>
      if 4 < numbers.length then .error .invalidIpv4
      else if heads.any (255 < ·) || 1 <<< (8 * (4 - heads.length)) ≤ last then
        .error .invalidIpv4
      else .ok (heads.zipIdx.foldl (fun sum (n, i) => sum + (n <<< (8 * (3 - i)))) last)

/-! ## IPv6 -/

/-- One of the four numbers of an address embedded at the end: a byte in
decimal, without leading zeros. -/
def byteNumber? (cs : List Char) : Option Nat :=
  match cs with
  | [] => none
  | ['0'] => some 0
  | '0' :: _ => none
  | cs => if cs.all Char.isDigit && cs.length ≤ 3 then
      (digitsValue? 10 cs).filter (· ≤ 255) else none

/-- The two pieces that an embedded address fills. -/
def embeddedPieces? (cs : List Char) : Option (List Nat) :=
  match (labels cs).mapM byteNumber? with
  | some [a, b, c, d] => some [a * 256 + b, c * 256 + d]
  | _ => none

/-- Reads on behind `pieces`, of which the run left out is to be put at
`gap`. At most `bound` steps are taken. -/
def readPieces : Nat → List Nat → Option Nat → List Char → Option (List Nat × Option Nat)
  | _, pieces, gap, [] => some (pieces, gap)
  | 0, _, _, _ => none
  | bound + 1, pieces, gap, c :: cs =>
    if pieces.length = 8 then none
    else if c = ':' then
      if gap.isSome then none
      else readPieces bound (pieces ++ [0]) (some (pieces.length + 1)) cs
    else
      let digits := ((c :: cs).take 4).takeWhile fun d => (Hex.value? d).isSome
      let value := (digitsValue? 16 digits).getD 0
      match (c :: cs).drop digits.length with
      | [] => some (pieces ++ [value], gap)
      | [':'] => none
      | ':' :: rest => readPieces bound (pieces ++ [value]) gap rest
      | '.' :: _ =>
        if digits.isEmpty || 6 < pieces.length then none
        else (embeddedPieces? (c :: cs)).map fun last => (pieces ++ last, gap)
      | _ => none

/-- The eight pieces, when those from `gap` on are moved to the end. -/
def fillGap (pieces : List Nat) : Option Nat → Option (List Nat)
  | none => if pieces.length = 8 then some pieces else none
  | some gap =>
    some (pieces.take gap ++ List.replicate (8 - pieces.length) 0 ++ pieces.drop gap)

/-- The eight pieces of an address. -/
def ipv6? (cs : List Char) : Option (List Nat) := do
  let (pieces, gap) ← match cs with
    | ':' :: ':' :: rest => readPieces rest.length [0] (some 1) rest
    | ':' :: _ | [] | [_] => none
    | cs => readPieces cs.length [] none cs
  fillGap pieces gap

/-- An address between brackets. -/
def readIpv6 (cs : List Char) : Except Error Host :=
  if cs.getLast? = some ']' then
    match ipv6? (cs.drop 1).dropLast with
    | some pieces => .ok (.ipv6 pieces)
    | none => .error .invalidIpv6
  else .error .invalidIpv6

/-! ## Names -/

/-- Characters that no domain name holds. -/
def isForbidden (c : Char) : Bool :=
  c ≤ ' ' || '\x7f' ≤ c || c = '%' || c = '#' || c = '/' || c = ':' || c = '<' || c = '>'
    || c = '?' || c = '@' || c = '[' || c = '\\' || c = ']' || c = '^' || c = '|'

/-- The label announces an encoded label and holds none. -/
def isHollow (label : List Char) : Bool := label = ['x', 'n', '-', '-']

/-- A host of a special scheme. -/
def readSpecial (cs : List Char) : Except Error Host :=
  if cs.head? = some '[' then readIpv6 cs
  else
    let domain := (Utf8.decode (Percent.decode cs)).map Char.toLower
    if domain.any isForbidden || (labels domain).any isHollow then .error .invalidDomainName
    else if domain.isEmpty then .error .emptyHost
    else if endsInNumber domain then (readIpv4 domain).map .ipv4
    else .ok (.name (String.ofList domain))

/-- Characters that no opaque host holds. -/
def isForbiddenOpaque (c : Char) : Bool :=
  c = '\x00' || c = ' ' || c = '#' || c = '/' || c = ':' || c = '<' || c = '>'
    || c = '?' || c = '@' || c = '[' || c = '\\' || c = ']' || c = '^' || c = '|'

/-- A host of another scheme. -/
def readOpaque (cs : List Char) : Except Error Host :=
  if cs.head? = some '[' then readIpv6 cs
  else if cs.any isForbiddenOpaque then .error .invalidHostCharacter
  else .ok (.name (String.ofList (Percent.encode Excluded.control cs)))

end NewsAnalytics.Url.Host
