import NewsAnalytics.Json.Reader

/-!
# Skipping JSON values

A typed reader skips the fields that it does not know. Skipping checks the
grammar and builds nothing, so it is laxer than reading: code units need
not pair up, numbers have no range, and there is no limit to the depth,
since the containers still open are kept in a list.

The loop that looks for a value is the same behind an opening bracket and
behind a comma, so a bracket behind a comma is an unexpected value here and
not a trailing comma.

## Main definitions

* `skipValue` — what is left behind a value.
-/

namespace NewsAnalytics.Json

/-! ## Scalars -/

/-- Skips a string behind its opening quote. -/
def skipString : List Char → Except Failure (List Char)
  | [] => .error (.after .endInString [])
  | '"' :: rest => .ok rest
  | '\\' :: 'u' :: a :: b :: c :: d :: rest =>
    match readUnit [a, b, c, d] with
    | .ok _ => skipString rest
    | .error _ => .error (badUnit (a :: b :: c :: d :: rest))
  | '\\' :: 'u' :: rest => .error (badUnit rest)
  | ['\\'] => .error (.after .endInString [])
  | '\\' :: c :: rest =>
    if (shortEscape? c).isSome then skipString rest
    else .error (.at .invalidEscape (c :: rest))
  | c :: rest =>
    if c < ' ' then .error (.after .controlCharacter (c :: rest)) else skipString rest

/-- Skips an exponent behind its mark. -/
def skipExponent (cs : List Char) : Except Failure (List Char) :=
  let digits := match cs with
    | '+' :: rest | '-' :: rest => rest
    | rest => rest
  if startsWithDigit digits then .ok (digits.dropWhile Char.isDigit)
  else .error (.at .invalidNumber digits)

/-- Skips an exponent, if one follows. -/
def skipFloatEnd (cs : List Char) : Except Failure (List Char) :=
  match cs with
  | 'e' :: rest | 'E' :: rest => skipExponent rest
  | rest => .ok rest

/-- Skips a fraction and an exponent, if they follow. -/
def skipNumberEnd (cs : List Char) : Except Failure (List Char) :=
  match cs with
  | '.' :: rest =>
    if startsWithDigit rest then skipFloatEnd (rest.dropWhile Char.isDigit)
    else .error (.at .invalidNumber rest)
  | rest => skipFloatEnd rest

/-- Skips a number behind its sign. -/
def skipNumber : List Char → Except Failure (List Char)
  | [] => .error (.after .invalidNumber [])
  | c :: cs =>
    if c = '0' then
      if startsWithDigit cs then .error (.at .invalidNumber cs) else skipNumberEnd cs
    else if c.isDigit then skipNumberEnd (cs.dropWhile Char.isDigit)
    else .error (.at .invalidNumber (c :: cs))

/-! ## Containers -/

/-- A container that is open. -/
inductive Container where
  | list
  | object
  deriving DecidableEq

/-- The text ends in a container. -/
def Container.endInside : Container → Problem
  | .list => .endInList
  | .object => .endInObject

/-- Something else than a comma or the end stands behind a member. -/
def Container.expectedComma : Container → Problem
  | .list => .expectedCommaOrBracket
  | .object => .expectedCommaOrBrace

/-- What closes a container. -/
def Container.close : Container → Char
  | .list => ']'
  | .object => '\x7d'

/-- Skips a name and its colon. -/
def skipName (cs : List Char) : Except Failure (List Char) :=
  match skipSpace cs with
  | [] => .error (.after .endInObject [])
  | '"' :: rest => do readColon (← skipString rest)
  | rest => .error (.at .nameNotString rest)

/-- Where the skipping stands: before a value, or in a container, behind a
member or not. -/
inductive Stage where
  | value
  | inside (behindMember : Bool)

/-- Skips on, with the containers `opened` around, in at most `bound`
steps. -/
def skipOn : Nat → Stage → List Container → List Char → Except Failure (List Char)
  | 0, _, _, cs => .error (.after .endInValue cs)
  | bound + 1, .value, opened, cs =>
    match skipSpace cs with
    | [] => .error (.after .endInValue [])
    | c :: rest => do
      let behind (rest : List Char) : Except Failure (List Char) :=
        skipOn bound (.inside true) opened rest
      if c = 'n' then behind (← readWord ['u', 'l', 'l'] rest)
      else if c = 't' then behind (← readWord ['r', 'u', 'e'] rest)
      else if c = 'f' then behind (← readWord ['a', 'l', 's', 'e'] rest)
      else if c = '-' then behind (← skipNumber rest)
      else if c.isDigit then behind (← skipNumber (c :: rest))
      else if c = '"' then behind (← skipString rest)
      else if c = '[' then skipOn bound (.inside false) (.list :: opened) rest
      else if c = '\x7b' then skipOn bound (.inside false) (.object :: opened) rest
      else .error (.at .expectedValue (c :: rest))
  | _ + 1, .inside _, [], cs => .ok cs
  | bound + 1, .inside behindMember, container :: outer, cs =>
    match skipSpace cs with
    | [] => .error (.after container.endInside [])
    | c :: rest => do
      let member (cs : List Char) : Except Failure (List Char) := do
        let cs ← if container = .object then skipName cs else .ok cs
        skipOn bound .value (container :: outer) cs
      if c = container.close then skipOn bound (.inside true) outer rest
      else if !behindMember then member (c :: rest)
      else if c = ',' then member rest
      else .error (.at container.expectedComma (c :: rest))

/-- Skips a value. -/
def skipValue (cs : List Char) : Except Failure (List Char) :=
  skipOn (2 * cs.length + 2) .value [] cs

end NewsAnalytics.Json
