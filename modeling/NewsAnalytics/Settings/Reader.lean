import NewsAnalytics.Json.Skip
import NewsAnalytics.Settings.Basic

/-!
# Reading settings from JSON

Settings are an object with any of three fields, or a list of their values
in order. A field that is missing or null is not set. Other fields are
skipped; a field that occurs twice is an error.

A value of the wrong kind is reported behind it if it is a scalar and
before it if it is a container.

## Main definitions

* `Settings.read` — the settings of a text.
-/

namespace NewsAnalytics.Settings

open Json

/-! ## Typed values -/

/-- The failure of a value that is not of the wanted kind. -/
def wrongKind (wanted : String) (cs : List Char) : Failure :=
  let found (value : Found) (rest : List Char) : Failure :=
    .after (.wrongKind value wanted) rest
  let number (negative : Bool) (cs : List Char) : Failure :=
    match readNumber negative cs with
    | .ok (n, rest) => found (.num n) rest
    | .error e => e
  let word (letters : List Char) (value : Found) (rest : List Char) : Failure :=
    match readWord letters rest with
    | .ok rest => found value rest
    | .error e => e
  match cs with
  | [] => .after .expectedValue []
  | c :: rest =>
    if c = 'n' then word ['u', 'l', 'l'] .null rest
    else if c = 't' then word ['r', 'u', 'e'] (.bool true) rest
    else if c = 'f' then word ['a', 'l', 's', 'e'] (.bool false) rest
    else if c = '-' then number true rest
    else if c.isDigit then number false (c :: rest)
    else if c = '"' then
      match readString rest with
      | .ok (s, rest) => found (.str (String.ofList s)) rest
      | .error e => e
    else if c = '[' then found .list (c :: rest)
    else if c = '\x7b' then found .object (c :: rest)
    else .at .expectedValue (c :: rest)

/-- Reads a text. -/
def readText : Reader String := fun cs =>
  match skipSpace cs with
  | [] => .error (.after .endInValue [])
  | '"' :: rest => do
    let (s, rest) ← readString rest
    return (String.ofList s, rest)
  | rest => .error (wrongKind "a string" rest)

/-- A number of seconds, from a number that has been read. -/
def secondsOf (n : Number) (rest : List Char) : Except Failure (UInt64 × List Char) :=
  match n with
  | .int i =>
    if i < 0 then .error (.after (.wrongValue i "u64") rest)
    else .ok (UInt64.ofNat i.toNat, rest)
  | .float x => .error (.after (.wrongKind (.num (.float x)) "u64") rest)

/-- Reads a number of seconds. -/
def readSeconds : Reader UInt64 := fun cs =>
  match skipSpace cs with
  | [] => .error (.after .endInValue [])
  | '-' :: rest => do
    let (n, rest) ← readNumber true rest
    secondsOf n rest
  | c :: rest =>
    if c.isDigit then do
      let (n, rest) ← readNumber false (c :: rest)
      secondsOf n rest
    else .error (wrongKind "u64" (c :: rest))

/-- Reads a value that may be null. -/
def readOptional {α : Type} (reader : Reader α) : Reader (Option α) := fun cs =>
  match skipSpace cs with
  | 'n' :: rest => do return (none, ← readWord ['u', 'l', 'l'] rest)
  | _ => do
    let (value, rest) ← reader cs
    return (some value, rest)

/-! ## Lists -/

/-- The end of a list whose three values have been read. -/
def readListEnd (cs : List Char) : Except Failure (List Char) :=
  match skipSpace cs with
  | [] => .error (.after .endInList [])
  | ']' :: rest => .ok rest
  | ',' :: rest =>
    match skipSpace rest with
    | ']' :: rest => .error (.at .trailingComma (']' :: rest))
    | rest => .error (.at .trailingCharacters rest)
  | rest => .error (.at .trailingCharacters rest)

/-- Reads settings as a list of values, behind its bracket. -/
def readList (cs : List Char) : Except Failure (Settings × List Char) := do
  let (more, rest) ← nextItem true cs
  if !more then return ({}, rest)
  let (baseUrl, rest) ← readOptional readText rest
  let (more, rest) ← nextItem false rest
  if !more then return ({ baseUrl }, rest)
  let (timeoutSecs, rest) ← readOptional readSeconds rest
  let (more, rest) ← nextItem false rest
  if !more then return ({ baseUrl, timeoutSecs }, rest)
  let (userAgent, rest) ← readOptional readText rest
  return ({ baseUrl, timeoutSecs, userAgent }, ← readListEnd rest)

/-! ## Objects -/

/-- The fields that have been read. The outer option says whether the field
occurred, the inner one whether it was set. -/
structure Draft where
  baseUrl : Option (Option String) := none
  timeoutSecs : Option (Option UInt64) := none
  userAgent : Option (Option String) := none

/-- The settings of the fields that have been read. -/
def Draft.finish (d : Draft) : Settings :=
  { baseUrl := d.baseUrl.join, timeoutSecs := d.timeoutSecs.join,
    userAgent := d.userAgent.join }

/-- The failure of a repeated field. It lies behind the name and the white
space that follows, and behind a brace that closes the object there. -/
def repeated (name : String) (cs : List Char) : Failure :=
  match skipSpace cs with
  | '\x7d' :: rest => .after (.repeatedField name) rest
  | rest => .after (.repeatedField name) rest

/-- Reads the value of a field that must not have occurred before. -/
def readOnce {α : Type} (name : String) (earlier : Option (Option α)) (reader : Reader α)
    (cs : List Char) : Except Failure (Option (Option α) × List Char) :=
  if earlier.isSome then .error (repeated name cs)
  else do
    let (value, rest) ← readOptional reader (← readColon cs)
    return (some value, rest)

/-- Reads the value of the field `name` into a draft. -/
def readField (name : String) (d : Draft) (cs : List Char) :
    Except Failure (Draft × List Char) := do
  if name = "base_url" then
    let (baseUrl, rest) ← readOnce name d.baseUrl readText cs
    return ({ d with baseUrl }, rest)
  else if name = "timeout_secs" then
    let (timeoutSecs, rest) ← readOnce name d.timeoutSecs readSeconds cs
    return ({ d with timeoutSecs }, rest)
  else if name = "user_agent" then
    let (userAgent, rest) ← readOnce name d.userAgent readText cs
    return ({ d with userAgent }, rest)
  else return (d, ← skipValue (← readColon cs))

/-- Reads the fields of an object into a draft, at most `bound` of them. -/
def readObject : Nat → Bool → Draft → List Char → Except Failure (Settings × List Char)
  | 0, _, _, cs => .error (.after .endInObject cs)
  | bound + 1, isFirst, d, cs => do
    match ← nextName isFirst cs with
    | (none, rest) => return (d.finish, rest)
    | (some name, rest) =>
      let (d, rest) ← readField name d rest
      readObject bound false d rest

/-! ## Settings -/

/-- Reads settings. -/
def reader : Reader Settings := fun cs =>
  match skipSpace cs with
  | [] => .error (.after .endInValue [])
  | '[' :: rest => readList rest
  | '\x7b' :: rest => readObject (rest.length + 1) true {} rest
  | rest => .error (wrongKind "struct ClientConfig" rest)

/-- The settings of a text. -/
def read (text : String) : Except Json.Error Settings := run reader text

end NewsAnalytics.Settings
