import NewsAnalytics.Json.Failure
import NewsAnalytics.Text.Hex

/-!
# Writing JSON

The compact form: no white space, the fields of an object in their order.
A string escapes the quote, the backslash and the controls, five of them
by a letter and the others by a code unit in lower-case hexadecimal. A
float has the fewest digits that read back and always a point or an
exponent, so that it is never taken for an integer.
-/

namespace NewsAnalytics.Json

/-- One character inside a string. -/
def writeChar (c : Char) : List Char :=
  if c = '"' then ['\\', '"']
  else if c = '\\' then ['\\', '\\']
  else if c = '\x08' then ['\\', 'b']
  else if c = '\t' then ['\\', 't']
  else if c = '\n' then ['\\', 'n']
  else if c = '\x0c' then ['\\', 'f']
  else if c = '\r' then ['\\', 'r']
  else if c < ' ' then
    ['\\', 'u', '0', '0', Text.Hex.lower (c.toNat / 16), Text.Hex.lower (c.toNat % 16)]
  else [c]

/-- A string with its quotes. -/
def writeString (s : String) : List Char :=
  '"' :: s.toList.flatMap writeChar ++ ['"']

/-- The digits of an integer, with its sign. -/
def writeInteger : Int → List Char
  | .ofNat n => Nat.toDigits 10 n
  | .negSucc n => '-' :: Nat.toDigits 10 (n + 1)

/-- A number. A float that is no number has no form of its own. -/
def writeNumber : Number → List Char
  | .int i => writeInteger i
  | .float x => if x.isFinite then floatLayout.write x else ['n', 'u', 'l', 'l']

mutual

/-- The characters of a value. -/
def render : Json → List Char
  | .null => ['n', 'u', 'l', 'l']
  | .bool true => ['t', 'r', 'u', 'e']
  | .bool false => ['f', 'a', 'l', 's', 'e']
  | .num n => writeNumber n
  | .str s => writeString s
  | .arr items => '[' :: renderItems items
  | .obj fields => '\x7b' :: renderFields fields

/-- The items of a list and its closing bracket. -/
def renderItems : List Json → List Char
  | [] => [']']
  | value :: rest => render value ++ renderMoreItems rest

/-- The items behind the first one, each behind a comma. -/
def renderMoreItems : List Json → List Char
  | [] => [']']
  | value :: rest => ',' :: render value ++ renderMoreItems rest

/-- The fields of an object and its closing brace. -/
def renderFields : List (String × Json) → List Char
  | [] => ['\x7d']
  | (name, value) :: rest =>
    writeString name ++ ':' :: render value ++ renderMoreFields rest

/-- The fields behind the first one, each behind a comma. -/
def renderMoreFields : List (String × Json) → List Char
  | [] => ['\x7d']
  | (name, value) :: rest =>
    ',' :: writeString name ++ ':' :: render value ++ renderMoreFields rest

end

/-- The text of a value. -/
def write (value : Json) : String := String.ofList (render value)

end NewsAnalytics.Json
