import NewsAnalytics.Json.NumberReader
import NewsAnalytics.Json.StringReader

/-!
# Reading JSON values

The reader is a recursion on the depth that is still allowed. A container
takes one level, and what it holds is read with the rest; the loop over
its members is bounded by the length of the text. A repeated name keeps
the last value.

The wording of a failure depends on what the reader waits for. Behind an
opening bracket or an item the input may end *in the list*; behind a comma
it ends *in a value*. A bracket behind a comma is a trailing comma.

## Main definitions

* `readValue` — a value, with what is left.
* `read` — the value of a whole text.
-/

namespace NewsAnalytics.Json

/-! ## Pieces -/

/-- The four characters of white space in JSON. -/
def isSpace (c : Char) : Bool := c = ' ' || c = '\n' || c = '\t' || c = '\r'

/-- Drops white space. -/
def skipSpace (cs : List Char) : List Char := cs.dropWhile isSpace

/-- Reads the letters of a word whose first letter has been read. -/
def readWord : List Char → List Char → Except Failure (List Char)
  | [], cs => .ok cs
  | _ :: _, [] => .error (.after .endInValue [])
  | w :: word, c :: cs =>
    if c = w then readWord word cs else .error (.at .expectedWord (c :: cs))

/-- Reads a colon behind a name. -/
def readColon (cs : List Char) : Except Failure (List Char) :=
  match skipSpace cs with
  | [] => .error (.after .endInObject [])
  | ':' :: rest => .ok rest
  | rest => .error (.at .expectedColon rest)

/-- Whether another item of the list follows. The comma before it, or the
bracket at the end, is taken. -/
def nextItem (isFirst : Bool) (cs : List Char) : Except Failure (Bool × List Char) :=
  match skipSpace cs with
  | [] => .error (.after .endInList [])
  | ']' :: rest => .ok (false, rest)
  | c :: rest =>
    if isFirst then .ok (true, c :: rest)
    else if c = ',' then
      match skipSpace rest with
      | [] => .error (.after .endInValue [])
      | ']' :: rest => .error (.at .trailingComma (']' :: rest))
      | rest => .ok (true, rest)
    else .error (.at .expectedCommaOrBracket (c :: rest))

/-- Finds the next name of an object and reads it, or nothing at the end.
The brace at the end is taken. -/
def nextName (isFirst : Bool) (cs : List Char) :
    Except Failure (Option String × List Char) :=
  let name (rest : List Char) : Except Failure (Option String × List Char) :=
    match readString rest with
    | .error e => .error e
    | .ok (s, rest) => .ok (some (String.ofList s), rest)
  match skipSpace cs with
  | [] => .error (.after .endInObject [])
  | '\x7d' :: rest => .ok (none, rest)
  | c :: rest =>
    if isFirst then
      if c = '"' then name rest else .error (.at .nameNotString (c :: rest))
    else if c = ',' then
      match skipSpace rest with
      | [] => .error (.after .endInValue [])
      | '"' :: rest => name rest
      | '\x7d' :: rest => .error (.at .trailingComma ('\x7d' :: rest))
      | rest => .error (.at .nameNotString rest)
    else .error (.at .expectedCommaOrBrace (c :: rest))

/-! ## Containers -/

/-- Reads the items of a list and its closing bracket, at most `bound` of
them. -/
def readItems (item : Reader Json) : Nat → Bool → List Char →
    Except Failure (List Json × List Char)
  | 0, _, cs => .error (.after .endInList cs)
  | bound + 1, isFirst, cs => do
    match ← nextItem isFirst cs with
    | (false, rest) => .ok ([], rest)
    | (true, rest) =>
      let (value, rest) ← item rest
      let (values, rest) ← readItems item bound false rest
      .ok (value :: values, rest)

/-- Reads the fields of an object and its closing brace, at most `bound` of
them. -/
def readFields (item : Reader Json) : Nat → Bool → List Char →
    Except Failure (List (String × Json) × List Char)
  | 0, _, cs => .error (.after .endInObject cs)
  | bound + 1, isFirst, cs => do
    match ← nextName isFirst cs with
    | (none, rest) => .ok ([], rest)
    | (some name, rest) =>
      let rest ← readColon rest
      let (value, rest) ← item rest
      let (fields, rest) ← readFields item bound false rest
      .ok ((name, value) :: fields, rest)

/-! ## Values -/

/-- The number of levels in which a container can stand. -/
def maxDepth : Nat := 128

/-- Reads a value with `depth` levels allowed. The last level holds no
container. -/
def readValue : Nat → Reader Json
  | 0, cs => .error (.at .tooDeep cs)
  | depth + 1, cs =>
    match skipSpace cs with
    | [] => .error (.after .endInValue [])
    | c :: rest =>
      if c = 'n' then do return (.null, ← readWord ['u', 'l', 'l'] rest)
      else if c = 't' then do return (.bool true, ← readWord ['r', 'u', 'e'] rest)
      else if c = 'f' then do return (.bool false, ← readWord ['a', 'l', 's', 'e'] rest)
      else if c = '-' then do
        let (n, rest) ← readNumber true rest
        return (.num n, rest)
      else if c.isDigit then do
        let (n, rest) ← readNumber false (c :: rest)
        return (.num n, rest)
      else if c = '"' then do
        let (s, rest) ← readString rest
        return (.str (String.ofList s), rest)
      else if c = '[' then
        if depth = 0 then .error (.at .tooDeep (c :: rest))
        else do
          let (items, rest) ← readItems (readValue depth) (rest.length + 1) true rest
          return (.arr items, rest)
      else if c = '\x7b' then
        if depth = 0 then .error (.at .tooDeep (c :: rest))
        else do
          let (fields, rest) ← readFields (readValue depth) (rest.length + 1) true rest
          return (.obj (Fields.ofEntries fields), rest)
      else .error (.at .expectedValue (c :: rest))

/-- Only white space may stand behind the value of a text. -/
def atEnd (cs : List Char) : Except Failure Unit :=
  match skipSpace cs with
  | [] => .ok ()
  | rest => .error (.at .trailingCharacters rest)

/-- Runs a reader on a whole text. -/
def run {α : Type} (reader : Reader α) (text : String) : Except Error α :=
  let cs := text.toList
  let result : Except Failure α := do
    let (value, rest) ← reader cs
    atEnd rest
    return value
  result.mapError (·.locate cs)

/-- The value of a text. -/
def read (text : String) : Except Error Json := run (readValue maxDepth) text

end NewsAnalytics.Json
