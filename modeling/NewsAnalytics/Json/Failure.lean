import NewsAnalytics.Decimal.Shortest
import NewsAnalytics.Json.Value
import NewsAnalytics.Text.Quoted
import NewsAnalytics.Text.Utf8

/-!
# What can go wrong when JSON is read

A reader fails at a place of its input. While it works it knows only what
is left, so a `Failure` says how many bytes lie behind the place; once the
whole text is at hand this becomes a line and a column. A line ends with a
line feed, and a column counts the bytes of its line up to the place.

There are two kinds of place. A failure *after* a byte lies behind the
bytes read so far. A failure *at* a byte counts that byte too, so that its
column is the column of the offending byte; at the end of the input the
two agree.

## Main definitions

* `Problem`, `Problem.message` — the causes and their wording.
* `Failure.after`, `Failure.at` — the two kinds of place.
* `Error` — a cause with its line and column.
-/

namespace NewsAnalytics.Json

/-! ## Causes -/

/-- A value of the wrong kind, as a typed reader reports it. -/
inductive Found where
  | null
  | bool (value : Bool)
  | num (value : Number)
  | str (value : String)
  | list
  | object

/-- The causes of a failure. -/
inductive Problem where
  | endInList
  | endInObject
  | endInString
  | endInValue
  | expectedColon
  | expectedCommaOrBracket
  | expectedCommaOrBrace
  | expectedWord
  | expectedValue
  | invalidEscape
  | invalidNumber
  | numberOutOfRange
  | controlCharacter
  | nameNotString
  | loneSurrogate
  | endOfSurrogatePair
  | trailingComma
  | trailingCharacters
  | tooDeep
  | wrongKind (found : Found) (wanted : String)
  | wrongValue (value : Int) (wanted : String)
  | repeatedField (name : String)

/-- Floats are positional from `0.00001` up to sixteen digits before the
point; beyond that they have an exponent with its sign. -/
def floatLayout : Decimal.Layout :=
  { positionalFrom := -5, positionalTo := 15, signedExponent := true }

/-- A wrong value in words. -/
def Found.describe : Found → String
  | .null => "null"
  | .bool b => "boolean `" ++ (if b then "true" else "false") ++ "`"
  | .num (.int i) => "integer `" ++ toString i ++ "`"
  | .num (.float x) => "floating point `" ++ String.ofList (floatLayout.write x) ++ "`"
  | .str s => "string " ++ Text.quoted s
  | .list => "sequence"
  | .object => "map"

/-- The wording of a cause. -/
def Problem.message : Problem → String
  | .endInList => "EOF while parsing a list"
  | .endInObject => "EOF while parsing an object"
  | .endInString => "EOF while parsing a string"
  | .endInValue => "EOF while parsing a value"
  | .expectedColon => "expected `:`"
  | .expectedCommaOrBracket => "expected `,` or `]`"
  | .expectedCommaOrBrace => "expected `,` or `\x7d`"
  | .expectedWord => "expected ident"
  | .expectedValue => "expected value"
  | .invalidEscape => "invalid escape"
  | .invalidNumber => "invalid number"
  | .numberOutOfRange => "number out of range"
  | .controlCharacter => "control character (\\u0000-\\u001F) found while parsing a string"
  | .nameNotString => "key must be a string"
  | .loneSurrogate => "lone leading surrogate in hex escape"
  | .endOfSurrogatePair => "unexpected end of hex escape"
  | .trailingComma => "trailing comma"
  | .trailingCharacters => "trailing characters"
  | .tooDeep => "recursion limit exceeded"
  | .wrongKind found wanted => "invalid type: " ++ found.describe ++ ", expected " ++ wanted
  | .wrongValue value wanted =>
    "invalid value: integer `" ++ toString value ++ "`, expected " ++ wanted
  | .repeatedField name => "duplicate field `" ++ name ++ "`"

/-! ## Places -/

/-- A cause, and the number of bytes that lie behind its place. -/
structure Failure where
  problem : Problem
  left : Nat

/-- A failure behind the bytes read so far, when `rest` is left. -/
def Failure.after (problem : Problem) (rest : List Char) : Failure :=
  ⟨problem, Text.Utf8.size rest⟩

/-- A failure at the first byte of `rest`, or at the end if nothing is
left. -/
def Failure.at (problem : Problem) (rest : List Char) : Failure :=
  ⟨problem, Text.Utf8.size rest - 1⟩

/-- A reader takes a beginning of the text and gives its value and what is
left. -/
abbrev Reader (α : Type) := List Char → Except Failure (α × List Char)

/-- A line, counted from one, and the number of bytes before the place on
it. -/
structure Position where
  line : Nat
  column : Nat

/-- The position behind `count` bytes of a text, seen from `here`. -/
def Position.advance (here : Position) (count : Nat) : List Char → Position
  | [] => here
  | c :: rest =>
    if c.utf8Size ≤ count then
      let next : Position :=
        if c = '\n' then ⟨here.line + 1, 0⟩ else ⟨here.line, here.column + c.utf8Size⟩
      next.advance (count - c.utf8Size) rest
    else ⟨here.line, here.column + count⟩

/-- A cause with its place in the text. -/
structure Error where
  problem : Problem
  position : Position

/-- The place of a failure in the text that was read. -/
def Failure.locate (failure : Failure) (text : List Char) : Error :=
  { problem := failure.problem
    position := Position.advance ⟨1, 0⟩ (Text.Utf8.size text - failure.left) text }

/-- The wording of an error. -/
def Error.message (e : Error) : String :=
  e.problem.message ++ " at line " ++ toString e.position.line ++ " column "
    ++ toString e.position.column

end NewsAnalytics.Json
