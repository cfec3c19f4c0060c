import NewsAnalytics.Json.Failure

/-!
# Reading JSON numbers

A number is read digit by digit into a significand of at most sixty-four
bits and a power of ten. When the significand is full, further digits of
the integer part only raise the exponent, and further digits of the
fraction are ignored. A number without fraction and exponent stays an
integer if it fits a machine word; `-0` does not, since it is not the same
number as `0`.

A float is the significand, rounded to a float, times or divided by a
power of ten that is itself rounded: up to three roundings, and so not
always the nearest float to the decimal. A quotient below the range of
floats is zero; a product above it is an error.

## Main definitions

* `readNumber` — an unsigned number, with the sign given.
* `scale` — a significand times a power of ten.
-/

namespace NewsAnalytics.Json

/-! ## Powers of ten -/

/-- The largest exponent of a power of ten that a float holds. -/
def maxPower : Nat := 308

/-- The float nearest to `10 ^ k`. -/
def powerOfTen (k : Nat) : Float := Float.ofScientific 1 false k

/-- `x · 10 ^ e`, or nothing when it is too large. A very small power of
ten is divided off in steps, until the value vanishes. -/
def scale (x : Float) (e : Int) : Option Float :=
  if e.natAbs ≤ maxPower then
    if 0 ≤ e then
      let y := x * powerOfTen e.natAbs
      if y.isInf then none else some y
    else some (x / powerOfTen e.natAbs)
  else if x == 0.0 then some x
  else if 0 ≤ e then none
  else scale (x / powerOfTen maxPower) (e + maxPower)
termination_by (-e).toNat
decreasing_by simp only [maxPower] at *; omega

/-! ## Digits -/

/-- The largest significand, that of an unsigned machine word. -/
def maxSignificand : Nat := UInt64.size - 1

/-- The value of a digit. -/
def digitValue (c : Char) : Nat := c.toNat - '0'.toNat

/-- Takes digits into a significand as long as it has room. Gives the
significand, the number of digits taken, and what is left. -/
def takeDigits (significand taken : Nat) : List Char → Nat × Nat × List Char
  | [] => (significand, taken, [])
  | c :: rest =>
    let next := significand * 10 + digitValue c
    if c.isDigit && next ≤ maxSignificand then takeDigits next (taken + 1) rest
    else (significand, taken, c :: rest)

/-- The first character is a digit. -/
def startsWithDigit : List Char → Bool
  | c :: _ => c.isDigit
  | [] => false

/-- The largest exponent that is counted. -/
def maxExponent : Nat := 2147483647

/-- Takes the digits of an exponent. Gives the exponent, or nothing when it
is too large to count, and what is left behind the digit that shows it. -/
def takeExponent (exponent : Nat) : List Char → Option Nat × List Char
  | [] => (some exponent, [])
  | c :: rest =>
    if c.isDigit then
      let next := exponent * 10 + digitValue c
      if next ≤ maxExponent then takeExponent next rest else (none, rest)
    else (some exponent, c :: rest)

/-! ## Numbers -/

/-- A float of the given sign. -/
def signed (negative : Bool) (x : Float) : Float := if negative then -x else x

/-- The float `± significand · 10 ^ exponent`, with `rest` left. -/
def finishFloat (negative : Bool) (significand : Nat) (exponent : Int)
    (rest : List Char) : Except Failure (Number × List Char) :=
  match scale significand.toUInt64.toFloat exponent with
  | some x => .ok (.float (signed negative x), rest)
  | none => .error (.after .numberOutOfRange rest)

/-- The size of the smallest integer of a signed machine word. -/
def maxNegative : Nat := 9223372036854775808

/-- The number when neither fraction nor exponent follows. -/
def finishInteger (negative : Bool) (significand : Nat) : Number :=
  if !negative then .int significand
  else if significand = 0 ∨ maxNegative < significand then
    .float (-significand.toUInt64.toFloat)
  else .int (-significand)

/-- Reads on behind the exponent mark. -/
def readExponent (negative : Bool) (significand : Nat) (exponent : Int)
    (cs : List Char) : Except Failure (Number × List Char) :=
  let (down, digits) := match cs with
    | '+' :: rest => (false, rest)
    | '-' :: rest => (true, rest)
    | rest => (false, rest)
  match digits with
  | [] => .error (.after .endInValue [])
  | c :: rest =>
    if !c.isDigit then .error (.at .invalidNumber digits)
    else match takeExponent (digitValue c) rest with
      | (some e, rest) =>
        finishFloat negative significand (if down then exponent - e else exponent + e) rest
      | (none, rest) =>
        if significand ≠ 0 ∧ !down then .error (.after .numberOutOfRange rest)
        else .ok (.float (signed negative 0.0), rest.dropWhile Char.isDigit)

/-- Reads on behind the digits of a float: an exponent may follow. -/
def readFloatEnd (negative : Bool) (significand : Nat) (exponent : Int)
    (cs : List Char) : Except Failure (Number × List Char) :=
  match cs with
  | 'e' :: rest | 'E' :: rest => readExponent negative significand exponent rest
  | rest => finishFloat negative significand exponent rest

/-- Reads on behind the point. -/
def readFraction (negative : Bool) (significand : Nat) (exponent : Int)
    (cs : List Char) : Except Failure (Number × List Char) :=
  let (significand, taken, rest) := takeDigits significand 0 cs
  if startsWithDigit rest then
    readFloatEnd negative significand (exponent - taken) (rest.dropWhile Char.isDigit)
  else if taken = 0 then
    match rest with
    | [] => .error (.after .endInValue [])
    | _ => .error (.at .invalidNumber rest)
  else readFloatEnd negative significand (exponent - taken) rest

/-- Reads on behind an integer part that fits the significand. -/
def readNumberEnd (negative : Bool) (significand : Nat)
    (cs : List Char) : Except Failure (Number × List Char) :=
  match cs with
  | '.' :: rest => readFraction negative significand 0 rest
  | 'e' :: rest | 'E' :: rest => readExponent negative significand 0 rest
  | rest => .ok (finishInteger negative significand, rest)

/-- Reads on in an integer part whose further digits do not fit. -/
def readLongNumber (negative : Bool) (significand : Nat)
    (cs : List Char) : Except Failure (Number × List Char) :=
  let exponent := (cs.takeWhile Char.isDigit).length
  match cs.dropWhile Char.isDigit with
  | '.' :: rest => readFraction negative significand exponent rest
  | rest => readFloatEnd negative significand exponent rest

/-- Reads a number whose sign has been read. A zero stands alone before the
point. -/
def readNumber (negative : Bool) : Reader Number
  | [] => .error (.after .endInValue [])
  | c :: cs =>
    if c = '0' then
      if startsWithDigit cs then .error (.at .invalidNumber cs)
      else readNumberEnd negative 0 cs
    else if c.isDigit then
      let (significand, _, rest) := takeDigits (digitValue c) 0 cs
      if startsWithDigit rest then readLongNumber negative significand rest
      else readNumberEnd negative significand rest
    else .error (.at .invalidNumber (c :: cs))

end NewsAnalytics.Json
