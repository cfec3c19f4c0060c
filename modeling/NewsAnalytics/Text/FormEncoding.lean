import NewsAnalytics.Text.Percent
import NewsAnalytics.Text.Split

/-!
# Form encoding

The `application/x-www-form-urlencoded` format: letters, digits and
`* - . _` stand for themselves, a space is `+`, and every other byte of the
UTF-8 text is `%` with two upper-case hexadecimal digits. Pairs are written
`key=value` and joined by `&`.

The format serves twice: for the query of a URL, and for the names that
become segments of a path. Reading undoes both.

## Main definitions

* `encode`, `encodePairs` — writing.
* `decode`, `decodePairs` — reading.
-/

namespace NewsAnalytics.Text.FormEncoding

/-! ## Writing -/

/-- Bytes that stand for themselves. -/
def isKept (b : UInt8) : Bool :=
  (0x30 ≤ b && b ≤ 0x39) || (0x41 ≤ b && b ≤ 0x5A) || (0x61 ≤ b && b ≤ 0x7A)
    || b == 0x2A || b == 0x2D || b == 0x2E || b == 0x5F

/-- The written form of one byte. -/
def encodeByte (b : UInt8) : List Char :=
  if isKept b then [Char.ofNat b.toNat]
  else if b == 0x20 then ['+']
  else Percent.escapeByte b

/-- The written form of a text. -/
def encode (s : String) : String :=
  String.ofList ((Utf8.encode s.toList).flatMap encodeByte)

/-- The written form of one pair. -/
def encodePair (pair : String × String) : String :=
  encode pair.1 ++ "=" ++ encode pair.2

/-- The written form of a list of pairs. -/
def encodePairs (pairs : List (String × String)) : String :=
  "&".intercalate (pairs.map encodePair)

/-! ## Reading -/

/-- A plus sign is read as a space; one that is meant is escaped. -/
def plusToSpace (c : Char) : Char := if c = '+' then ' ' else c

/-- The bytes that a written text stands for. -/
def decodeBytes (cs : List Char) : List UInt8 := Percent.decode (cs.map plusToSpace)

/-- The text that a written text stands for. -/
def decode (s : String) : String :=
  String.ofList (Utf8.decode (decodeBytes s.toList))

/-- A written pair, cut at its first `=`; without one the value is empty. -/
def decodePair (cs : List Char) : String × String :=
  (decode (String.ofList (cs.takeWhile (· != '='))),
   decode (String.ofList ((cs.dropWhile (· != '=')).drop 1)))

/-- The pairs that a written text stands for. Empty parts are skipped. -/
def decodePairs (s : String) : List (String × String) :=
  ((splitAt (· = '&') s.toList).filter (!·.isEmpty)).map decodePair

end NewsAnalytics.Text.FormEncoding
