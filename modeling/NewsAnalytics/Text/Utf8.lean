/-!
# UTF-8: bytes of a text, lenient reading, cuts

Writing uses core's encoder character by character. Reading is lenient: a
server may send anything, so ill-formed input is replaced and never
refused. The reader is a two-state machine — between characters, or inside
one with the range that its next byte must lie in — and each byte that
breaks a sequence is looked at again between characters. That gives the
*maximal subpart* rule: one replacement character for the longest
beginning of a well-formed sequence, one for every other stray byte.

`takeBytes` cuts a text to a number of bytes without splitting a
character, and `floorBoundary` finds the same place from the other side,
stepping back over continuation bytes.

## Main definitions

* `encode`, `size` — the bytes of a text and their number.
* `decode` — lenient reading.
* `floorBoundary`, `takeBytes` — character boundaries and cuts.
-/

namespace NewsAnalytics.Text.Utf8

/-! ## Writing -/

/-- The bytes of a text. -/
def encode (cs : List Char) : List UInt8 := cs.flatMap String.utf8EncodeChar

/-- The number of bytes of a text. -/
def size : List Char → Nat
  | [] => 0
  | c :: rest => c.utf8Size + size rest

/-! ## Reading -/

/-- What stands for an ill-formed sequence. -/
def replacement : Char := '\uFFFD'

/-- A sequence under way: the bits so far, the range of the next byte, and
how many continuation bytes follow that one. -/
structure Pending where
  bits : Nat
  low : UInt8
  high : UInt8
  after : Nat

/-- A byte between characters: the characters it completes, and the
sequence it opens. The narrowed ranges after `E0`, `ED`, `F0` and `F4` keep
out overlong forms, surrogates and values beyond the last code point. -/
def first (b : UInt8) : List Char × Option Pending :=
  if b < 0x80 then ([Char.ofNat b.toNat], none)
  else if b < 0xC2 then ([replacement], none)
  else if b < 0xE0 then ([], some ⟨b.toNat - 0xC0, 0x80, 0xBF, 0⟩)
  else if b < 0xF0 then
    let low := if b = 0xE0 then 0xA0 else 0x80
    let high := if b = 0xED then 0x9F else 0xBF
    ([], some ⟨b.toNat - 0xE0, low, high, 1⟩)
  else if b < 0xF5 then
    let low := if b = 0xF0 then 0x90 else 0x80
    let high := if b = 0xF4 then 0x8F else 0xBF
    ([], some ⟨b.toNat - 0xF0, low, high, 2⟩)
  else ([replacement], none)

/-- A byte in any state: the characters it completes, and the new state. -/
def step : Option Pending → UInt8 → List Char × Option Pending
  | none, b => first b
  | some p, b =>
    if p.low ≤ b && b ≤ p.high then
      let bits := p.bits * 64 + (b.toNat - 0x80)
      match p.after with
      | 0 => ([Char.ofNat bits], none)
      | n + 1 => ([], some ⟨bits, 0x80, 0xBF, n⟩)
    else
      let (cs, next) := first b
      (replacement :: cs, next)

/-- Reads on from a state. A sequence still open at the end is ill-formed. -/
def decodeFrom : Option Pending → List UInt8 → List Char
  | none, [] => []
  | some _, [] => [replacement]
  | state, b :: bytes =>
    let (cs, next) := step state b
    cs ++ decodeFrom next bytes

/-- The text that the bytes hold, ill-formed parts replaced. -/
def decode (bytes : List UInt8) : List Char := decodeFrom none bytes

/-! ## Boundaries and cuts -/

/-- Continuation bytes are those that never begin a character. -/
def isContinuation (b : UInt8) : Bool := 0x80 ≤ b && b ≤ 0xBF

/-- A position of well-formed bytes that lies between characters: the end,
or the first byte of one. -/
def isBoundary (bytes : List UInt8) (i : Nat) : Bool :=
  match bytes[i]? with
  | some b => !isContinuation b
  | none => i == bytes.length

/-- The last boundary at or below a position, found by stepping back. -/
def floorBoundary (bytes : List UInt8) : Nat → Nat
  | 0 => 0
  | i + 1 => if isBoundary bytes (i + 1) then i + 1 else floorBoundary bytes i

/-- The longest beginning of whole characters that fits in `budget` bytes. -/
def takeBytes (budget : Nat) : List Char → List Char
  | [] => []
  | c :: rest =>
    if c.utf8Size ≤ budget then c :: takeBytes (budget - c.utf8Size) rest else []

end NewsAnalytics.Text.Utf8
