/-!
# Hexadecimal digits

Reading takes digits of either case; a format that writes them says which
case it uses.

## Main results

* `value?_upper`, `value?_lower` — a written digit reads back.
-/

namespace NewsAnalytics.Text.Hex

/-- The value of a digit of either case. -/
def value? (c : Char) : Option Nat :=
  if '0' ≤ c && c ≤ '9' then some (c.toNat - '0'.toNat)
  else if 'A' ≤ c && c ≤ 'F' then some (c.toNat - 'A'.toNat + 10)
  else if 'a' ≤ c && c ≤ 'f' then some (c.toNat - 'a'.toNat + 10)
  else none

/-- The upper-case digit of a value below sixteen. -/
def upper (n : Nat) : Char :=
  if n < 10 then Char.ofNat ('0'.toNat + n) else Char.ofNat ('A'.toNat + (n - 10))

/-- The lower-case digit of a value below sixteen. -/
def lower (n : Nat) : Char :=
  if n < 10 then Char.ofNat ('0'.toNat + n) else Char.ofNat ('a'.toNat + (n - 10))

theorem value?_upper : ∀ n < 16, value? (upper n) = some n := by decide

theorem value?_lower : ∀ n < 16, value? (lower n) = some n := by decide

end NewsAnalytics.Text.Hex
