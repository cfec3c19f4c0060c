import NewsAnalytics.Text.Hex
import NewsAnalytics.Text.Utf8

/-!
# Percent encoding

A text that has to do without certain characters replaces each of them by
its UTF-8 bytes, `%` and two upper-case digits a byte, and leaves all other
characters — a `%` among them — as they are. Which characters are left out
is a parameter: each part of a URL has a set of its own.

## Main results

* `encode_eq_self` — a text without characters of the set stays as it is.
-/

namespace NewsAnalytics.Text.Percent

/-- `%` and the two digits of a byte. -/
def escapeByte (b : UInt8) : List Char :=
  ['%', Hex.upper (b.toNat / 16), Hex.upper (b.toNat % 16)]

/-- One character, encoded if it is in the set. -/
def encodeChar (set : Char → Bool) (c : Char) : List Char :=
  if set c then (String.utf8EncodeChar c).flatMap escapeByte else [c]

/-- A text without the characters of the set. -/
def encode (set : Char → Bool) (cs : List Char) : List Char :=
  cs.flatMap (encodeChar set)

/-- The bytes of a text, each escape being one byte. A `%` that two digits
do not follow stands for itself. -/
def decode : List Char → List UInt8
  | [] => []
  | '%' :: a :: b :: rest =>
    match Hex.value? a, Hex.value? b with
    | some x, some y => UInt8.ofNat (16 * x + y) :: decode rest
    | _, _ => 0x25 :: decode (a :: b :: rest)
  | c :: rest => String.utf8EncodeChar c ++ decode rest

/-- A text without characters of the set is its own encoding. -/
theorem encode_eq_self {set : Char → Bool} {cs : List Char}
    (h : ∀ c ∈ cs, set c = false) : encode set cs = cs := by
  induction cs with
  | nil => rfl
  | cons c rest ih =>
      have hc := h c (by simp)
      have hr := ih fun d hd => h d (by simp [hd])
      simp only [encode] at hr
      simp [encode, encodeChar, hc, hr]

end NewsAnalytics.Text.Percent
