import NewsAnalytics.Json.StringReader
import NewsAnalytics.Json.Writer

/-!
# Strings read back

A writer escapes what a string cannot hold as it stands: the quote, the
backslash and the controls. Reading takes each escape back to its
character, and leaves every other character alone, so a string that has
been written is read back whatever it holds and whatever stands behind it.

## Main results

* `readString_writeChar_append` — one written character.
* `readString_flatMap_writeChar` — a written string.
-/

namespace NewsAnalytics.Json

open Text

/-! ## Steps of the reader -/

/-- An escape is read before the rest of the string. -/
theorem readString_escape {cs rest tail : List Char} {c : Char} {s : List Char}
    (hEscape : readEscape cs = .ok (c, rest)) (hRest : readString rest = .ok (s, tail)) :
    readString ('\\' :: cs) = .ok (c :: s, tail) := by
  rw [readString, if_neg (by decide), if_pos rfl]
  split
  · next e hError => rw [hEscape] at hError; cases hError
  · next d rest' hOk =>
      rw [hEscape] at hOk
      obtain ⟨rfl, rfl⟩ := Prod.mk.inj (Except.ok.inj hOk)
      rw [hRest]

/-- A character that is no mark and no control stands for itself. -/
theorem readString_self {cs tail : List Char} {c : Char} {s : List Char}
    (hQuote : c ≠ '"') (hBackslash : c ≠ '\\') (hControl : ¬ c < ' ')
    (hRest : readString cs = .ok (s, tail)) : readString (c :: cs) = .ok (c :: s, tail) := by
  rw [readString, if_neg hQuote, if_neg hBackslash, if_neg hControl, hRest]

/-- An escape by letter. -/
theorem readEscape_short {c d : Char} (hUnit : c ≠ 'u') (hShort : shortEscape? c = some d)
    (cs : List Char) : readEscape (c :: cs) = .ok (d, cs) := by
  rw [readEscape, if_neg hUnit, hShort]

/-- An escape by code unit, of a control. -/
theorem readEscape_control {c : Char} (hControl : c < ' ') (cs : List Char) :
    readEscape ('u' :: '0' :: '0' :: Hex.lower (c.toNat / 16) :: Hex.lower (c.toNat % 16) :: cs) =
      .ok (c, cs) := by
  have hLt : c.toNat < 32 := by
    rw [Char.lt_def] at hControl
    exact hControl
  have hUnit : readUnit ('0' :: '0' :: Hex.lower (c.toNat / 16) :: Hex.lower (c.toNat % 16) :: cs) =
      .ok (c.toNat, cs) := by
    have hHigh := Hex.value?_lower (c.toNat / 16) (by omega)
    have hLow := Hex.value?_lower (c.toNat % 16) (by omega)
    have hZero : Hex.value? '0' = some 0 := by decide
    have hSum : ((0 * 16 + 0) * 16 + c.toNat / 16) * 16 + c.toNat % 16 = c.toNat := by omega
    simp only [readUnit, hZero, hHigh, hLow, hSum]
  rw [readEscape, if_pos rfl]
  simp only [readCodePoint, hUnit]
  rw [if_neg (by simp; omega), if_neg (by simp; omega), Char.ofNat_toNat]

/-! ## Written strings -/

/-- A written character is read back, and the rest of the string behind
it. -/
theorem readString_writeChar_append (c : Char) {cs s tail : List Char}
    (hRest : readString cs = .ok (s, tail)) :
    readString (writeChar c ++ cs) = .ok (c :: s, tail) := by
  have hLetter : ∀ letter : Char, letter ≠ 'u' → shortEscape? letter = some c →
      readString ('\\' :: letter :: cs) = .ok (c :: s, tail) := fun letter hUnit hShort =>
    readString_escape (readEscape_short hUnit hShort cs) hRest
  unfold writeChar
  split
  · next h =>
      subst h
      exact hLetter '"' (by decide) (by decide)
  split
  · next h =>
      subst h
      exact hLetter '\\' (by decide) (by decide)
  split
  · next h =>
      subst h
      exact hLetter 'b' (by decide) (by decide)
  split
  · next h =>
      subst h
      exact hLetter 't' (by decide) (by decide)
  split
  · next h =>
      subst h
      exact hLetter 'n' (by decide) (by decide)
  split
  · next h =>
      subst h
      exact hLetter 'f' (by decide) (by decide)
  split
  · next h =>
      subst h
      exact hLetter 'r' (by decide) (by decide)
  split
  · next hControl => exact readString_escape (readEscape_control hControl cs) hRest
  · next hQuote hBackslash _ _ _ _ _ hControl =>
      exact readString_self hQuote hBackslash hControl hRest

/-- A written string is read back up to its closing quote. -/
theorem readString_flatMap_writeChar (s tail : List Char) :
    readString (s.flatMap writeChar ++ '"' :: tail) = .ok (s, tail) := by
  induction s with
  | nil => simp [readString]
  | cons c s ih =>
      rw [List.flatMap_cons, List.append_assoc]
      exact readString_writeChar_append c ih

end NewsAnalytics.Json
