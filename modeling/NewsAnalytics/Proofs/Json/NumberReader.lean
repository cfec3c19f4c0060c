import NewsAnalytics.Json.NumberReader
import NewsAnalytics.Json.Writer

/-!
# Integers read back

An integer is written in decimal, without leading zeros. Its digits are
taken one by one into a significand, which has room for them as long as
the number fits an unsigned machine word, and what ends the digits must not
go on as a fraction or an exponent. Behind a sign the reader has room for
one bit less, and no room for a zero.

## Main results

* `takeDigits_append` — digits that the significand has room for.
* `readNumber_toDigits_append` — a number read back.
-/

namespace NewsAnalytics.Json

/-! ## Behind a number -/

/-- The text does not go on with a number that stands before it. -/
def EndsNumber (cs : List Char) : Prop :=
  ∀ c ∈ cs.head?, c.isDigit = false ∧ c ≠ '.' ∧ c ≠ 'e' ∧ c ≠ 'E'

theorem endsNumber_nil : EndsNumber [] := by
  intro c hc
  cases hc

theorem endsNumber_cons {c : Char} (h : c.isDigit = false ∧ c ≠ '.' ∧ c ≠ 'e' ∧ c ≠ 'E')
    (cs : List Char) : EndsNumber (c :: cs) := by
  intro d hd
  obtain rfl := Option.some.inj hd
  exact h

theorem EndsNumber.startsWithDigit_eq_false {cs : List Char} (h : EndsNumber cs) :
    startsWithDigit cs = false := by
  cases cs with
  | nil => rfl
  | cons c rest => exact (h c rfl).1

/-- Without fraction and exponent the number is an integer. -/
theorem readNumberEnd_of_endsNumber {cs : List Char} (h : EndsNumber cs) (negative : Bool)
    (significand : Nat) :
    readNumberEnd negative significand cs = .ok (finishInteger negative significand, cs) := by
  unfold readNumberEnd
  split
  · exact absurd rfl (h _ rfl).2.1
  · exact absurd rfl (h _ rfl).2.2.1
  · exact absurd rfl (h _ rfl).2.2.2
  · rfl

/-! ## Digits -/

/-- Further digits do not make a number smaller. -/
theorem le_ofDigitChars (cs : List Char) (init : Nat) : init ≤ Nat.ofDigitChars 10 cs init := by
  induction cs generalizing init with
  | nil => exact Nat.le_of_eq Nat.ofDigitChars_nil.symm
  | cons c cs ih =>
      rw [Nat.ofDigitChars_cons]
      have hNext := ih (10 * init + (c.toNat - '0'.toNat))
      omega

/-- Digits that the significand has room for are taken. -/
theorem takeDigits_append {digits rest : List Char} (hDigits : ∀ c ∈ digits, c.isDigit = true)
    (hRest : startsWithDigit rest = false) {significand : Nat}
    (hRoom : Nat.ofDigitChars 10 digits significand ≤ maxSignificand) (taken : Nat) :
    takeDigits significand taken (digits ++ rest) =
      (Nat.ofDigitChars 10 digits significand, taken + digits.length, rest) := by
  induction digits generalizing significand taken with
  | nil =>
      cases rest with
      | nil => rfl
      | cons c rest =>
          have hDigit : c.isDigit = false := hRest
          simp [takeDigits, hDigit, Nat.ofDigitChars_nil]
  | cons c digits ih =>
      have hDigit : c.isDigit = true := hDigits c (by simp)
      have hNext : 10 * significand + (c.toNat - '0'.toNat) = significand * 10 + digitValue c := by
        rw [Nat.mul_comm]
        rfl
      rw [Nat.ofDigitChars_cons, hNext] at hRoom ⊢
      have hFits : significand * 10 + digitValue c ≤ maxSignificand :=
        Nat.le_trans (le_ofDigitChars digits _) hRoom
      rw [List.cons_append, takeDigits, if_pos (by simp [hDigit, hFits]),
        ih (fun d hd => hDigits d (by simp [hd])) hRoom]
      simp only [List.length_cons, Prod.mk.injEq, true_and, and_true]
      omega

/-- A number in decimal begins with a digit. -/
theorem exists_cons_toDigits (n : Nat) :
    ∃ c digits, Nat.toDigits 10 n = c :: digits ∧ c.isDigit = true ∧
      ∀ d ∈ digits, d.isDigit = true := by
  obtain ⟨c, digits, hCons⟩ := List.exists_cons_of_ne_nil (Nat.toDigits_ne_nil (b := 10) (n := n))
  have hDigits : ∀ d ∈ c :: digits, d.isDigit = true := by
    rw [← hCons]
    exact fun d hd => Nat.isDigit_of_mem_toDigits (by decide) (by decide) hd
  exact ⟨c, digits, hCons, List.forall_mem_cons.1 hDigits⟩

/-- The first digit of a number that is not zero is not zero. -/
theorem head?_toDigits_ne {n : Nat} (hPos : 0 < n) : (Nat.toDigits 10 n).head? ≠ some '0' := by
  induction n using Nat.strongRecOn with
  | ind n ih =>
      by_cases hLt : n < 10
      · rw [Nat.toDigits_of_lt_base hLt]
        simp only [List.head?_cons, ne_eq, Option.some.injEq, Nat.digitChar_eq_zero]
        omega
      · have hHead := ih (n / 10) (by omega) (by omega)
        rw [Nat.toDigits_of_base_le (by decide) (by omega), List.head?_append]
        cases hDigits : (Nat.toDigits 10 (n / 10)).head? with
        | none => exact absurd (List.head?_eq_none_iff.1 hDigits) Nat.toDigits_ne_nil
        | some d =>
            rw [hDigits] at hHead
            exact hHead

/-! ## Numbers -/

/-- A number in decimal is read back if the significand has room for it. -/
theorem readNumber_toDigits_append {n : Nat} (hRoom : n ≤ maxSignificand) (negative : Bool)
    {rest : List Char} (hRest : EndsNumber rest) :
    readNumber negative (Nat.toDigits 10 n ++ rest) = .ok (finishInteger negative n, rest) := by
  have hNoDigit := hRest.startsWithDigit_eq_false
  rcases Nat.eq_zero_or_pos n with rfl | hPos
  · rw [Nat.toDigits_zero, List.singleton_append, readNumber, if_pos rfl, hNoDigit]
    exact readNumberEnd_of_endsNumber hRest negative 0
  · have hHead := head?_toDigits_ne hPos
    have hValue : Nat.ofDigitChars 10 (Nat.toDigits 10 n) 0 = n := Nat.ofDigitChars_ten_toDigits
    obtain ⟨c, digits, hCons, hDigit, hDigits⟩ := exists_cons_toDigits n
    rw [hCons] at hHead hValue ⊢
    have hFirst : c ≠ '0' := fun h => hHead (by rw [h]; rfl)
    have hFold : Nat.ofDigitChars 10 digits (digitValue c) = n := by
      rw [Nat.ofDigitChars_cons, Nat.mul_zero, Nat.zero_add] at hValue
      exact hValue
    rw [List.cons_append, readNumber, if_neg hFirst, if_pos hDigit,
      takeDigits_append hDigits hNoDigit (by omega)]
    simp only [hFold, hNoDigit]
    exact readNumberEnd_of_endsNumber hRest negative n

end NewsAnalytics.Json
