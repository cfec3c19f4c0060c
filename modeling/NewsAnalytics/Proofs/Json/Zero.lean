import Mathlib
import NewsAnalytics.Json.Value

/-!
# Integers that are compared as floats

Whether a number is zero can be asked of the number itself or of the float
that is nearest to it. For an integer the two questions have the same
answer, however many digits rounding takes from it: an integer other than
zero has a first digit, and rounding keeps the first digit.

The float of an integer is found in two steps. The digits are shifted until
fifty-three are left, and rounded; and the result is packed into bits.
`round_cases` follows the first step and `unpackExponent_pack` the second,
as far as is needed to see that the exponent of the result is not the one
of zero.

## Main results

* `isZero_nearest` — an integer is zero iff the float nearest to it is.
* `isZero_float_iff` — the floats that are zero.
-/

namespace NewsAnalytics.Json

open Float.Model Float.Model.UnpackedFloat

/-- The float that is nearest to an integer; of two that are equally near,
the one whose last digit is even. -/
def nearest (i : Int) : Float := .ofModel (.ofInt i)

/-! ## Rounding -/

/-- The digits are as many as a float has room for. -/
def IsFull (mantissa : Nat) : Prop := 2 ^ 52 ≤ mantissa ∧ mantissa < 2 ^ 53

theorem mantissa_shiftRight (em : ExtendedMantissa) (n : Nat) :
    (em >>> n).mantissa = em.mantissa / 2 ^ n := by
  show (n.repeat ExtendedMantissa.shiftRightOne em).mantissa = _
  induction n with
  | zero => simp [Nat.repeat]
  | succ n ih => rw [Nat.repeat, ExtendedMantissa.shiftRightOne, ih, Nat.div_div_eq_div_mul,
      Nat.pow_succ]

theorem mantissa_ofMantissaAndAccuracy (mantissa : Nat) (accuracy : Accuracy) :
    (ExtendedMantissa.ofMantissaAndAccuracy mantissa accuracy).mantissa = mantissa := by
  rcases accuracy with _ | _ | _ | _ <;> rfl

theorem le_roundedMantissa (em : ExtendedMantissa) :
    em.mantissa ≤ em.roundedMantissa ∧ em.roundedMantissa ≤ em.mantissa + 1 := by
  unfold ExtendedMantissa.roundedMantissa
  rcases em.accuracy with _ | _ | _ | _ <;> simp [Accuracy.roundToNearestEven]
  omega

/-- Enough digits are shifted until just as many as fit are left. -/
theorem isFull_shiftToTargetExponent {mantissa : Nat} {exponent : Int}
    (hMantissa : 2 ^ 52 ≤ mantissa) (hExponent : -52 ≤ exponent) (accuracy : Accuracy) :
    IsFull (shiftToTargetExponent Format.binary64 mantissa exponent accuracy).1.mantissa ∧
      exponent ≤ (shiftToTargetExponent Format.binary64 mantissa exponent accuracy).2 := by
  have hNe : mantissa ≠ 0 := by omega
  have hLog : 52 ≤ mantissa.log2 := (Nat.le_log2 hNe).2 hMantissa
  have hTarget : Format.binary64.targetExponent (totalExponent mantissa exponent) =
      mantissa.log2 - 52 + exponent := by
    simp only [Format.targetExponent, totalExponent, Format.mantissaBits, Format.minExponent]
    omega
  have hShift : (mantissa.log2 - 52 + exponent - exponent).toNat = mantissa.log2 - 52 := by omega
  simp only [shiftToTargetExponent, shiftToExponent, hTarget, hShift, mantissa_shiftRight,
    mantissa_ofMantissaAndAccuracy]
  refine ⟨⟨?_, ?_⟩, by omega⟩
  · rw [Nat.le_div_iff_mul_le (Nat.two_pow_pos _), ← Nat.pow_add, Nat.add_sub_cancel' hLog]
    exact Nat.log2_self_le hNe
  · rw [Nat.div_lt_iff_lt_mul (Nat.two_pow_pos _), ← Nat.pow_add,
      show 53 + (mantissa.log2 - 52) = mantissa.log2 + 1 by omega]
    exact Nat.lt_log2_self

/-- Before rounding, an integer is given the digits that it lacks. -/
theorem decreaseExponent_spec {mantissa : Nat} (hPos : 0 < mantissa) :
    let target := Format.binary64.targetExponent (totalExponent mantissa 0)
    2 ^ 52 ≤ (decreaseExponent mantissa 0 target).1 ∧
      -52 ≤ (decreaseExponent mantissa 0 target).2 := by
  have hNe : mantissa ≠ 0 := by omega
  have hTarget : Format.binary64.targetExponent (totalExponent mantissa 0) =
      mantissa.log2 - 52 := by
    simp only [Format.targetExponent, totalExponent, Format.mantissaBits, Format.minExponent]
    omega
  have hShift : ((0 : Int) - (mantissa.log2 - 52)).toNat = 52 - mantissa.log2 := by omega
  simp only [hTarget, decreaseExponent, hShift]
  refine ⟨?_, by omega⟩
  calc 2 ^ 52 ≤ 2 ^ (mantissa.log2 + (52 - mantissa.log2)) :=
        Nat.pow_le_pow_right (by decide) (by omega)
    _ = 2 ^ mantissa.log2 * 2 ^ (52 - mantissa.log2) := Nat.pow_add ..
    _ ≤ mantissa * 2 ^ (52 - mantissa.log2) := Nat.mul_le_mul_right _ (Nat.log2_self_le hNe)
    _ = mantissa <<< (52 - mantissa.log2) := (Nat.shiftLeft_eq ..).symm

/-- An integer other than zero is rounded to a number with all its digits. -/
theorem round_cases (sign : Sign) {mantissa : Nat} (hPos : 0 < mantissa) :
    ∃ m e h, UnpackedFloat.round Format.binary64 sign mantissa 0 = .finite sign m e h ∧
      IsFull m ∧ -52 ≤ e := by
  obtain ⟨hDigits, hExponent⟩ := decreaseExponent_spec hPos
  simp only [UnpackedFloat.round, roundWithAccuracy]
  generalize decreaseExponent mantissa 0
    (Format.binary64.targetExponent (totalExponent mantissa 0)) = start at hDigits hExponent ⊢
  obtain ⟨hFull, hUp⟩ := isFull_shiftToTargetExponent hDigits hExponent .exact
  generalize shiftToTargetExponent Format.binary64 start.1 start.2 .exact = cut at hFull hUp ⊢
  -- rounding may carry into one more digit, which the second shift drops again
  have hRounded : 2 ^ 52 ≤ cut.1.roundedMantissa :=
    Nat.le_trans hFull.1 (le_roundedMantissa cut.1).1
  obtain ⟨hFull', hUp'⟩ := isFull_shiftToTargetExponent hRounded (Int.le_trans hExponent hUp) .exact
  generalize shiftToTargetExponent Format.binary64 cut.1.roundedMantissa cut.2 .exact = last
    at hFull' hUp' ⊢
  have hNe : last.1.mantissa ≠ 0 := by have := hFull'.1; omega
  rw [dif_neg hNe]
  exact ⟨_, _, _, rfl, hFull', by omega⟩

/-- The float of an integer other than zero is its rounded value. -/
theorem exists_round {i : Int} (hNe : i ≠ 0) :
    ∃ sign mantissa, 0 < mantissa ∧
      UnpackedFloat.ofInt Format.binary64 i =
        UnpackedFloat.round Format.binary64 sign mantissa 0 := by
  rcases Int.lt_or_gt_of_ne hNe with hNegative | hPositive
  · refine ⟨.negative, (-i).toNat, by omega, ?_⟩
    simp only [UnpackedFloat.ofInt, UnpackedFloat.normalize, compare_lt_iff_lt.2 hNegative]
  · refine ⟨.positive, i.toNat, by omega, ?_⟩
    simp only [UnpackedFloat.ofInt, UnpackedFloat.normalize, compare_gt_iff_gt.2 hPositive]

/-! ## Packing -/

/-- The exponent of a number with all its digits is not packed as the one of
zero. -/
theorem unpackExponent_pack {sign : Sign} {m : Nat} {e : Int} {h : 0 < m} (hFull : IsFull m)
    (hExponent : -52 ≤ e) :
    unpackExponent (UnpackedFloat.pack Format.binary64 (.finite sign m e h)) ≠ 0 := by
  have hLog : m.log2 = 52 := (Nat.log2_eq_iff (by omega)).2 hFull
  have hBiased : 0 < (e + Format.binary64.exponentBias + 52).toNat := by
    simp only [Format.exponentBias]
    omega
  simp only [UnpackedFloat.pack, packedInfinity]
  split
  · rw [unpackExponent_packComponents]
    decide
  · next hRange =>
      rw [if_pos (by simp [hLog, Format.mantissaBits]), unpackExponent_packComponents]
      intro hZero
      have hNat := congrArg BitVec.toNat hZero
      simp only [BitVec.toNat_ofNat] at hNat
      rw [Nat.mod_eq_of_lt (by omega)] at hNat
      simp at hNat
      omega

theorem unpack_ne_zero {bits : BitVec Format.binary64.numBits} (h : unpackExponent bits ≠ 0)
    (sign : Sign) : UnpackedFloat.unpack Format.binary64 bits ≠ .zero sign := by
  unfold UnpackedFloat.unpack
  simp only
  split
  · split <;> nofun
  · split
    · next hZero => exact absurd hZero h
    · nofun

/-! ## Zero -/

theorem beq_zero {x : UnpackedFloat} (h : ∀ sign, x ≠ .zero sign) (sign : Sign) :
    x.beq (.zero sign) = false := by
  cases x with
  | zero sign' => exact absurd rfl (h sign')
  | notANumber => rfl
  | infinity sign' => cases sign' <;> rfl
  | finite sign' m e hm => cases sign' <;> rfl

/-- A float is zero iff its parts are those of a zero. -/
theorem isZero_float (x : Float) :
    (Number.float x).isZero = x.toModel.unpack.beq (.zero .positive) := rfl

/-- An integer is zero iff the float nearest to it is. -/
theorem isZero_nearest (i : Int) : (Number.float (nearest i)).isZero = (Number.int i).isZero := by
  by_cases hZero : i = 0
  · subst hZero
    decide +kernel
  · obtain ⟨sign, mantissa, hPos, hInt⟩ := exists_round hZero
    obtain ⟨m, e, h, hRounded, hFull, hExponent⟩ := round_cases sign hPos
    have hParts : ∀ s, (nearest i).toModel.unpack ≠ .zero s := by
      show ∀ s, UnpackedFloat.unpack Format.binary64
        (UnpackedFloat.pack Format.binary64 (.ofInt Format.binary64 i)) ≠ .zero s
      rw [hInt, hRounded]
      exact unpack_ne_zero (unpackExponent_pack hFull hExponent)
    rw [isZero_float, beq_zero hParts]
    simp [Number.isZero, hZero]

/-- A float is known by its parts. -/
theorem eq_of_unpack_eq {x y : Float} (h : x.toModel.unpack = y.toModel.unpack) : x = y := by
  have hBits : x.toModel.toBits.toBitVec = y.toModel.toBits.toBitVec := by
    rw [← pack_unpack_of_valid x.toModel.valid, ← pack_unpack_of_valid y.toModel.valid]
    exact congrArg (UnpackedFloat.pack Format.binary64) h
  obtain ⟨⟨⟨bits⟩, hx⟩⟩ := x
  obtain ⟨⟨⟨others⟩, hy⟩⟩ := y
  cases hBits
  rfl

/-- Two floats are zero, one of each sign. -/
theorem isZero_float_iff (x : Float) :
    (Number.float x).isZero = true ↔ x = 0.0 ∨ x = -0.0 := by
  have hPositive : (0.0 : Float).toModel.unpack = .zero .positive := by rfl
  have hNegative : (-0.0 : Float).toModel.unpack = .zero .negative := by rfl
  constructor
  · intro h
    by_cases hParts : ∃ sign, x.toModel.unpack = .zero sign
    · obtain ⟨sign, hSign⟩ := hParts
      cases sign with
      | positive => exact .inl (eq_of_unpack_eq (hSign.trans hPositive.symm))
      | negative => exact .inr (eq_of_unpack_eq (hSign.trans hNegative.symm))
    · rw [isZero_float, beq_zero (not_exists.1 hParts)] at h
      cases h
  · rintro (rfl | rfl) <;> decide +kernel

end NewsAnalytics.Json
