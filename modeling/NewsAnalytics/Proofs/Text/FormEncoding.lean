import Mathlib.Data.List.Basic
import NewsAnalytics.Proofs.Text.Utf8
import NewsAnalytics.Text.FormEncoding

/-!
# The alphabet of form encoding

A written text consists of letters, digits and the marks `* - . _ + %`.
The facts about single bytes and characters below range over 256 bytes or
128 characters and are checked one by one; everything else is an induction
over the bytes.

A percent sign is not just a character of the alphabet: it begins an escape,
so a written text comes apart into single characters and escapes.

Only a text of dots is written as dots: a dot stands for itself, and no
other byte is written with dots alone.

## Main results

* `isWritten_of_mem_encode` — the alphabet.
* `isFormText_encode` — single characters and escapes.
* `encode_eq_self_of_dots` — what is written as dots.
-/

namespace NewsAnalytics.Text.FormEncoding

/-- A character of a written text. -/
def isWritten (c : Char) : Bool := c.isAlphanum || "*-._+%".toList.contains c

/-! ## Characters -/

theorem toNat_lt_of_isWritten {c : Char} (h : isWritten c = true) : c.toNat < 128 := by
  simp only [isWritten, Bool.or_eq_true, List.contains_iff_mem] at h
  rcases h with h | h
  · delta Char.isAlphanum Char.isAlpha Char.isUpper Char.isLower Char.isDigit at h
    simp only [Bool.or_eq_true, Bool.and_eq_true, decide_eq_true_eq, ge_iff_le,
      UInt32.le_iff_toNat_le] at h
    have hNat : c.val.toNat = c.toNat := rfl
    have hUpper : 'Z'.val.toNat = 90 := rfl
    have hLower : 'z'.val.toNat = 122 := rfl
    have hDigit : '9'.val.toNat = 57 := rfl
    omega
  · have hAll : "*-._+%".toList.all (·.toNat < 128) = true := by decide
    simpa using List.all_eq_true.1 hAll c h

/-- What holds of the ASCII characters of the alphabet holds of the
alphabet. -/
theorem forall_isWritten {p : Char → Prop}
    (h : ∀ n < 128, isWritten (Char.ofNat n) = true → p (Char.ofNat n)) {c : Char}
    (hc : isWritten c = true) : p c := by
  have hChar := h c.toNat (toNat_lt_of_isWritten hc)
  rw [Char.ofNat_toNat] at hChar
  exact hChar hc

/-! ## Bytes -/

/-- What holds of 256 bytes holds of every byte. -/
theorem forall_byte {p : UInt8 → Prop} (h : ∀ n < 256, p (UInt8.ofNat n)) (b : UInt8) : p b := by
  have hByte := h b.toNat (UInt8.toNat_lt b)
  rwa [UInt8.ofNat_toNat] at hByte

theorem all_isWritten_encodeByte (b : UInt8) : (encodeByte b).all isWritten = true :=
  forall_byte (p := fun b => (encodeByte b).all isWritten = true) (by decide +kernel) b

theorem encodeByte_ne_nil (b : UInt8) : encodeByte b ≠ [] := by
  unfold encodeByte
  split
  · simp
  · split <;> simp [Percent.escapeByte]

/-- A byte is written with dots alone only if it is a dot. -/
theorem eq_dot_of_encodeByte {b : UInt8} (h : ∀ c ∈ encodeByte b, c = '.') : b = 0x2E := by
  have hAll : (encodeByte b).all (· == '.') = true := by simpa using h
  revert hAll
  exact forall_byte (p := fun b => (encodeByte b).all (· == '.') = true → b = 0x2E)
    (by decide +kernel) b

/-! ## Texts -/

/-- A written text consists of characters of the alphabet. -/
theorem isWritten_of_mem_encode {s : String} {c : Char} (hc : c ∈ (encode s).toList) :
    isWritten c = true := by
  rw [encode, String.toList_ofList] at hc
  obtain ⟨b, -, hMem⟩ := List.mem_flatMap.1 hc
  exact List.all_eq_true.1 (all_isWritten_encodeByte b) c hMem

/-- A digit, or a letter from `A` to `F`. -/
def isUpperHex (c : Char) : Bool := c.isDigit || ('A' ≤ c && c ≤ 'F')

/-- The text comes apart into escapes and characters that stand alone:
letters, digits, the marks `* - . _` and plus signs. -/
def isFormText : List Char → Bool
  | [] => true
  | '%' :: high :: low :: rest => isUpperHex high && isUpperHex low && isFormText rest
  | c :: rest => (c.isAlphanum || "*-._+".toList.contains c) && isFormText rest

theorem isFormText_cons {c : Char} (hc : (c.isAlphanum || "*-._+".toList.contains c) = true)
    (rest : List Char) : isFormText (c :: rest) = isFormText rest := by
  have hPercent : c ≠ '%' := by
    rintro rfl
    exact absurd hc (by decide)
  rw [isFormText, hc, Bool.true_and]
  rintro high low tail rfl
  exact absurd rfl hPercent

theorem isFormText_escapeByte_append (b : UInt8) (rest : List Char) :
    isFormText (Percent.escapeByte b ++ rest) = isFormText rest := by
  have hDigit : ∀ n < 16, isUpperHex (Hex.upper n) = true := by decide
  have hByte : b.toNat < 256 := b.toNat_lt
  simp only [Percent.escapeByte, List.cons_append, List.nil_append, isFormText,
    hDigit (b.toNat / 16) (by omega), hDigit (b.toNat % 16) (by omega), Bool.true_and]

theorem isFormText_encodeByte_append (b : UInt8) (rest : List Char) :
    isFormText (encodeByte b ++ rest) = isFormText rest := by
  unfold encodeByte
  split
  · next hKept =>
      have hAlone : isKept b = true → ((Char.ofNat b.toNat).isAlphanum ||
          "*-._+".toList.contains (Char.ofNat b.toNat)) = true :=
        forall_byte (p := fun b => isKept b = true → ((Char.ofNat b.toNat).isAlphanum ||
          "*-._+".toList.contains (Char.ofNat b.toNat)) = true) (by decide +kernel) b
      exact isFormText_cons (hAlone hKept) rest
  · split
    · exact isFormText_cons (by decide) rest
    · exact isFormText_escapeByte_append b rest

/-- A written text comes apart into single characters and escapes. -/
theorem isFormText_encode (s : String) : isFormText (encode s).toList = true := by
  rw [encode, String.toList_ofList]
  induction Utf8.encode s.toList with
  | nil => rfl
  | cons b rest ih => rw [List.flatMap_cons, isFormText_encodeByte_append, ih]

/-- A text that is not empty is written with at least one character. -/
theorem encode_ne_empty {s : String} (h : s ≠ "") : (encode s).toList ≠ [] := by
  rw [encode, String.toList_ofList]
  intro hEmpty
  have hBytes : Utf8.encode s.toList = [] := by
    rw [List.flatMap_eq_nil_iff] at hEmpty
    exact List.eq_nil_iff_forall_not_mem.2 fun b hb => encodeByte_ne_nil b (hEmpty b hb)
  have hChars : s.toList = [] := by
    rw [Utf8.encode, List.flatMap_eq_nil_iff] at hBytes
    exact List.eq_nil_iff_forall_not_mem.2 fun c hc => String.utf8EncodeChar_ne_nil (hBytes c hc)
  exact h (String.toList_eq_nil_iff.1 hChars)

/-- What is written as dots consists of dots, and is written as it is. -/
theorem encode_eq_self_of_dots {s : String} (h : ∀ c ∈ (encode s).toList, c = '.') :
    encode s = s := by
  rw [encode, String.toList_ofList] at h
  have hBytes : ∀ b ∈ Utf8.encode s.toList, b = 0x2E := by
    intro b hb
    apply eq_dot_of_encodeByte
    intro c hc
    exact h c (List.mem_flatMap.2 ⟨b, hb, hc⟩)
  have hAscii : s.toList = (Utf8.encode s.toList).map Utf8.ofByte := by
    apply Utf8.eq_map_of_encode_ascii
    intro b hb
    rw [hBytes b hb]
    decide
  have hWritten : (Utf8.encode s.toList).flatMap encodeByte =
      (Utf8.encode s.toList).map Utf8.ofByte := by
    rw [List.map_eq_flatMap]
    apply List.flatMap_congr
    intro b hb
    rw [hBytes b hb]
    decide
  rw [encode, hWritten, ← hAscii, String.ofList_toList]

end NewsAnalytics.Text.FormEncoding
