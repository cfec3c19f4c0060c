import NewsAnalytics.Text.Utf8

/-!
# Reading UTF-8

In UTF-8 the bytes below `0x80` stand for the characters of ASCII and for
nothing else, in both directions: they are read as themselves, and a
character whose bytes are all below `0x80` is one byte.

Lenient reading replaces what is ill-formed and leaves the rest alone: the
bytes of a text are read as the text. A character of one to four bytes is
followed through the states of the reader, from its first byte to its last.

## Main results

* `decode_ascii` — ASCII bytes are read one by one.
* `eq_map_of_encode_ascii` — a text of ASCII bytes is an ASCII text.
* `decode_encode` — the bytes of a text are read as the text.
-/

namespace NewsAnalytics.Text.Utf8

/-! ## ASCII -/

/-- The character of an ASCII byte. -/
def ofByte (b : UInt8) : Char := Char.ofNat b.toNat

/-- ASCII bytes are read one by one. -/
theorem decode_ascii {bytes : List UInt8} (h : ∀ b ∈ bytes, b < 0x80) :
    decode bytes = bytes.map ofByte := by
  unfold decode
  induction bytes with
  | nil => rfl
  | cons b rest ih =>
      have hb : b < 0x80 := h b (by simp)
      rw [decodeFrom, List.map_cons, ← ih fun x hx => h x (by simp [hx])]
      simp [step, first, hb, ofByte]

private theorem ofByte_ofNat_toNat {c : Char} (h : c.toNat ≤ 0x7F) :
    ofByte (UInt8.ofNat c.toNat) = c := by
  have hSmall : c.toNat < 2 ^ 8 := by omega
  rw [ofByte, UInt8.toNat_ofNat_of_lt' hSmall, Char.ofNat_toNat]

/-- A character whose first byte is below `0x80` is one byte. -/
theorem utf8EncodeChar_ascii {c : Char} (h : ∀ b ∈ (String.utf8EncodeChar c).head?, b < 0x80) :
    ∃ b, String.utf8EncodeChar c = [b] ∧ c = ofByte b := by
  have hNat : c.val.toNat = c.toNat := rfl
  -- the first byte of a longer sequence has its highest bit set
  have hHigh : ∀ n < 64, ¬ UInt8.ofNat (n + 0xC0) < 0x80 := by decide
  unfold String.utf8EncodeChar at *
  simp only [hNat] at *
  by_cases hOne : c.toNat ≤ 0x7F
  · rw [if_pos hOne]
    exact ⟨_, rfl, (ofByte_ofNat_toNat hOne).symm⟩
  · rw [if_neg hOne] at h
    exfalso
    by_cases hTwo : c.toNat ≤ 0x7FF
    · rw [if_pos hTwo] at h
      exact hHigh (c.toNat / 64 % 0x20) (by omega) (h _ rfl)
    · rw [if_neg hTwo] at h
      by_cases hThree : c.toNat ≤ 0xFFFF
      · rw [if_pos hThree] at h
        exact hHigh (c.toNat / 4096 % 0x10 + 0x20) (by omega) (h _ rfl)
      · rw [if_neg hThree] at h
        exact hHigh (c.toNat / 262144 % 0x08 + 0x30) (by omega) (h _ rfl)

/-- A text of ASCII bytes is an ASCII text. -/
theorem eq_map_of_encode_ascii {cs : List Char} (h : ∀ b ∈ encode cs, b < 0x80) :
    cs = (encode cs).map ofByte := by
  unfold encode at *
  induction cs with
  | nil => rfl
  | cons c rest ih =>
      have hRest := ih fun b hb => h b (by simp [hb])
      obtain ⟨b, hByte, hChar⟩ := utf8EncodeChar_ascii (c := c) fun b hb =>
        h b (by simp [List.mem_of_mem_head? hb])
      rw [List.flatMap_cons, List.map_append, ← hRest, hByte, List.map_singleton, ← hChar]
      rfl

/-! ## Sequences -/

section Sequences

variable {bytes : List UInt8} {n : Nat}

private theorem ofNat_lt_iff {b : UInt8} (h : n < 256) : UInt8.ofNat n < b ↔ n < b.toNat := by
  rw [UInt8.lt_iff_toNat_lt, UInt8.toNat_ofNat_of_lt' h]

private theorem ofNat_eq_iff {b : UInt8} (h : n < 256) : UInt8.ofNat n = b ↔ n = b.toNat := by
  rw [← UInt8.toNat_inj, UInt8.toNat_ofNat_of_lt' h]

/-- A byte below `0x80` is a character. -/
private theorem decodeFrom_ascii (h : n < 0x80) :
    decodeFrom none (UInt8.ofNat n :: bytes) = Char.ofNat n :: decodeFrom none bytes := by
  have hByte : n < 256 := by omega
  have hFirst : first (UInt8.ofNat n) = ([Char.ofNat n], none) := by
    rw [first, if_pos ((ofNat_lt_iff hByte).2 (by simpa using h)), UInt8.toNat_ofNat_of_lt' hByte]
  simp only [decodeFrom, step, hFirst, List.singleton_append]

/-- The first byte of two. -/
private theorem decodeFrom_lead_two (hLow : 0xC2 ≤ n) (hHigh : n < 0xE0) :
    decodeFrom none (UInt8.ofNat n :: bytes) =
      decodeFrom (some ⟨n - 0xC0, 0x80, 0xBF, 0⟩) bytes := by
  have hByte : n < 256 := by omega
  have hFirst : first (UInt8.ofNat n) = ([], some ⟨n - 0xC0, 0x80, 0xBF, 0⟩) := by
    simp only [first, ofNat_lt_iff hByte, UInt8.toNat_ofNat_of_lt' hByte]
    simp [show ¬ n < 128 by omega, show ¬ n < 194 by omega, hHigh]
  simp only [decodeFrom, step, hFirst, List.nil_append]

/-- The first byte of three. -/
private theorem decodeFrom_lead_three (hLow : 0xE0 ≤ n) (hHigh : n < 0xF0) :
    decodeFrom none (UInt8.ofNat n :: bytes) =
      decodeFrom (some ⟨n - 0xE0, if n = 0xE0 then 0xA0 else 0x80,
        if n = 0xED then 0x9F else 0xBF, 1⟩) bytes := by
  have hByte : n < 256 := by omega
  have hFirst : first (UInt8.ofNat n) = ([], some ⟨n - 0xE0, if n = 0xE0 then 0xA0 else 0x80,
      if n = 0xED then 0x9F else 0xBF, 1⟩) := by
    simp only [first, ofNat_lt_iff hByte, ofNat_eq_iff hByte, UInt8.toNat_ofNat_of_lt' hByte]
    simp [show ¬ n < 128 by omega, show ¬ n < 194 by omega, show ¬ n < 224 by omega, hHigh]
  simp only [decodeFrom, step, hFirst, List.nil_append]

/-- The first byte of four. -/
private theorem decodeFrom_lead_four (hLow : 0xF0 ≤ n) (hHigh : n < 0xF5) :
    decodeFrom none (UInt8.ofNat n :: bytes) =
      decodeFrom (some ⟨n - 0xF0, if n = 0xF0 then 0x90 else 0x80,
        if n = 0xF4 then 0x8F else 0xBF, 2⟩) bytes := by
  have hByte : n < 256 := by omega
  have hFirst : first (UInt8.ofNat n) = ([], some ⟨n - 0xF0, if n = 0xF0 then 0x90 else 0x80,
      if n = 0xF4 then 0x8F else 0xBF, 2⟩) := by
    simp only [first, ofNat_lt_iff hByte, ofNat_eq_iff hByte, UInt8.toNat_ofNat_of_lt' hByte]
    simp [show ¬ n < 128 by omega, show ¬ n < 194 by omega, show ¬ n < 224 by omega,
      show ¬ n < 240 by omega, hHigh]
  simp only [decodeFrom, step, hFirst, List.nil_append]

variable {bits after : Nat} {low high : UInt8}

/-- A number between two bytes is a byte between them. -/
private theorem ofNat_between (hLow : low.toNat ≤ n) (hHigh : n ≤ high.toNat) :
    (UInt8.ofNat n).toNat = n ∧ (low ≤ UInt8.ofNat n && UInt8.ofNat n ≤ high) = true := by
  have hByte : n < 256 := by have := high.toNat_lt; omega
  have hSelf : (UInt8.ofNat n).toNat = n := UInt8.toNat_ofNat_of_lt' hByte
  refine ⟨hSelf, ?_⟩
  simp [UInt8.le_iff_toNat_le, hSelf, hLow, hHigh]

/-- A byte inside a sequence that ends with it. -/
private theorem decodeFrom_last (hLow : low.toNat ≤ n) (hHigh : n ≤ high.toNat) :
    decodeFrom (some ⟨bits, low, high, 0⟩) (UInt8.ofNat n :: bytes) =
      Char.ofNat (bits * 64 + (n - 0x80)) :: decodeFrom none bytes := by
  obtain ⟨hSelf, hInside⟩ := ofNat_between hLow hHigh
  simp only [decodeFrom, step, hInside, if_true, hSelf, List.singleton_append]

/-- A byte inside a sequence that goes on. -/
private theorem decodeFrom_next (hLow : low.toNat ≤ n) (hHigh : n ≤ high.toNat) :
    decodeFrom (some ⟨bits, low, high, after + 1⟩) (UInt8.ofNat n :: bytes) =
      decodeFrom (some ⟨bits * 64 + (n - 0x80), 0x80, 0xBF, after⟩) bytes := by
  obtain ⟨hSelf, hInside⟩ := ofNat_between hLow hHigh
  simp only [decodeFrom, step, hInside, if_true, hSelf, List.nil_append]

/-- The bytes of a character are read as the character. -/
theorem decodeFrom_utf8EncodeChar (c : Char) (bytes : List UInt8) :
    decodeFrom none (String.utf8EncodeChar c ++ bytes) = c :: decodeFrom none bytes := by
  have hNat : c.val.toNat = c.toNat := rfl
  have hValid : c.toNat < 0xD800 ∨ 0xDFFF < c.toNat ∧ c.toNat < 0x110000 := c.valid
  have hLow : (0x80 : UInt8).toNat = 0x80 := rfl
  have hHigh : (0xBF : UInt8).toNat = 0xBF := rfl
  have hChar : ∀ n, n = c.toNat → Char.ofNat n = c := fun n h => h ▸ Char.ofNat_toNat c
  unfold String.utf8EncodeChar
  simp only [hNat]
  by_cases hOne : c.toNat ≤ 0x7F
  · rw [if_pos hOne, List.singleton_append, decodeFrom_ascii (by omega), hChar _ rfl]
  rw [if_neg hOne]
  by_cases hTwo : c.toNat ≤ 0x7FF
  · rw [if_pos hTwo]
    simp only [List.cons_append, List.nil_append]
    rw [decodeFrom_lead_two (by omega) (by omega), decodeFrom_last (by omega) (by omega),
      hChar _ (by omega)]
  rw [if_neg hTwo]
  by_cases hThree : c.toNat ≤ 0xFFFF
  · rw [if_pos hThree]
    simp only [List.cons_append, List.nil_append]
    rw [decodeFrom_lead_three (by omega) (by omega), decodeFrom_next, decodeFrom_last (by omega)
      (by omega), hChar _ (by omega)]
    · split
      · have : (0xA0 : UInt8).toNat = 0xA0 := rfl
        omega
      · omega
    · split
      · have : (0x9F : UInt8).toNat = 0x9F := rfl
        omega
      · omega
  · rw [if_neg hThree]
    simp only [List.cons_append, List.nil_append]
    rw [decodeFrom_lead_four (by omega) (by omega), decodeFrom_next, decodeFrom_next (by omega)
      (by omega), decodeFrom_last (by omega) (by omega), hChar _ (by omega)]
    · split
      · have : (0x90 : UInt8).toNat = 0x90 := rfl
        omega
      · omega
    · split
      · have : (0x8F : UInt8).toNat = 0x8F := rfl
        omega
      · omega

theorem decode_encode (cs : List Char) : decode (encode cs) = cs := by
  unfold decode encode
  induction cs with
  | nil => rfl
  | cons c rest ih => rw [List.flatMap_cons, decodeFrom_utf8EncodeChar, ih]

end Sequences

end NewsAnalytics.Text.Utf8
