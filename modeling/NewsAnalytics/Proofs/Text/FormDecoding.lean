import NewsAnalytics.Proofs.Text.FormEncoding
import NewsAnalytics.Proofs.Text.Split

/-!
# Reading what was written

Each byte is written as itself, as a plus sign or as an escape, and all
three are read as the byte, whatever stands behind. So a written text is
read as the text. The marks `=` and `&` are not in the alphabet: a written
pair is cut where it was joined, and so is a list of pairs.

## Main results

* `decode_encode` — a written text is read as the text.
* `decodePairs_intercalate` — joined parts are read one after the other.
* `decodePairs_encodePairs` — written pairs are read as the pairs.
-/

namespace NewsAnalytics.Text

namespace Percent

/-- A character other than `%` is read as its bytes. -/
theorem decode_cons {c : Char} (hc : c ≠ '%') (rest : List Char) :
    decode (c :: rest) = String.utf8EncodeChar c ++ decode rest := by
  rw [decode]
  rintro a b rest' rfl
  exact absurd rfl hc

/-- An escape is read as its byte. -/
theorem decode_escapeByte_append (b : UInt8) (rest : List Char) :
    decode (escapeByte b ++ rest) = b :: decode rest := by
  have hByte : b.toNat < 256 := b.toNat_lt
  have hHigh : Hex.value? (Hex.upper (b.toNat / 16)) = some (b.toNat / 16) :=
    Hex.value?_upper _ (by omega)
  have hLow : Hex.value? (Hex.upper (b.toNat % 16)) = some (b.toNat % 16) :=
    Hex.value?_upper _ (by omega)
  have hSum : 16 * (b.toNat / 16) + b.toNat % 16 = b.toNat := by omega
  simp only [escapeByte, List.cons_append, List.nil_append, decode, hHigh, hLow, hSum,
    UInt8.ofNat_toNat]

end Percent

namespace FormEncoding

/-! ## Texts -/

/-- Behind the step that turns plus signs into spaces, a written byte is the
escape of the byte, or a character that is the byte. -/
private theorem map_plusToSpace_encodeByte (b : UInt8) :
    (encodeByte b).map plusToSpace = Percent.escapeByte b ∨
      (encodeByte b).map plusToSpace = [Utf8.ofByte b] ∧ Utf8.ofByte b ≠ '%' ∧
        String.utf8EncodeChar (Utf8.ofByte b) = [b] :=
  forall_byte (p := fun b => (encodeByte b).map plusToSpace = Percent.escapeByte b ∨
    (encodeByte b).map plusToSpace = [Utf8.ofByte b] ∧ Utf8.ofByte b ≠ '%' ∧
      String.utf8EncodeChar (Utf8.ofByte b) = [b]) (by decide +kernel) b

/-- A written byte is read as the byte. -/
theorem decodeBytes_encodeByte_append (b : UInt8) (rest : List Char) :
    decodeBytes (encodeByte b ++ rest) = b :: decodeBytes rest := by
  unfold decodeBytes
  rw [List.map_append]
  rcases map_plusToSpace_encodeByte b with hEscape | ⟨hSelf, hNe, hUtf8⟩
  · rw [hEscape, Percent.decode_escapeByte_append]
  · rw [hSelf, List.singleton_append, Percent.decode_cons hNe, hUtf8, List.singleton_append]

theorem decodeBytes_flatMap_encodeByte (bytes : List UInt8) :
    decodeBytes (bytes.flatMap encodeByte) = bytes := by
  induction bytes with
  | nil => rfl
  | cons b rest ih => rw [List.flatMap_cons, decodeBytes_encodeByte_append, ih]

/-- A written text is read as the text. -/
theorem decode_encode (s : String) : decode (encode s) = s := by
  rw [decode, encode, String.toList_ofList, decodeBytes_flatMap_encodeByte, Utf8.decode_encode,
    String.ofList_toList]

/-- Different texts are written differently. -/
theorem encode_injective : Function.Injective encode :=
  Function.LeftInverse.injective decode_encode

/-! ## Pairs -/

/-- A mark outside the alphabet is not in a written text. -/
theorem not_mem_encode {mark : Char} (hMark : isWritten mark = false) (s : String) :
    mark ∉ (encode s).toList := by
  intro hMem
  rw [isWritten_of_mem_encode hMem] at hMark
  cases hMark

theorem toList_encodePair (pair : String × String) :
    (encodePair pair).toList = (encode pair.1).toList ++ '=' :: (encode pair.2).toList := by
  simp [encodePair, String.toList_append]

theorem encodePair_ne_empty (pair : String × String) : encodePair pair ≠ "" := by
  intro h
  have hChars := congrArg String.toList h
  rw [toList_encodePair] at hChars
  simp at hChars

/-- A written pair is cut at the `=` that joins it. -/
theorem decodePair_encodePair (pair : String × String) :
    decodePair (encodePair pair).toList = pair := by
  have hKey : ∀ c ∈ (encode pair.1).toList, (c != '=') = true := by
    intro c hc
    have hNe : c ≠ '=' := fun h => not_mem_encode (by decide) pair.1 (h ▸ hc)
    simpa using hNe
  rw [decodePair, toList_encodePair, List.takeWhile_append_of_pos hKey,
    List.dropWhile_append_of_pos hKey]
  simp [decode_encode]

/-! ## Lists of pairs -/

theorem decodePairs_empty : decodePairs "" = [] := rfl

/-- Two parts are read one after the other. -/
theorem decodePairs_append (a b : String) :
    decodePairs (a ++ "&" ++ b) = decodePairs a ++ decodePairs b := by
  have hChars : (a ++ "&" ++ b).toList = a.toList ++ '&' :: b.toList := by
    simp [String.toList_append]
  rw [decodePairs, hChars, splitAt_append_mark (by decide), List.filter_append, List.map_append]
  rfl

/-- Joined parts are read one after the other. -/
theorem decodePairs_intercalate (parts : List String) :
    decodePairs ("&".intercalate parts) = parts.flatMap decodePairs := by
  induction parts with
  | nil => rw [String.intercalate_nil, decodePairs_empty, List.flatMap_nil]
  | cons part rest ih =>
      cases rest with
      | nil => simp
      | cons next rest =>
          rw [String.intercalate_cons_cons, decodePairs_append, ih]
          simp only [List.flatMap_cons]

/-- A written pair is a part of its own. -/
theorem decodePairs_encodePair (pair : String × String) :
    decodePairs (encodePair pair) = [pair] := by
  have hPart : ∀ c ∈ (encodePair pair).toList, decide (c = '&') = false := by
    intro c hc
    rw [toList_encodePair, List.mem_append, List.mem_cons] at hc
    rw [decide_eq_false_iff_not]
    rintro rfl
    rcases hc with hc | hc | hc
    · exact not_mem_encode (by decide) pair.1 hc
    · cases hc
    · exact not_mem_encode (by decide) pair.2 hc
  have hNe : (encodePair pair).toList ≠ [] := by simp [toList_encodePair]
  rw [decodePairs, splitAt_eq_singleton hPart]
  simp [hNe, decodePair_encodePair]

/-- Written pairs are read as the pairs. -/
theorem decodePairs_encodePairs (pairs : List (String × String)) :
    decodePairs (encodePairs pairs) = pairs := by
  rw [encodePairs, decodePairs_intercalate, List.flatMap_map]
  simp [decodePairs_encodePair]

end FormEncoding

end NewsAnalytics.Text
