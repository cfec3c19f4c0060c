import NewsAnalytics.Proofs.Text.FormEncoding
import NewsAnalytics.Proofs.Url.Segments
import NewsAnalytics.Request.Segment

/-!
# Names are plain segments

A name that is accepted becomes a plain segment: form encoding leaves inert
characters only, and a written text is read as dots only if it is dots,
since a dot is never escaped and a percent sign always is. The names that
are dots themselves are the two that are refused.

## Main results

* `undoDots_encode` — reading escaped dots leaves a written text as it is.
* `isPlain_of_segment` — accepted names are plain segments.
* `isPlain_toString` — and so are numbers.
-/

namespace NewsAnalytics.Request

open Text Url Url.Segments

/-! ## Characters -/

theorem isInert_of_isWritten {c : Char} (h : FormEncoding.isWritten c = true) : IsInert c :=
  FormEncoding.forall_isWritten (p := IsInert) (by decide +kernel) h

/-! ## Dots -/

theorem undoDots_cons {c : Char} (hc : c ≠ '%') (rest : List Char) :
    undoDots (c :: rest) = c :: undoDots rest := by
  rw [undoDots]
  · rintro tail rfl -
    exact hc rfl
  · rintro tail rfl -
    exact hc rfl

/-- An escape that is no dot is left as it is. -/
theorem undoDots_escape {x y : Char} (hx : x ≠ '%') (hy : y ≠ '%')
    (hDot : ¬ (x = '2' ∧ (y = 'e' ∨ y = 'E'))) (rest : List Char) :
    undoDots ('%' :: x :: y :: rest) = '%' :: x :: y :: undoDots rest := by
  rw [undoDots, undoDots_cons hx, undoDots_cons hy]
  · rintro tail - hTail
    obtain ⟨hTwo, hE⟩ := List.cons.inj hTail
    exact hDot ⟨hTwo, .inl (List.cons.inj hE).1⟩
  · rintro tail - hTail
    obtain ⟨hTwo, hE⟩ := List.cons.inj hTail
    exact hDot ⟨hTwo, .inr (List.cons.inj hE).1⟩

theorem undoDots_encodeByte_append (b : UInt8) (rest : List Char) :
    undoDots (FormEncoding.encodeByte b ++ rest) =
      FormEncoding.encodeByte b ++ undoDots rest := by
  have hDigit : ∀ n < 16, Hex.upper n ≠ '%' := by decide
  have hByte : b.toNat < 256 := UInt8.toNat_lt b
  unfold FormEncoding.encodeByte
  split
  · next hKept =>
      have hChar : FormEncoding.isKept b = true → Char.ofNat b.toNat ≠ '%' :=
        FormEncoding.forall_byte (p := fun b => FormEncoding.isKept b = true →
          Char.ofNat b.toNat ≠ '%') (by decide +kernel) b
      exact undoDots_cons (hChar hKept) rest
  · split
    · exact undoDots_cons (by decide) rest
    · next hKept _ =>
        have hDot : FormEncoding.isKept b ≠ true → ¬ (Hex.upper (b.toNat / 16) = '2' ∧
            (Hex.upper (b.toNat % 16) = 'e' ∨ Hex.upper (b.toNat % 16) = 'E')) :=
          FormEncoding.forall_byte (p := fun b => FormEncoding.isKept b ≠ true →
            ¬ (Hex.upper (b.toNat / 16) = '2' ∧ (Hex.upper (b.toNat % 16) = 'e' ∨
              Hex.upper (b.toNat % 16) = 'E'))) (by decide +kernel) b
        exact undoDots_escape (hDigit _ (by omega)) (hDigit _ (by omega)) (hDot hKept) rest

/-- Reading escaped dots leaves a written text as it is. -/
theorem undoDots_encode (s : String) :
    undoDots (FormEncoding.encode s).toList = (FormEncoding.encode s).toList := by
  rw [FormEncoding.encode, String.toList_ofList]
  induction Utf8.encode s.toList with
  | nil => rfl
  | cons b rest ih => rw [List.flatMap_cons, undoDots_encodeByte_append, ih]

/-! ## Segments -/

theorem segment_eq_ok_iff {component name text : String} :
    segment component name = .ok text ↔
      isBlank name = false ∧ name ≠ "." ∧ name ≠ ".." ∧ text = FormEncoding.encode name := by
  unfold segment
  by_cases hBlank : isBlank name = true
  · simp [hBlank]
  · by_cases hDots : name = "." ∨ name = ".."
    · rw [if_neg hBlank, if_pos hDots]
      rcases hDots with rfl | rfl <;> simp
    · rw [if_neg hBlank, if_neg hDots]
      rw [not_or] at hDots
      simp [hBlank, hDots.1, hDots.2, eq_comm]

/-- Inert characters that are read as they stand are plain, unless they are
dots. -/
theorem isPlain_of_undoDots {cs : List Char} (hNe : cs ≠ []) (hInert : ∀ c ∈ cs, IsInert c)
    (hUndo : undoDots cs = cs) (hDot : cs ≠ ['.']) (hDots : cs ≠ ['.', '.']) : IsPlain cs := by
  have hClean : clean cs = cs := clean_eq_self fun c hc => (hInert c hc).notIgnored
  refine ⟨hNe, hInert, ?_, ?_⟩
  · rw [isSingleDot, hClean, hUndo, beq_eq_false_iff_ne]
    exact hDot
  · rw [isDoubleDot, hClean, hUndo, beq_eq_false_iff_ne]
    exact hDots

/-- A name is written as dots only if it is those dots. -/
theorem toList_eq_of_encode_dots {name : String} {cs : List Char}
    (hText : (FormEncoding.encode name).toList = cs) (hDots : ∀ c ∈ cs, c = '.') :
    name.toList = cs := by
  rw [← hText] at hDots
  rw [← hText, FormEncoding.encode_eq_self_of_dots hDots]

/-- An accepted name becomes a plain segment. -/
theorem isPlain_of_segment {component name text : String} (h : segment component name = .ok text) :
    IsPlain text.toList := by
  obtain ⟨hShown, hDot, hDots, rfl⟩ := segment_eq_ok_iff.1 h
  apply isPlain_of_undoDots
  · apply FormEncoding.encode_ne_empty
    rintro rfl
    cases hShown
  · exact fun c hc => isInert_of_isWritten (FormEncoding.isWritten_of_mem_encode hc)
  · exact undoDots_encode name
  · intro hText
    exact hDot (String.toList_inj.1 (toList_eq_of_encode_dots hText (by simp)))
  · intro hText
    exact hDots (String.toList_inj.1 (toList_eq_of_encode_dots hText (by simp)))

/-- A segment of letters and digits is plain. -/
theorem isPlain_of_alphanum {cs : List Char} (hNe : cs ≠ [])
    (h : ∀ c ∈ cs, c.isAlphanum = true) : IsPlain cs := by
  have hDot : '.' ∉ cs := fun hMem => absurd (h '.' hMem) (by decide)
  apply isPlain_of_undoDots hNe
  · intro c hc
    apply isInert_of_isWritten
    rw [FormEncoding.isWritten, h c hc]
    rfl
  · clear hNe hDot
    induction cs with
    | nil => rfl
    | cons c rest ih =>
        have hPercent : c ≠ '%' := by
          rintro rfl
          exact absurd (h '%' (by simp)) (by decide)
        rw [undoDots_cons hPercent, ih fun d hd => h d (by simp [hd])]
  · rintro rfl
    simp at hDot
  · rintro rfl
    simp at hDot

theorem isPlain_toString (n : Nat) : IsPlain (toString n).toList := by
  have hDigits : (toString n).toList = Nat.toDigits 10 n := by
    simp
  rw [hDigits]
  apply isPlain_of_alphanum
  · exact Nat.toDigits_ne_nil
  · intro c hc
    have hDigit := Nat.isDigit_of_mem_toDigits (by decide) (by decide) hc
    simp [Char.isAlphanum, hDigit]

end NewsAnalytics.Request
