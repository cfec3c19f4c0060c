import NewsAnalytics.Error

/-!
# Wordings that are told apart

Messages are made of fixed words and of names that may be any text. Where
the fixed words differ at the beginning or at the end, the messages differ,
whatever the names are.

No message is worded like the complaint that no filter was passed, so that
error is known by its message.

## Main results

* `append_ne_append` — texts that begin differently are different.
* `Error.eq_noFilter_of_message` — the error is known by its message.
-/

namespace NewsAnalytics

/-! ## Beginnings and endings -/

/-- Texts that begin differently are different. -/
theorem append_ne_append {a b : String} (hLeft : ¬ a.toList <+: b.toList)
    (hRight : ¬ b.toList <+: a.toList) (s t : String) : a ++ s ≠ b ++ t := by
  intro hEq
  have hChars := congrArg String.toList hEq
  rw [String.toList_append, String.toList_append] at hChars
  have hPrefix : b.toList <+: a.toList ++ s.toList := hChars ▸ List.prefix_append _ _
  rcases List.prefix_or_prefix_of_prefix (List.prefix_append a.toList s.toList) hPrefix with h | h
  · exact hLeft h
  · exact hRight h

theorem append_ne_of_beginning {a b : String} (h : ¬ a.toList <+: b.toList) (s : String) :
    a ++ s ≠ b := by
  rintro rfl
  rw [String.toList_append] at h
  exact h (List.prefix_append _ _)

theorem append_ne_of_ending {a b : String} (h : ¬ a.toList <:+ b.toList) (s : String) :
    s ++ a ≠ b := by
  rintro rfl
  rw [String.toList_append] at h
  exact h (List.suffix_append _ _)

/-! ## The complaint that no filter was passed -/

theorem InvalidInput.eq_noFilter_of_message {cause : InvalidInput}
    (h : cause.message = InvalidInput.noFilter.message) : cause = .noFilter := by
  cases cause with
  | noFilter => rfl
  | unknownField name => exact absurd h (append_ne_of_ending (by decide +kernel) _)
  | emptyFilter => exact absurd h (by decide)
  | emptyValue field => exact absurd h (append_ne_of_beginning (by decide +kernel) _)
  | emptyGroup field => exact absurd h (append_ne_of_beginning (by decide +kernel) _)
  | missingSortBy => exact absurd h (by decide)
  | missingAggregateBy => exact absurd h (by decide)
  | emptyName component => exact absurd h (append_ne_of_ending (by decide +kernel) _)
  | dotName component => exact absurd h (append_ne_of_ending (by decide +kernel) _)
  | invalidPath path cause =>
      have hWords : (invalidPath path cause).message =
          "invalid request path " ++ (path ++ (": " ++ cause.message)) :=
        String.append_assoc.trans String.append_assoc
      exact absurd (hWords.symm.trans h) (append_ne_of_beginning (by decide +kernel) _)

/-- The complaint that no filter was passed is known by its message. -/
theorem Error.eq_noFilter_of_message {e : Error}
    (h : e.message = (Error.validation .noFilter).message) : e = .validation .noFilter := by
  cases e with
  | validation cause =>
      rw [InvalidInput.eq_noFilter_of_message ((String.append_right_inj _).1 h)]
  | configuration cause => exact absurd h (append_ne_of_beginning (by decide +kernel) _)
  | unsupportedMethod token => exact absurd h (append_ne_of_ending (by decide +kernel) _)
  | api status reason =>
      have hWords : (api status reason).message =
          "Request failed with status " ++ (toString status ++ (": " ++ reason)) :=
        String.append_assoc.trans String.append_assoc
      exact absurd (hWords.symm.trans h) (append_ne_of_beginning (by decide +kernel) _)
  | decode cause => exact absurd h (append_ne_of_beginning (by decide +kernel) _)
  | network => exact absurd h (by decide)

end NewsAnalytics
