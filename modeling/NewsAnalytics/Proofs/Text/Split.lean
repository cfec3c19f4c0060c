import Mathlib.Data.List.Basic
import NewsAnalytics.Text.Split

/-!
# Parts between marks

Splitting undoes joining: parts that hold no mark, with one mark between
them, are found again. And it loses nothing but the marks: each character
of a part is a character of the text, and no mark.

## Main results

* `splitAt_intercalate` — joined parts are found again.
* `mem_part_of_splitAt` — what the parts consist of.
-/

namespace NewsAnalytics.Text

variable {isMark : Char → Bool}

/-- The parts on the two sides of a mark are found one after the other. -/
theorem splitAt_append_mark {m : Char} (hm : isMark m = true)
    (a b : List Char) : splitAt isMark (a ++ m :: b) = splitAt isMark a ++ splitAt isMark b := by
  induction a with
  | nil => simp [splitAt, hm]
  | cons c rest ih =>
      by_cases hc : isMark c = true
      · simp [splitAt, hc, ih]
      · have hLength := length_splitAt isMark rest
        cases hs : splitAt isMark rest with
        | nil => simp [hs] at hLength
        | cons part parts => simp [splitAt, hc, ih, hs]

theorem splitAt_eq_singleton {cs : List Char} (h : ∀ c ∈ cs, isMark c = false) :
    splitAt isMark cs = [cs] := by
  induction cs with
  | nil => rfl
  | cons c rest ih =>
      have hRest := ih fun d hd => h d (by simp [hd])
      simp [splitAt, h c (by simp), hRest]

/-- Joined parts are found again. -/
theorem splitAt_intercalate {m : Char} (hm : isMark m = true) {parts : List (List Char)}
    (hNe : parts ≠ []) (hParts : ∀ part ∈ parts, ∀ c ∈ part, isMark c = false) :
    splitAt isMark ([m].intercalate parts) = parts := by
  obtain ⟨part, rest, rfl⟩ := List.exists_cons_of_ne_nil hNe
  clear hNe
  induction rest generalizing part with
  | nil =>
      rw [List.intercalate_singleton]
      exact splitAt_eq_singleton (hParts part (by simp))
  | cons next rest ih =>
      rw [List.intercalate_cons_cons, List.append_assoc, List.singleton_append,
        splitAt_append_mark hm, splitAt_eq_singleton (hParts part (by simp)),
        ih next fun x hx => hParts x (List.mem_cons_of_mem part hx)]
      rfl

theorem splitAt_ne_nil (cs : List Char) : splitAt isMark cs ≠ [] := by
  intro h
  have hLength := length_splitAt isMark cs
  rw [h] at hLength
  simp at hLength

/-- A part consists of characters of the text that are no marks. -/
theorem mem_part_of_splitAt {cs part : List Char} (hPart : part ∈ splitAt isMark cs) {c : Char}
    (hc : c ∈ part) : c ∈ cs ∧ isMark c = false := by
  induction cs generalizing part with
  | nil =>
      obtain rfl := List.mem_singleton.1 hPart
      cases hc
  | cons d rest ih =>
      by_cases hd : isMark d = true
      · simp only [splitAt, hd, if_true, List.mem_cons] at hPart
        rcases hPart with rfl | hPart
        · cases hc
        · obtain ⟨hMem, hMark⟩ := ih hPart hc
          exact ⟨List.mem_cons_of_mem d hMem, hMark⟩
      · have hNe : splitAt isMark rest ≠ [] := splitAt_ne_nil rest
        obtain ⟨first, parts, hs⟩ := List.exists_cons_of_ne_nil hNe
        rw [hs] at ih
        rw [splitAt, if_neg hd, hs, List.mem_cons] at hPart
        rcases hPart with rfl | hPart
        · rcases List.mem_cons.1 hc with rfl | hc
          · exact ⟨List.mem_cons_self, by simpa using hd⟩
          · obtain ⟨hMem, hMark⟩ := ih (List.mem_cons_self) hc
            exact ⟨List.mem_cons_of_mem d hMem, hMark⟩
        · obtain ⟨hMem, hMark⟩ := ih (List.mem_cons_of_mem first hPart) hc
          exact ⟨List.mem_cons_of_mem d hMem, hMark⟩

end NewsAnalytics.Text
