import Mathlib.Data.List.TakeWhile
import NewsAnalytics.Catalogue.Order

/-!
# Orders that are put together and taken apart

An order of statistics is a measure and a summary with a dot between them.
The check cuts a text at its first dot, and the list of all orders puts dots
in. Cutting undoes putting together as long as no measure has a dot in its
name. The summary may be anything: what stands behind the first dot is one
summary, further dots and all.

## Main results

* `cut_eq_iff` — a text is cut at its first mark in one way.
* `isStatsOrder_eq_true_iff` — what the check accepts.
* `isStatsOrder_iff_mem_statsOrders` — these are the orders in the list.
-/

namespace NewsAnalytics.Catalogue

/-! ## Cuts at a mark -/

/-- What stands before the first mark and what begins there are known iff the
text is put together from them. -/
theorem cut_eq_iff {m : Char} {cs before behind : List Char} :
    cs.takeWhile (· ≠ m) = before ∧ cs.dropWhile (· ≠ m) = m :: behind ↔
      m ∉ before ∧ cs = before ++ m :: behind := by
  constructor
  · rintro ⟨rfl, hBehind⟩
    refine ⟨fun hm => ?_, ?_⟩
    · simpa using List.mem_takeWhile_imp hm
    · rw [← hBehind, List.takeWhile_append_dropWhile]
  · rintro ⟨hm, rfl⟩
    have hBefore : ∀ c ∈ before, decide (c ≠ m) = true := by
      intro c hc
      exact decide_eq_true fun hSame => hm (hSame ▸ hc)
    rw [List.takeWhile_append_of_pos hBefore, List.dropWhile_append_of_pos hBefore]
    simp

/-- A text is cut at its first mark, or it has none. -/
theorem dropWhile_eq_nil_or_cons (m : Char) (cs : List Char) :
    cs.dropWhile (· ≠ m) = [] ∨ ∃ behind, cs.dropWhile (· ≠ m) = m :: behind := by
  induction cs with
  | nil => exact .inl rfl
  | cons c rest ih =>
      by_cases hMark : c = m
      · exact .inr ⟨rest, by simp [hMark]⟩
      · simpa [hMark] using ih

/-! ## Orders of statistics -/

theorem Options.offers_iff {options : Options} {value : String} :
    options.offers value = true ↔ value ∈ options.map Prod.fst := by
  simp [offers]

/-- The check accepts a measure and a summary with a dot between them, where
the measure has no dot. -/
theorem isStatsOrder_eq_true_iff {value : String} :
    isStatsOrder value = true ↔ ∃ measure summary, value = measure ++ "." ++ summary ∧
      '.' ∉ measure.toList ∧ statsMeasures.offers measure = true ∧
      statsSummaries.offers summary = true := by
  unfold isStatsOrder
  constructor
  · intro h
    rcases dropWhile_eq_nil_or_cons '.' value.toList with hNone | ⟨behind, hCut⟩
    · rw [hNone] at h
      cases h
    · rw [hCut, Bool.and_eq_true] at h
      obtain ⟨hDot, hValue⟩ := cut_eq_iff.1 ⟨rfl, hCut⟩
      refine ⟨_, _, ?_, ?_, h⟩
      · rw [← String.toList_inj]
        simpa using hValue
      · simpa using hDot
  · rintro ⟨measure, summary, rfl, hDot, hOffered⟩
    have hText : (measure ++ "." ++ summary).toList = measure.toList ++ '.' :: summary.toList := by
      simp
    obtain ⟨hBefore, hBehind⟩ := cut_eq_iff.2 ⟨hDot, hText⟩
    simp only [hBefore, hBehind, String.ofList_toList, Bool.and_eq_true]
    exact hOffered

theorem mem_statsOrders_iff {value : String} :
    value ∈ statsOrders ↔ ∃ measure summary, value = measure ++ "." ++ summary ∧
      statsMeasures.offers measure = true ∧ statsSummaries.offers summary = true := by
  simp only [statsOrders, List.mem_flatMap, List.mem_map, Options.offers_iff]
  constructor
  · rintro ⟨measure, hMeasure, summary, hSummary, rfl⟩
    exact ⟨_, _, rfl, ⟨measure, hMeasure, rfl⟩, ⟨summary, hSummary, rfl⟩⟩
  · rintro ⟨_, _, rfl, ⟨measure, hMeasure, rfl⟩, ⟨summary, hSummary, rfl⟩⟩
    exact ⟨measure, hMeasure, summary, hSummary, rfl⟩

/-- No measure has a dot in its name. -/
theorem dot_not_mem_measure {measure : String} (h : statsMeasures.offers measure = true) :
    '.' ∉ measure.toList := by
  have hNames : ∀ name ∈ statsMeasures.map Prod.fst, '.' ∉ name.toList := by decide
  exact hNames measure (Options.offers_iff.1 h)

/-- The check accepts a text iff it is one of the orders in the list. -/
theorem isStatsOrder_iff_mem_statsOrders (value : String) :
    isStatsOrder value = true ↔ value ∈ statsOrders := by
  rw [isStatsOrder_eq_true_iff, mem_statsOrders_iff]
  constructor
  · rintro ⟨measure, summary, rfl, -, hMeasure, hSummary⟩
    exact ⟨measure, summary, rfl, hMeasure, hSummary⟩
  · rintro ⟨measure, summary, rfl, hMeasure, hSummary⟩
    exact ⟨measure, summary, rfl, dot_not_mem_measure hMeasure, hMeasure, hSummary⟩

/-- A second dot belongs to the summary, and no summary has one. -/
example : isStatsOrder "fb_likes.sum.sum" = false := by decide

end NewsAnalytics.Catalogue
