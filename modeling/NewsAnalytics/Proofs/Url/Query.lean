import NewsAnalytics.Client.Dispatch
import NewsAnalytics.Proofs.Text.FormDecoding

/-!
# Queries put together

The query of a URL grows by pairs, one `&` between what is there and what
comes. `joinParts` says the same without the order of growth: of several
parts, those that are not empty stand in their order with one `&` between
two of them. Parts may then be joined in any grouping, and empty parts do
not matter.

## Main results

* `joinParts_append` — parts may be joined in groups.
* `decodePairs_joinParts` — joined parts hold the pairs of the parts.
* `query_addPairs` — the query that pairs are added to.
-/

namespace NewsAnalytics

open Text.FormEncoding

namespace Url

/-! ## Parts -/

/-- The parts that are not empty, with one `&` between two of them. -/
def joinParts (parts : List String) : String := "&".intercalate (parts.filter (· ≠ ""))

/-- A part that is not empty makes the whole not empty. -/
private theorem intercalate_ne_empty {parts : List String} (hNe : parts ≠ [])
    (hParts : ∀ part ∈ parts, part ≠ "") : "&".intercalate parts ≠ "" := by
  obtain ⟨part, rest, rfl⟩ := List.exists_cons_of_ne_nil hNe
  have hPart : part ≠ "" := hParts part (by simp)
  cases rest with
  | nil => simpa using hPart
  | cons next rest => simp [String.intercalate_cons_cons, String.append_eq_empty_iff]

theorem joinParts_singleton (part : String) : joinParts [part] = part := by
  by_cases hPart : part = ""
  · simp [joinParts, hPart]
  · simp [joinParts, hPart]

theorem joinParts_empty_left (part : String) : joinParts ["", part] = part := by
  have hSkip : joinParts ["", part] = joinParts [part] := by simp [joinParts]
  rw [hSkip, joinParts_singleton]

theorem joinParts_empty_right (part : String) : joinParts [part, ""] = part := by
  by_cases hPart : part = ""
  · simp [joinParts, hPart]
  · simp [joinParts, hPart]

/-- Parts may be joined in groups. -/
theorem joinParts_append (xs ys : List String) :
    joinParts (xs ++ ys) = joinParts [joinParts xs, joinParts ys] := by
  by_cases hXs : xs.filter (· ≠ "") = []
  · have hEmpty : joinParts xs = "" := by rw [joinParts, hXs, String.intercalate_nil]
    rw [hEmpty, joinParts_empty_left, joinParts, List.filter_append, hXs, List.nil_append,
      joinParts]
  by_cases hYs : ys.filter (· ≠ "") = []
  · have hEmpty : joinParts ys = "" := by rw [joinParts, hYs, String.intercalate_nil]
    rw [hEmpty, joinParts_empty_right, joinParts, List.filter_append, hYs, List.append_nil,
      joinParts]
  · have hGroup : ∀ zs : List String, zs.filter (· ≠ "") ≠ [] → joinParts zs ≠ "" :=
      fun zs hNe => intercalate_ne_empty hNe fun part hPart => by
        simpa using (List.mem_filter.1 hPart).2
    have hBoth : [joinParts xs, joinParts ys].filter (· ≠ "") = [joinParts xs, joinParts ys] := by
      simp [hGroup xs hXs, hGroup ys hYs]
    rw [joinParts, List.filter_append, String.intercalate_append_of_ne_nil hXs hYs, joinParts,
      hBoth, String.intercalate_cons_cons, String.intercalate_singleton]
    rfl

/-- A group in front may be left open. -/
theorem joinParts_group_cons (xs ys : List String) :
    joinParts (joinParts xs :: ys) = joinParts (xs ++ ys) := by
  calc joinParts (joinParts xs :: ys)
      = joinParts [joinParts [joinParts xs], joinParts ys] := joinParts_append [joinParts xs] ys
    _ = joinParts [joinParts xs, joinParts ys] := by rw [joinParts_singleton]
    _ = joinParts (xs ++ ys) := (joinParts_append xs ys).symm

/-- A group at the end may be left open. -/
theorem joinParts_cons_group (x : String) (ys : List String) :
    joinParts [x, joinParts ys] = joinParts (x :: ys) := by
  have hCons := joinParts_append [x] ys
  rw [joinParts_singleton] at hCons
  exact hCons.symm

/-- Joined parts hold the pairs of the parts, in order. -/
theorem decodePairs_joinParts (parts : List String) :
    decodePairs (joinParts parts) = parts.flatMap decodePairs := by
  rw [joinParts, decodePairs_intercalate]
  induction parts with
  | nil => rfl
  | cons part rest ih =>
      by_cases hPart : part = ""
      · rw [hPart, List.flatMap_cons, decodePairs_empty, List.nil_append, ← ih]
        simp
      · rw [List.filter_cons_of_pos (by simpa using hPart), List.flatMap_cons,
          List.flatMap_cons, ih]

/-! ## Pairs -/

/-- Written pairs are the parts of their text. -/
theorem encodePairs_eq_joinParts (pairs : List (String × String)) :
    encodePairs pairs = joinParts (pairs.map encodePair) := by
  have hParts : (pairs.map encodePair).filter (· ≠ "") = pairs.map encodePair := by
    rw [List.filter_eq_self]
    intro part hPart
    obtain ⟨pair, -, rfl⟩ := List.mem_map.1 hPart
    simpa using encodePair_ne_empty pair
  rw [joinParts, hParts, encodePairs]

/-- Putting parts behind a query one by one is joining them all. -/
theorem foldl_joinQuery {parts : List String} (hParts : ∀ part ∈ parts, part ≠ "")
    (query : String) : parts.foldl joinQuery query = joinParts (query :: parts) := by
  induction parts generalizing query with
  | nil => exact (joinParts_singleton query).symm
  | cons part rest ih =>
      have hPart : part ≠ "" := hParts part (by simp)
      have hStep : joinQuery query part = joinParts [query, part] := by
        by_cases hQuery : query = ""
        · simp [joinQuery, joinParts, hQuery, hPart]
        · simp [joinQuery, joinParts, hQuery, hPart]
      calc (part :: rest).foldl joinQuery query
          = rest.foldl joinQuery (joinParts [query, part]) := by rw [List.foldl_cons, hStep]
        _ = joinParts (joinParts [query, part] :: rest) :=
            ih (fun p hp => hParts p (List.mem_cons_of_mem part hp)) _
        _ = joinParts (query :: part :: rest) := joinParts_group_cons [query, part] rest

/-- Added pairs stand behind the query that was there. -/
theorem query_addPairs (u : Url) (pairs : List (String × String)) :
    (u.addPairs pairs).query.getD "" = joinParts [u.query.getD "", encodePairs pairs] := by
  have hFold : pairs.foldl (fun query pair => joinQuery query (encodePair pair))
      (u.query.getD "") = joinParts [u.query.getD "", encodePairs pairs] := by
    rw [← List.foldl_map, foldl_joinQuery, encodePairs_eq_joinParts, joinParts_cons_group]
    intro part hPart
    obtain ⟨pair, -, rfl⟩ := List.mem_map.1 hPart
    exact encodePair_ne_empty pair
  rw [addPairs, hFold]
  by_cases hEmpty : joinParts [u.query.getD "", encodePairs pairs] = ""
  · simp [hEmpty]
  · simp [hEmpty]

end Url

end NewsAnalytics
