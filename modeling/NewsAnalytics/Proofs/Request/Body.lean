import NewsAnalytics.Proofs.Json.Fields
import NewsAnalytics.Request.Body

/-!
# What a body keeps

A body is built from the entries that say something, so it holds the last
such value of each name. Where the names are distinct this comes down to
one entry: it is kept as it is, or left out if it says nothing. So two
lists of entries with the same distinct names give the same body iff they
keep the same of each entry.

## Main results

* `get?_body` — the value of a name in a body.
* `get?_body_of_mem` — the same, for an entry among distinct names.
* `ofEntries_eq_iff` — when two lists of entries give the same body.
-/

namespace NewsAnalytics.Request.Body

open Json

/-- A body holds the last value of each name that says something. -/
theorem get?_body (name : String) (entries : List (String × Json)) :
    (ofEntries entries).get? name =
      Fields.last? name (entries.filter fun entry => !isFalsy entry.2) :=
  Fields.get?_ofEntries name _

theorem isSorted_ofEntries (entries : List (String × Json)) :
    Fields.IsSorted (ofEntries entries) :=
  Fields.isSorted_ofEntries _

/-- What a body keeps of a value. -/
def kept (value : Json) : Option Json := if isFalsy value then none else some value

/-- Among distinct names, an entry is kept as it is unless it says nothing. -/
theorem get?_body_of_mem {name : String} {value : Json} {entries : List (String × Json)}
    (hNodup : (entries.map Prod.fst).Nodup) (hMem : (name, value) ∈ entries) :
    (ofEntries entries).get? name = if isFalsy value then none else some value := by
  rw [get?_body]
  by_cases hFalsy : isFalsy value = true
  · rw [if_pos hFalsy]
    refine Fields.last?_eq_none_iff.2 fun entry hKept hName => ?_
    obtain ⟨hEntry, hTruthy⟩ := List.mem_filter.1 hKept
    -- the names are distinct, so the only entry of that name is the one left out
    have hSame : entry = (name, value) := List.inj_on_of_nodup_map hNodup hEntry hMem hName
    subst hSame
    simp [hFalsy] at hTruthy
  · rw [if_neg hFalsy]
    apply Fields.last?_of_mem
    · exact hNodup.sublist (List.filter_sublist.map Prod.fst)
    · exact List.mem_filter.2 ⟨hMem, by simpa using hFalsy⟩

/-- Entries of the same names of which the same is kept are left alike. -/
theorem filter_eq_of_kept_eq {entries others : List (String × Json)}
    (hNames : entries.map Prod.fst = others.map Prod.fst)
    (hKept : (entries.map fun e => kept e.2) = others.map fun e => kept e.2) :
    entries.filter (fun e => !isFalsy e.2) = others.filter fun e => !isFalsy e.2 := by
  induction entries generalizing others with
  | nil =>
      rw [List.map_nil, eq_comm, List.map_eq_nil_iff] at hNames
      rw [hNames]
  | cons entry rest ih =>
      cases others with
      | nil => cases hNames
      | cons other others =>
          obtain ⟨name, value⟩ := entry
          obtain ⟨name', value'⟩ := other
          simp only [List.map_cons, List.cons.injEq] at hNames hKept
          obtain ⟨rfl, hNames⟩ := hNames
          obtain ⟨hValue, hKept⟩ := hKept
          rw [List.filter_cons, List.filter_cons, ih hNames hKept]
          unfold kept at hValue
          cases hFalsy : isFalsy value <;> cases hFalsy' : isFalsy value' <;>
            simp [hFalsy, hFalsy'] at hValue ⊢
          exact hValue

/-- Two lists of entries with the same distinct names give the same body iff
the same is kept of each entry. -/
theorem ofEntries_eq_iff {entries others : List (String × Json)}
    (hNames : entries.map Prod.fst = others.map Prod.fst) (hNodup : (entries.map Prod.fst).Nodup) :
    ofEntries entries = ofEntries others ↔
      (entries.map fun e => kept e.2) = others.map fun e => kept e.2 := by
  constructor
  · intro hSame
    have hLength : entries.length = others.length := by
      simpa using congrArg List.length hNames
    refine List.ext_getElem (by simpa using hLength) fun i hi hi' => ?_
    rw [List.length_map] at hi hi'
    have hName : entries[i].1 = others[i].1 := by
      have hAt := List.getElem_of_eq hNames (i := i) (by simpa using hi)
      simpa using hAt
    have hLeft : (ofEntries entries).get? entries[i].1 = kept entries[i].2 :=
      get?_body_of_mem hNodup (List.getElem_mem hi)
    have hRight : (ofEntries others).get? others[i].1 = kept others[i].2 :=
      get?_body_of_mem (hNames ▸ hNodup) (List.getElem_mem hi')
    rw [hSame, hName] at hLeft
    rw [List.getElem_map, List.getElem_map]
    exact hLeft.symm.trans hRight
  · intro hKept
    rw [ofEntries, ofEntries, filter_eq_of_kept_eq hNames hKept]

end NewsAnalytics.Request.Body
