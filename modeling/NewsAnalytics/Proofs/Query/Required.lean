import NewsAnalytics.Proofs.Chain
import NewsAnalytics.Proofs.Filter.Compile
import NewsAnalytics.Proofs.Request.Body
import NewsAnalytics.Query.Basic

/-!
# The settings that have to be given

A query for articles needs a filter; a query for statistics needs an order
and a grouping as well. Two rules decide what the service receives of
them. The checks refuse what is blank, and the body leaves out what says
nothing. A text that passes the checks is not empty, so only one text is
accepted and then left out: `"0"`, which a body takes for no setting.

## Main results

* `required_settings_kept_iff` — a body has a required setting as it was given
  iff that is not `"0"`.
* `zero_settings_left_out` — at `"0"` the setting is missing.
-/

namespace NewsAnalytics

open Text Request

/-! ## Names of settings -/

namespace ArticlesQuery

theorem entries_nodup (q : ArticlesQuery) (filters : String) :
    ((q.entries filters).map Prod.fst).Nodup := by
  show ["filters", "from", "to", "language", "sort_by", "video_only", "default_field", "size",
    "find_related"].Nodup
  decide

/-- The request of a query is a post of its entries. -/
theorem toRequest_eq_ok_iff {q : ArticlesQuery} {r : Request} :
    q.toRequest = .ok r ↔
      ∃ filters, q.filter.compile q.autoFormat = .ok filters ∧
        r = Request.post "articles" (Body.ofEntries (q.entries filters)) := by
  simp only [toRequest, bind_eq_ok_iff, pure_eq_ok_iff, eq_comm (b := r)]

/-- A query for articles is refused iff its filter is. -/
theorem toRequest_eq_error_iff {q : ArticlesQuery} {e : Error} :
    q.toRequest = .error e ↔ q.filter.compile q.autoFormat = .error e := by
  simp only [toRequest, bind_eq_error_iff, pure_ne_error, and_false, exists_false, or_false]

end ArticlesQuery

namespace StatsQuery

theorem entries_nodup (q : StatsQuery) (filters : String) :
    ((q.entries filters).map Prod.fst).Nodup := by
  show ["filters", "from", "to", "language", "sort_by", "aggregate_by", "video_only",
    "default_field", "size"].Nodup
  decide

/-- The check asks for a filter, an order and a grouping. -/
theorem check_eq_ok_iff {q : StatsQuery} :
    q.check = .ok () ↔
      q.filter.isEmpty = false ∧ isBlank q.sortBy = false ∧ isBlank q.aggregateBy = false := by
  unfold check
  cases q.filter.isEmpty <;> cases isBlank q.sortBy <;> cases isBlank q.aggregateBy <;> simp

/-- The request of a query that passes its check is a post of its entries. -/
theorem toRequest_eq_ok_iff {q : StatsQuery} {r : Request} :
    q.toRequest = .ok r ↔
      q.check = .ok () ∧ ∃ filters, q.filter.compile q.autoFormat = .ok filters ∧
        r = Request.post "stats" (Body.ofEntries (q.entries filters)) := by
  simp only [toRequest, bind_eq_ok_iff, pure_eq_ok_iff, eq_comm (b := r)]
  exact ⟨fun ⟨_, hCheck, h⟩ => ⟨hCheck, h⟩, fun ⟨hCheck, h⟩ => ⟨(), hCheck, h⟩⟩

/-- A query for statistics is refused by its check, or else for its filter. -/
theorem toRequest_eq_error_iff {q : StatsQuery} {e : Error} :
    q.toRequest = .error e ↔
      q.check = .error e ∨ q.check = .ok () ∧ q.filter.compile q.autoFormat = .error e := by
  simp only [toRequest, bind_eq_error_iff, pure_ne_error, and_false, exists_false, or_false]
  constructor
  · rintro (hCheck | ⟨_, hCheck, hFilters⟩)
    · exact .inl hCheck
    · exact .inr ⟨hCheck, hFilters⟩
  · rintro (hCheck | ⟨hCheck, hFilters⟩)
    · exact .inl hCheck
    · exact .inr ⟨(), hCheck, hFilters⟩

end StatsQuery

/-! ## Required settings -/

/-- The settings that have to be given, as texts by name, the filter
compiled. A listing has none. -/
def Query.required : Query → Except Error (List (String × String))
  | .listing _ => .ok []
  | .articles q => do
    let filters ← q.filter.compile q.autoFormat
    return [("filters", filters)]
  | .stats q => do
    let filters ← q.filter.compile q.autoFormat
    return [("filters", filters), ("sort_by", q.sortBy), ("aggregate_by", q.aggregateBy)]

/-- A setting in the body of a request. -/
def Request.setting? (r : Request) (name : String) : Option Json :=
  match r.body with
  | some (.obj fields) => Json.Fields.get? name fields
  | _ => none

/-- Of the texts that show something, a body leaves out `"0"` only. -/
theorem setting?_post_of_shown {path name text : String} {entries : List (String × Json)}
    (hNodup : (entries.map Prod.fst).Nodup) (hMem : (name, .str text) ∈ entries)
    (hShown : isBlank text = false) :
    (Request.post path (Body.ofEntries entries)).setting? name =
      if text = "0" then none else some (.str text) := by
  show Json.Fields.get? name (Body.ofEntries entries) = _
  rw [Body.get?_body_of_mem hNodup hMem]
  simp [Body.isFalsy, Filter.ne_empty_of_not_isBlank hShown]

/-- The request of an accepted query has each required setting, unless it is
`"0"`. -/
theorem Query.setting?_required {q : Query} {r : Request} (hRequest : q.toRequest = .ok r) :
    ∃ required, q.required = .ok required ∧ ∀ s ∈ required,
      r.setting? s.1 = if s.2 = "0" then none else some (.str s.2) := by
  cases q with
  | listing l => exact ⟨[], rfl, by simp⟩
  | articles q =>
      obtain ⟨filters, hFilters, rfl⟩ := ArticlesQuery.toRequest_eq_ok_iff.1 hRequest
      refine ⟨_, bind_eq_ok_iff.2 ⟨filters, hFilters, rfl⟩, ?_⟩
      simp only [List.forall_mem_singleton]
      exact setting?_post_of_shown (q.entries_nodup filters) (by simp [ArticlesQuery.entries])
        (Filter.isBlank_compile hFilters)
  | stats q =>
      obtain ⟨hCheck, filters, hFilters, rfl⟩ := StatsQuery.toRequest_eq_ok_iff.1 hRequest
      obtain ⟨-, hSortBy, hAggregateBy⟩ := StatsQuery.check_eq_ok_iff.1 hCheck
      have hNodup := q.entries_nodup filters
      refine ⟨_, bind_eq_ok_iff.2 ⟨filters, hFilters, rfl⟩, ?_⟩
      simp only [List.forall_mem_cons]
      refine ⟨?_, ?_, ?_, by simp⟩
      · exact setting?_post_of_shown hNodup (by simp [StatsQuery.entries])
          (Filter.isBlank_compile hFilters)
      · exact setting?_post_of_shown hNodup (by simp [StatsQuery.entries]) hSortBy
      · exact setting?_post_of_shown hNodup (by simp [StatsQuery.entries]) hAggregateBy

/-- The body of an accepted query has a required setting as it was given iff
that is not `"0"`; otherwise it does not name the setting. -/
theorem required_settings_kept_iff {q : Query} {r : Request} (hRequest : q.toRequest = .ok r) :
    ∃ required, q.required = .ok required ∧ ∀ s ∈ required,
      (r.setting? s.1 = some (.str s.2) ↔ s.2 ≠ "0") ∧
        (s.2 = "0" → r.setting? s.1 = none) := by
  obtain ⟨required, hRequired, hKept⟩ := Query.setting?_required hRequest
  refine ⟨required, hRequired, fun s hs => ?_⟩
  rw [hKept s hs]
  by_cases hZero : s.2 = "0"
  · simp [hZero]
  · simp [hZero]

/-- An order is kept as it is, and a grouping `"0"` is left out. -/
theorem required_settings_kept_iff_brexit :
    ∃ r, (Query.stats (.ofFilter (.raw "brexit") "fb_likes.sum" "0")).toRequest = .ok r ∧
      r.setting? "filters" = some (.str "brexit") ∧
      r.setting? "sort_by" = some (.str "fb_likes.sum") ∧
      r.setting? "aggregate_by" = none := by
  have hRequest : (Query.stats (.ofFilter (.raw "brexit") "fb_likes.sum" "0")).toRequest = .ok _ :=
    rfl
  obtain ⟨required, hRequired, hKept⟩ := required_settings_kept_iff hRequest
  cases hRequired
  simp only [List.forall_mem_cons] at hKept
  obtain ⟨hFilters, hSortBy, hAggregateBy, -⟩ := hKept
  exact ⟨_, hRequest, hFilters.1.2 (by decide), hSortBy.1.2 (by decide), hAggregateBy.2 rfl⟩

/-- At `"0"` a required setting passes the checks and is missing from the
body. -/
theorem zero_settings_left_out :
    (∃ r, (Query.articles (.ofFilter (.raw "0"))).toRequest = .ok r ∧
      (Query.articles (.ofFilter (.raw "0"))).required = .ok [("filters", "0")] ∧
      r.setting? "filters" ≠ some (.str "0")) ∧
    (∃ r, (Query.stats (.ofFilter (.raw "brexit") "0" "0")).toRequest = .ok r ∧
      r.setting? "sort_by" ≠ some (.str "0") ∧ r.setting? "aggregate_by" ≠ some (.str "0")) := by
  constructor
  · have hRequired : (Query.articles (.ofFilter (.raw "0"))).required =
        .ok [("filters", "0")] := rfl
    obtain ⟨required, hSame, hKept⟩ := Query.setting?_required
      (q := .articles (.ofFilter (.raw "0"))) rfl
    obtain rfl := Except.ok.inj (hRequired.symm.trans hSame)
    refine ⟨_, rfl, hRequired, ?_⟩
    rw [hKept ("filters", "0") (by simp)]
    simp
  · have hRequired : (Query.stats (.ofFilter (.raw "brexit") "0" "0")).required =
        .ok [("filters", "brexit"), ("sort_by", "0"), ("aggregate_by", "0")] := rfl
    obtain ⟨required, hSame, hKept⟩ := Query.setting?_required
      (q := .stats (.ofFilter (.raw "brexit") "0" "0")) rfl
    obtain rfl := Except.ok.inj (hRequired.symm.trans hSame)
    refine ⟨_, rfl, ?_, ?_⟩
    · rw [hKept ("sort_by", "0") (by simp)]
      simp
    · rw [hKept ("aggregate_by", "0") (by simp)]
      simp

end NewsAnalytics
