import NewsAnalytics.Proofs.Filter.Fault
import NewsAnalytics.Proofs.Query.Required
import NewsAnalytics.Proofs.Request.Kept

/-!
# Settings that two queries share

A query for articles and one for statistics have eight settings in common.
Each kind lists them among its own, in its own order, and checks them in its
own way. Still the service sees the same of them: where the settings are the
same, either both queries are refused or both bodies have the same of all
eight, and one setting more at most.

The refusals are the same too, unless there is no filter at all. Then the
query for statistics complains first, in other words.

## Main results

* `ArticlesQuery.entries_eq`, `StatsQuery.entries_perm` — the entries of both
  kinds are the shared ones and one more.
* `StatsQuery.body_eq` — so their bodies differ in one setting each.
* `shared_settings_treated_alike` — all of it.
-/

namespace NewsAnalytics

open Text Request

/-! ## Entries -/

/-- The query for statistics with the settings of a query for articles. -/
def ArticlesQuery.toStats (q : ArticlesQuery) (aggregateBy : String) : StatsQuery where
  filter := q.filter
  sortBy := q.sortBy
  aggregateBy := aggregateBy
  autoFormat := q.autoFormat
  start := q.start
  stop := q.stop
  language := q.language
  videoOnly := q.videoOnly
  defaultField := q.defaultField
  size := q.size

/-- The names of the settings that both kinds of query have. -/
def Query.sharedNames : List String :=
  ["filters", "from", "to", "language", "sort_by", "video_only", "default_field", "size"]

/-- The settings that both kinds of query have, with the compiled filter. -/
def ArticlesQuery.sharedEntries (q : ArticlesQuery) (filters : String) : List (String × Json) :=
  [("filters", .str filters),
   ("from", Query.numberValue q.start),
   ("to", Query.numberValue q.stop),
   ("language", Query.textValue q.language),
   ("sort_by", .str q.sortBy),
   ("video_only", .bool q.videoOnly),
   ("default_field", Query.textValue q.defaultField),
   ("size", Query.numberValue q.size)]

theorem ArticlesQuery.sharedEntries_names (q : ArticlesQuery) (filters : String) :
    (q.sharedEntries filters).map Prod.fst = Query.sharedNames := rfl

/-- A query for articles has one entry more. -/
theorem ArticlesQuery.entries_eq (q : ArticlesQuery) (filters : String) :
    q.entries filters = q.sharedEntries filters ++ [("find_related", .bool q.findRelated)] := rfl

/-- A query for statistics has another one, among the shared entries. -/
theorem StatsQuery.entries_perm (q : ArticlesQuery) (aggregateBy filters : String) :
    ((q.toStats aggregateBy).entries filters).Perm
      (q.sharedEntries filters ++ [("aggregate_by", .str aggregateBy)]) :=
  (List.perm_append_singleton ("aggregate_by", Json.str aggregateBy) _).symm.append_left
    ((q.sharedEntries filters).take 5)

/-! ## Bodies -/

variable {name filters : String} {value : Json}

/-- One entry more changes nothing of the shared settings. -/
theorem ArticlesQuery.get?_shared (q : ArticlesQuery) (other : String)
    (hOther : other ∉ Query.sharedNames) (hName : name ∈ Query.sharedNames) :
    (Body.ofEntries (q.sharedEntries filters ++ [(other, value)])).get? name =
      (Body.ofEntries (q.sharedEntries filters)).get? name :=
  Body.get?_ofEntries_concat_of_ne (ne_of_mem_of_not_mem hName hOther)

/-- A body of the shared settings and one more has no other names. -/
theorem ArticlesQuery.name_of_mem_shared {q : ArticlesQuery} {other : String}
    {f : String × Json}
    (hField : f ∈ Body.ofEntries (q.sharedEntries filters ++ [(other, value)])) :
    f.1 ∈ Query.sharedNames ∨ f.1 = other := by
  have hEntry := (List.mem_filter.1 (Json.Fields.mem_of_mem_ofEntries hField)).1
  rcases List.mem_append.1 hEntry with hShared | hOther
  · left
    rw [← q.sharedEntries_names filters]
    exact List.mem_map_of_mem hShared
  · right
    rw [List.mem_singleton.1 hOther]

/-- The body of a query for statistics is that of the shared settings and the
grouping. -/
theorem StatsQuery.body_eq (q : ArticlesQuery) (aggregateBy filters : String) :
    Body.ofEntries ((q.toStats aggregateBy).entries filters) =
      Body.ofEntries (q.sharedEntries filters ++ [("aggregate_by", .str aggregateBy)]) :=
  Body.ofEntries_perm ((q.toStats aggregateBy).entries_nodup filters)
    (StatsQuery.entries_perm q aggregateBy filters)

/-! ## Both queries -/

/-- With the same settings, an order and a grouping, a query for articles and
one for statistics are both accepted or both refused. Where they are accepted
they send the same of all shared settings and of one more setting each.
Where they are refused the cause is the same, unless there is no filter. -/
theorem shared_settings_treated_alike (q : ArticlesQuery) (aggregateBy : String)
    (hSortBy : isBlank q.sortBy = false) (hAggregateBy : isBlank aggregateBy = false) :
    (∃ fields others,
      q.toRequest = .ok (Request.post "articles" fields) ∧
      (q.toStats aggregateBy).toRequest = .ok (Request.post "stats" others) ∧
      (∀ name ∈ Query.sharedNames, Json.Fields.get? name fields = Json.Fields.get? name others) ∧
      (∀ f ∈ fields, f.1 ∈ Query.sharedNames ∨ f.1 = "find_related") ∧
      ∀ f ∈ others, f.1 ∈ Query.sharedNames ∨ f.1 = "aggregate_by") ∨
    ∃ cause other,
      q.toRequest = .error (.validation cause) ∧
      (q.toStats aggregateBy).toRequest = .error (.validation other) ∧
      (q.filter.isEmpty = false → cause = other) := by
  cases hEmpty : q.filter.isEmpty with
  | true =>
      -- the one case where the check of a query for statistics comes first
      have hCheck : (q.toStats aggregateBy).check = .error (.validation .noFilter) :=
        if_pos hEmpty
      exact .inr ⟨.emptyFilter, .noFilter,
        ArticlesQuery.toRequest_eq_error_iff.2 (Filter.compile_of_isEmpty hEmpty),
        StatsQuery.toRequest_eq_error_iff.2 (.inl hCheck), nofun⟩
  | false =>
      have hCheck : (q.toStats aggregateBy).check = .ok () :=
        StatsQuery.check_eq_ok_iff.2 ⟨hEmpty, hSortBy, hAggregateBy⟩
      cases hFilters : q.filter.compile q.autoFormat with
      | error e =>
          obtain ⟨-, -, cause, -, rfl⟩ := Filter.exists_fault_of_compile hEmpty hFilters
          exact .inr ⟨cause, cause, ArticlesQuery.toRequest_eq_error_iff.2 hFilters,
            StatsQuery.toRequest_eq_error_iff.2 (.inr ⟨hCheck, hFilters⟩), fun _ => rfl⟩
      | ok filters =>
          refine .inl ⟨_, _, ArticlesQuery.toRequest_eq_ok_iff.2 ⟨filters, hFilters, rfl⟩,
            StatsQuery.toRequest_eq_ok_iff.2 ⟨hCheck, filters, hFilters, rfl⟩, ?_, ?_, ?_⟩
          · intro name hName
            rw [q.entries_eq, q.get?_shared "find_related" (by decide) hName,
              StatsQuery.body_eq, q.get?_shared "aggregate_by" (by decide) hName]
          · intro f hField
            rw [q.entries_eq] at hField
            exact ArticlesQuery.name_of_mem_shared hField
          · intro f hField
            rw [StatsQuery.body_eq] at hField
            exact ArticlesQuery.name_of_mem_shared hField

/-- A text is sent alike by both queries, and a field that is not known is
refused alike. -/
theorem shared_settings_treated_alike_brexit :
    (∃ fields others,
      (ArticlesQuery.ofFilter (.raw "brexit")).toRequest = .ok (Request.post "articles" fields) ∧
      (StatsQuery.ofFilter (.raw "brexit") "default" "publisher").toRequest =
        .ok (Request.post "stats" others) ∧
      Json.Fields.get? "filters" fields = Json.Fields.get? "filters" others) ∧
    (ArticlesQuery.ofFilter (.terms [⟨some "nope", .one "x"⟩])).toRequest =
      (StatsQuery.ofFilter (.terms [⟨some "nope", .one "x"⟩]) "default" "domains").toRequest := by
  constructor
  · rcases shared_settings_treated_alike (.ofFilter (.raw "brexit")) "publisher" (by decide)
      (by decide) with ⟨fields, others, hArticles, hStats, hShared, -, -⟩ | ⟨_, _, hArticles, -⟩
    · exact ⟨fields, others, hArticles, hStats, hShared "filters" (by decide)⟩
    · cases hArticles
  · rcases shared_settings_treated_alike (.ofFilter (.terms [⟨some "nope", .one "x"⟩]))
      "domains" (by decide) (by decide) with
      ⟨_, _, hArticles, -⟩ | ⟨cause, _, hArticles, hStats, hCause⟩
    · cases hArticles
    · obtain rfl := hCause rfl
      exact hArticles.trans hStats.symm

end NewsAnalytics
