import NewsAnalytics.Filter.Compile
import NewsAnalytics.Query.Entries
import NewsAnalytics.Query.Instant
import NewsAnalytics.Request.Basic
import NewsAnalytics.Request.Body

/-!
# Queries for articles

A query for articles sends a compiled filter with settings that narrow and
order the result. Settings are changed one at a time; the bounds of time
can be set in milliseconds or by instant.

## Main definitions

* `ArticlesQuery`, `ArticlesQuery.ofFilter` — the data and its defaults.
* `ArticlesQuery.set` — one setting changed.
* `ArticlesQuery.toRequest` — the request.
-/

namespace NewsAnalytics

/-- A query for articles that match a filter. -/
structure ArticlesQuery where
  filter : Filter
  autoFormat : Bool := true
  start : Option Int64 := none
  stop : Option Int64 := none
  language : Option String := some "en"
  sortBy : String := "default"
  videoOnly : Bool := false
  defaultField : Option String := none
  size : Option Int64 := none
  findRelated : Bool := true
  deriving DecidableEq

namespace ArticlesQuery

/-- The query with default settings. -/
def ofFilter (filter : Filter) : ArticlesQuery := { filter }

/-- One setting changed. -/
inductive Setting where
  | autoFormat (autoFormat : Bool)
  | start (milliseconds : Int64)
  | startAt (instant : Instant)
  | stop (milliseconds : Int64)
  | stopAt (instant : Instant)
  | language (language : Option String)
  | sortBy (sortBy : String)
  | videoOnly (videoOnly : Bool)
  | defaultField (field : String)
  | size (size : Int64)
  | findRelated (findRelated : Bool)
  deriving DecidableEq

/-- Changes a setting. -/
def set (q : ArticlesQuery) : Setting → ArticlesQuery
  | .autoFormat autoFormat => { q with autoFormat }
  | .start milliseconds => { q with start := some milliseconds }
  | .startAt instant => { q with start := some instant.milliseconds }
  | .stop milliseconds => { q with stop := some milliseconds }
  | .stopAt instant => { q with stop := some instant.milliseconds }
  | .language language => { q with language }
  | .sortBy sortBy => { q with sortBy }
  | .videoOnly videoOnly => { q with videoOnly }
  | .defaultField field => { q with defaultField := some field }
  | .size size => { q with size := some size }
  | .findRelated findRelated => { q with findRelated }

/-- The settings by name, with the compiled filter. -/
def entries (q : ArticlesQuery) (filters : String) : List (String × Json) :=
  [("filters", .str filters),
   ("from", Query.numberValue q.start),
   ("to", Query.numberValue q.stop),
   ("language", Query.textValue q.language),
   ("sort_by", .str q.sortBy),
   ("video_only", .bool q.videoOnly),
   ("default_field", Query.textValue q.defaultField),
   ("size", Query.numberValue q.size),
   ("find_related", .bool q.findRelated)]

/-- The request of a query. -/
def toRequest (q : ArticlesQuery) : Except Error Request := do
  let filters ← q.filter.compile q.autoFormat
  return Request.post "articles" (Request.Body.ofEntries (q.entries filters))

end ArticlesQuery

end NewsAnalytics
