import NewsAnalytics.Filter.Compile
import NewsAnalytics.Query.Entries
import NewsAnalytics.Query.Instant
import NewsAnalytics.Request.Basic
import NewsAnalytics.Request.Body

/-!
# Queries for statistics

A query for statistics sends a compiled filter, an order and a grouping,
both of which have to be given, and settings that narrow the articles
counted. The three required settings are checked in this order before the
filter is compiled.

## Main definitions

* `StatsQuery`, `StatsQuery.ofFilter` — the data and its defaults.
* `StatsQuery.set` — one setting changed.
* `StatsQuery.check` — the required settings.
* `StatsQuery.toRequest` — the request.
-/

namespace NewsAnalytics

/-- A query for statistics on articles that match a filter. -/
structure StatsQuery where
  filter : Filter
  sortBy : String
  aggregateBy : String
  autoFormat : Bool := true
  start : Option Int64 := none
  stop : Option Int64 := none
  language : Option String := some "en"
  videoOnly : Bool := false
  defaultField : Option String := none
  size : Option Int64 := none
  deriving DecidableEq

namespace StatsQuery

/-- The query with default settings. -/
def ofFilter (filter : Filter) (sortBy aggregateBy : String) : StatsQuery :=
  { filter, sortBy, aggregateBy }

/-- One setting changed. -/
inductive Setting where
  | autoFormat (autoFormat : Bool)
  | start (milliseconds : Int64)
  | startAt (instant : Instant)
  | stop (milliseconds : Int64)
  | stopAt (instant : Instant)
  | language (language : Option String)
  | videoOnly (videoOnly : Bool)
  | defaultField (field : String)
  | size (size : Int64)
  deriving DecidableEq

/-- Changes a setting. -/
def set (q : StatsQuery) : Setting → StatsQuery
  | .autoFormat autoFormat => { q with autoFormat }
  | .start milliseconds => { q with start := some milliseconds }
  | .startAt instant => { q with start := some instant.milliseconds }
  | .stop milliseconds => { q with stop := some milliseconds }
  | .stopAt instant => { q with stop := some instant.milliseconds }
  | .language language => { q with language }
  | .videoOnly videoOnly => { q with videoOnly }
  | .defaultField field => { q with defaultField := some field }
  | .size size => { q with size := some size }

/-- The required settings are there. -/
def check (q : StatsQuery) : Except Error Unit :=
  if q.filter.isEmpty then .error (.validation .noFilter)
  else if Text.isBlank q.sortBy then .error (.validation .missingSortBy)
  else if Text.isBlank q.aggregateBy then .error (.validation .missingAggregateBy)
  else .ok ()

/-- The settings by name, with the compiled filter. -/
def entries (q : StatsQuery) (filters : String) : List (String × Json) :=
  [("filters", .str filters),
   ("from", Query.numberValue q.start),
   ("to", Query.numberValue q.stop),
   ("language", Query.textValue q.language),
   ("sort_by", .str q.sortBy),
   ("aggregate_by", .str q.aggregateBy),
   ("video_only", .bool q.videoOnly),
   ("default_field", Query.textValue q.defaultField),
   ("size", Query.numberValue q.size)]

/-- The request of a query. -/
def toRequest (q : StatsQuery) : Except Error Request := do
  q.check
  let filters ← q.filter.compile q.autoFormat
  return Request.post "stats" (Request.Body.ofEntries (q.entries filters))

end StatsQuery

end NewsAnalytics
