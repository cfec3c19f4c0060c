import NewsAnalytics.Query.Articles
import NewsAnalytics.Query.Listing
import NewsAnalytics.Query.Stats

/-!
# Queries

The three kinds of query under one type, for a client that sends any of
them.
-/

namespace NewsAnalytics

/-- A query of any kind. -/
inductive Query where
  | listing (query : Listing)
  | articles (query : ArticlesQuery)
  | stats (query : StatsQuery)

/-- The request of a query. -/
def Query.toRequest : Query → Except Error Request
  | .listing query => query.toRequest
  | .articles query => query.toRequest
  | .stats query => query.toRequest

end NewsAnalytics
