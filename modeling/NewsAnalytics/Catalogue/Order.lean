/-!
# Orders and groupings

The values that the service accepts for ordering articles, for ordering
statistics and for grouping them, each with its label. An order of
statistics names a measure and a summary of it, joined by a dot. Requests
carry any text; these tables let a caller check it first.

## Main definitions

* `statsOrders` — every order of statistics, measure by measure.
* `isStatsOrder` — the check, which cuts the text at its first dot.
-/

namespace NewsAnalytics.Catalogue

/-- Values and their labels, in order. -/
abbrev Options := List (String × String)

/-- The value is one of the options. -/
def Options.offers (options : Options) (value : String) : Bool :=
  options.any (·.1 == value)

/-- Orders of articles. -/
def articleOrders : Options :=
  [("default", "Default"), ("fb_likes", "Facebook Likes"),
   ("fb_shares", "Facebook Shares"), ("fb_comments", "Facebook Comments"),
   ("fb_total", "Facebook Overall"), ("twitter", "Twitter"), ("linkedin", "LinkedIn"),
   ("fb_tw_and_li", "Facebook, Twitter and LinkedIn"), ("nw_score", "Score"),
   ("nw_max_score", "Max Score"), ("created_at", "Created")]

/-- The measures that statistics summarise. -/
def statsMeasures : Options :=
  [("fb_likes", "Facebook Likes"), ("fb_shares", "Facebook Shares"),
   ("fb_comments", "Facebook Comments"), ("fb_total", "Facebook Overall"),
   ("twitter", "Twitter"), ("linkedin", "LinkedIn"), ("pinterest", "Pinterest")]

/-- The summaries of a measure. -/
def statsSummaries : Options :=
  [("count", "Count"), ("min", "Min"), ("max", "Max"), ("avg", "Avg"), ("sum", "Sum"),
   ("sum_of_squares", "Sum of Squares"), ("variance", "Variance"),
   ("std_dev", "Standard Deviation")]

/-- Groupings of statistics. -/
def groupings : Options :=
  [("publisher", "Publisher"), ("domains", "Domains"), ("domain", "Domain"),
   ("language", "Language"), ("authors", "Authors"), ("country", "Country"),
   ("categories", "Categories")]

/-- Every order of statistics. -/
def statsOrders : List String :=
  statsMeasures.flatMap fun measure =>
    statsSummaries.map fun summary => measure.1 ++ "." ++ summary.1

/-- The value orders articles. -/
def isArticleOrder (value : String) : Bool := articleOrders.offers value

/-- The value groups statistics. -/
def isGrouping (value : String) : Bool := groupings.offers value

/-- The value orders statistics. -/
def isStatsOrder (value : String) : Bool :=
  let measure := value.toList.takeWhile (· ≠ '.')
  match value.toList.dropWhile (· ≠ '.') with
  | [] => false
  | _ :: summary =>
    statsMeasures.offers (String.ofList measure)
      && statsSummaries.offers (String.ofList summary)

end NewsAnalytics.Catalogue
