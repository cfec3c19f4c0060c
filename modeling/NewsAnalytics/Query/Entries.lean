import NewsAnalytics.Json.Value

/-!
# Settings as values of a body

A setting that is not given is null, which a body leaves out.
-/

namespace NewsAnalytics.Query

/-- A number that may be missing. -/
def numberValue (n : Option Int64) : Json :=
  match n with
  | some n => .num (.int n.toInt)
  | none => .null

/-- A text that may be missing. -/
def textValue (s : Option String) : Json :=
  match s with
  | some s => .str s
  | none => .null

end NewsAnalytics.Query
