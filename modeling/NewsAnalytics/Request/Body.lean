import NewsAnalytics.Json.Value

/-!
# Bodies without empty settings

A body lists settings by name. Settings that say nothing are left out:
null, false, zero, the texts `""` and `"0"`, and empty containers. A name
that occurs twice keeps its last setting that says something.

## Main definitions

* `isFalsy` — settings that say nothing.
* `ofEntries` — the fields of a body.
-/

namespace NewsAnalytics.Request.Body

/-- A setting that says nothing. -/
def isFalsy : Json → Bool
  | .null => true
  | .bool b => !b
  | .num n => n.isZero
  | .str s => s = "" || s = "0"
  | .arr items => items.isEmpty
  | .obj fields => fields.isEmpty

/-- The fields of a body that lists these settings. -/
def ofEntries (entries : List (String × Json)) : Json.Fields :=
  Json.Fields.ofEntries (entries.filter fun entry => !isFalsy entry.2)

end NewsAnalytics.Request.Body
