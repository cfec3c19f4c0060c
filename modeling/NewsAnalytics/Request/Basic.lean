import NewsAnalytics.Error
import NewsAnalytics.Text.FormEncoding

/-!
# Requests

A request is what a query comes down to and what a client sends: a method,
a path relative to the base URL, pairs for the query of the URL, and
perhaps a body. The path is not checked here.

## Main definitions

* `Method`, `Method.ofToken` — the two methods.
* `Request` — the data, with `withPair`, `withPairs` and `withBody`.
* `Request.queryString` — the pairs in written form.
-/

namespace NewsAnalytics

/-- The methods of the service. -/
inductive Method where
  | get
  | post
  deriving DecidableEq

/-- The name of a method. -/
def Method.name : Method → String
  | .get => "GET"
  | .post => "POST"

/-- The method of a token in any case of ASCII letters. -/
def Method.ofToken (token : String) : Except Error Method :=
  let lower := token.toList.map Char.toLower
  if lower = ['g', 'e', 't'] then .ok .get
  else if lower = ['p', 'o', 's', 't'] then .ok .post
  else .error (.unsupportedMethod token)

/-- A request, ready to be sent. -/
structure Request where
  method : Method
  path : String
  pairs : List (String × String) := []
  body : Option Json := none

namespace Request

/-- A request with a method given by token. -/
def ofToken (token path : String) : Except Error Request := do
  let method ← Method.ofToken token
  return { method, path }

/-- A request that asks for a path. -/
def get (path : String) : Request := { method := .get, path }

/-- A request that sends an object. -/
def post (path : String) (fields : Json.Fields) : Request :=
  { method := .post, path, body := some (.obj fields) }

/-- Adds a pair behind the others. -/
def withPair (r : Request) (key value : String) : Request :=
  { r with pairs := r.pairs ++ [(key, value)] }

/-- Adds pairs behind the others. -/
def withPairs (r : Request) (pairs : List (String × String)) : Request :=
  { r with pairs := r.pairs ++ pairs }

/-- Sets the body, which may be any value. -/
def withBody (r : Request) (body : Json) : Request := { r with body := some body }

/-- The pairs in the written form of a query. -/
def queryString (r : Request) : String := Text.FormEncoding.encodePairs r.pairs

end Request

end NewsAnalytics
